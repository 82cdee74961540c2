import ShopQuery.Run

/-!
# The program

Looks at the files that a run needs, lets the run decide, and writes what has come of it. No line
to a server is opened here, so every server counts as one that cannot be reached.
-/

namespace ShopQuery.Program

/-- The tree with the nearest directory above a place that exists, or the file in its stead. -/
def lookAbove (files : Files) : List String → IO Files
  | [] => return files
  | name :: above => do
    let place := (name :: above).reverse
    let path := (← IO.currentDir) / ("/" ++ "/".intercalate place)
    if ← path.isDir then return files.put place .directory
    if ← path.pathExists then return files.put place (.file [])
    lookAbove files above

/-- The tree with what stands at a path. -/
def look (files : Files) (path : String) : IO Files := do
  let place := files.placeOf path
  let full := (← IO.currentDir) / path
  if ← full.isDir then return files.put place .directory
  try
    let octets ← IO.FS.readBinFile full
    return files.put place (.file octets.toList)
  catch _ => lookAbove files place.reverse

/-- The tree with the environment files in a directory and above it. The names that lead to the
directory come last name first. -/
def lookForEnvFiles (files : Files) : List String → IO Files
  | [] => look files ("/" ++ EnvFile.fileName)
  | name :: above => do
    let directory := "/" ++ "/".intercalate (name :: above).reverse
    lookForEnvFiles (← look files (joinPath directory EnvFile.fileName)) above

/-- The tree with all files that a run on some arguments looks at. -/
def lookForRun [CommandLine.Account] (files : Files) (env : Environment) (args : List String) :
    IO Files := do
  match CommandLine.Invocation.ofArguments env args with
  | .error _ => return files
  | .ok invocation =>
    let files ← look files CommandLine.Invocation.localConfig
    let files ← look files (invocation.configPath files env)
    look (← look files invocation.input) invocation.output

/-- The variables that the program was started with. -/
def environment : IO Environment := do
  try return Environment.ofOctets (← IO.FS.readBinFile "/proc/self/environ").toList
  catch _ => return Environment.empty

/-- The number of the user, in what the system tells of a running program. -/
def userOf? (status : String) : Option String :=
  (status.splitOn "\n").findSome? fun line =>
    match line.splitOn "\t" with
    | "Uid:" :: user :: _ => some user
    | _ => none

/-- The home directory of a user, in the list of all accounts. -/
def homeOf? (accounts user : String) : Option String :=
  (accounts.splitOn "\n").findSome? fun line =>
    match line.splitOn ":" with
    | [_, _, number, _, _, home, _] => if number = user then some home else none
    | _ => none

/-- The account that the program runs under. -/
def account : IO CommandLine.Account := do
  try
    let status ← IO.FS.readFile "/proc/self/status"
    let accounts ← IO.FS.readFile "/etc/passwd"
    return ⟨(userOf? status).bind (homeOf? accounts)⟩
  catch _ => return ⟨none⟩

/-- Writes a file of a tree to where it belongs. The answer is what went wrong. -/
def store (files : Files) (path : String) : IO (Option Error) := do
  match files.readOctets path with
  | .error _ => return none
  | .ok octets =>
    try
      IO.FS.writeBinFile path ⟨octets.toArray⟩
      return none
    catch e => return some (.write s!"Failed to write {path}: {e}")

def report (ending : Ending) : IO Unit := do
  if let some message := ending.message? then IO.eprintln message
  if let .refused fault := ending then IO.eprintln fault.message

/-- Writes what a program leaves behind. That can go wrong as well. -/
def stored (ending : Ending) : IO Ending := do
  match ending with
  | .written output files =>
    match ← store files output with
    | none => return ending
    | some error => return .failed error
  | ending => return ending

end ShopQuery.Program

open ShopQuery in
def main (args : List String) : IO UInt32 := do
  let here := (PathSteps.ofText (← IO.currentDir).toString).names
  let env ← Program.environment
  let _account ← Program.account
  let files ← Program.lookForEnvFiles ⟨here, []⟩ here.reverse
  let files ← Program.lookForRun files ((Run.prepare files env).getD env) args
  let ending ← Program.stored (Run.program Server.unreachable files env args ()).1
  Program.report ending
  return ending.exitCode
