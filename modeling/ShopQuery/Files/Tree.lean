import ShopQuery.Files.Path
import ShopQuery.Text.Utf8

/-!
# File trees

The files that a program finds, as a value. A tree says what stands at which place; a place is the
list of names that lead there from the root.

## Following a path

A path is followed name by name. Every name but the last has to be a directory, also one that `..`
leaves again. What stands in the way decides the fault.

## Reading and writing

Only a file can be read. Writing replaces a file or makes a new one, and needs the directory to be
there. A path that ends with a slash cannot be written, whatever its last name is.
-/

namespace ShopQuery

/-! ## 1. Trees -/

/-- What stands at a place. -/
inductive FileNode where
  | file (octets : List UInt8)
  | directory
deriving DecidableEq, Repr

/-- The files that a program finds. Every place that leads to a listed one, or to the working
directory, is a directory. -/
structure Files where
  workingDirectory : List String
  entries : List (List String × FileNode)
deriving DecidableEq, Repr

inductive FileFault where
  | notFound
  | notDirectory
  | isDirectory
  | nameTooLong
  | nulInPath
  | notText
deriving DecidableEq, Repr

def FileFault.message : FileFault → String
  | .notFound => "No such file or directory (os error 2)"
  | .notDirectory => "Not a directory (os error 20)"
  | .isDirectory => "Is a directory (os error 21)"
  | .nameTooLong => "File name too long (os error 36)"
  | .nulInPath => "file name contained an unexpected NUL byte"
  | .notText => "stream did not contain valid UTF-8"

namespace Files

def maxNameOctets : Nat := 255

def maxPathOctets : Nat := 4095

/-- Whether a place leads to something listed. -/
def leadsOn (files : Files) (place : List String) : Bool :=
  place.isPrefixOf files.workingDirectory || files.entries.any fun e => place.isPrefixOf e.1

def node? (files : Files) (place : List String) : Option FileNode :=
  match files.entries.lookup place with
  | some node => some node
  | none => if files.leadsOn place then some .directory else none

/-! ## 2. Following a path -/

/-- The place that a name leads to, from a directory. -/
def step (place : List String) (name : String) : List String :=
  if name = "." then place
  else if name = ".." then place.dropLast
  else place ++ [name]

def checkDirectory (files : Files) (place : List String) : Except FileFault Unit :=
  match files.node? place with
  | none => .error .notFound
  | some (.file _) => .error .notDirectory
  | some .directory => .ok ()

/-- What a name leads to, from a place that has to be a directory. -/
def enter (files : Files) (place : List String) (name : String) :
    Except FileFault (List String) := do
  files.checkDirectory place
  if maxNameOctets < name.utf8ByteSize then throw .nameTooLong
  return step place name

def startOf (files : Files) (steps : PathSteps) : List String :=
  if steps.absolute then [] else files.workingDirectory

/-- The place of a path, as it is written: nothing on the way is looked at. -/
def placeOf (files : Files) (path : String) : List String :=
  let steps := PathSteps.ofText path
  steps.names.foldl step (files.startOf steps)

/-- Follows names from a place. The last of them need not exist. -/
def follow (files : Files) (place : List String) (names : List String) :
    Except FileFault (List String) :=
  names.foldlM files.enter place

/-- The names of a path that can be followed at all. -/
def stepsOf (path : String) : Except FileFault PathSteps := do
  if path.toList.contains '\x00' then throw .nulInPath
  if path.isEmpty then throw .notFound
  if maxPathOctets < path.utf8ByteSize then throw .nameTooLong
  return PathSteps.ofText path

/-! ## 3. Reading and writing -/

def find (files : Files) (path : String) : Except FileFault FileNode := do
  let steps ← stepsOf path
  let place ← files.follow (files.startOf steps) steps.names
  match files.node? place with
  | none => throw .notFound
  | some .directory => return .directory
  | some (.file octets) => if steps.trailing then throw .notDirectory else return .file octets

def exist (files : Files) (path : String) : Bool :=
  match files.find path with
  | .ok _ => true
  | .error _ => false

def readOctets (files : Files) (path : String) : Except FileFault (List UInt8) := do
  match ← files.find path with
  | .file octets => return octets
  | .directory => throw .isDirectory

def readText (files : Files) (path : String) : Except FileFault String := do
  let octets ← files.readOctets path
  match Utf8.decode octets with
  | .ok text => return text
  | .error _ => throw .notText

/-- A list of entries with one of them set. -/
def setEntry (place : List String) (node : FileNode) :
    List (List String × FileNode) → List (List String × FileNode)
  | [] => [(place, node)]
  | entry :: rest =>
    if entry.1 = place then (place, node) :: rest else entry :: setEntry place node rest

def put (files : Files) (place : List String) (node : FileNode) : Files :=
  { files with entries := setEntry place node files.entries }

/-- The tree after octets were written to a path. What a file held before is gone. -/
def write (files : Files) (path : String) (octets : List UInt8) : Except FileFault Files := do
  let steps ← stepsOf path
  if steps.trailing then
    files.checkDirectory (← files.follow (files.startOf steps) steps.names.dropLast)
    throw .isDirectory
  let place ← files.follow (files.startOf steps) steps.names
  match files.node? place with
  | some .directory => throw .isDirectory
  | _ => return files.put place (.file octets)

end Files

end ShopQuery
