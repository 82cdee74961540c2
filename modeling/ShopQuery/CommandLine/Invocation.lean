import ShopQuery.CommandLine.Token
import ShopQuery.Files.Tree
import ShopQuery.Report
import ShopQuery.Settings.Environment

/-!
# Invocations

What the command line asks for: a command, a request file and a file for the result. Two options
may stand before the command, after it, or both.

## Slots

A value fills a slot only when the next argument of its level has been looked at. So a fault of a
value is reported after the faults that lie in the shape of that argument: a flag that does not
exist, or a word too many.

## Levels

The arguments before the command and those after it are two levels. Each may set an option once;
what is set after the command counts. The level after the command is read to its end before the
last value of the level before it is looked at.

## Config files

Without an option for it, the config file is looked for in the working directory and then in the
directory of the user's config files, which the environment names or the account of the user has
(`Account`).
-/

namespace ShopQuery.CommandLine

/-! ## 1. Faults -/

/-- Why a command line asks for no run. -/
inductive Fault where
  | helpAsked
  | versionAsked
  /-- There is nothing on it, and nothing in the environment for it. -/
  | nothingGiven
  | commandMissing
  | commandUnknown
  | argumentUnknown
  | optionRepeated
  /-- A value is missing, or empty where it may not be. -/
  | valueInvalid
  | valueNotTaken
  | fileMissing
deriving DecidableEq, Repr

def Fault.exitCode : Fault → UInt32
  | .helpAsked | .versionAsked => 0
  | _ => 2

/-- The kind of a fault in words. The report that is made of it, with the arguments it is about and
the usage, is up to the library that reads command lines and is not followed here. -/
def Fault.message : Fault → String
  | .helpAsked | .versionAsked | .nothingGiven => ""
  | .commandMissing => "a subcommand is required but one was not provided"
  | .commandUnknown => "unrecognized subcommand"
  | .argumentUnknown => "unexpected argument found"
  | .optionRepeated =>
    "an argument cannot be used with one or more of the other specified arguments"
  | .valueInvalid => "one of the values isn't valid for an argument"
  | .valueNotTaken => "unexpected value for an argument found"
  | .fileMissing => "one or more required arguments were not provided"

/-! ## 2. Levels -/

/-- What a value is for. -/
inductive Slot where
  | config
  | databaseUrl
  | input
  | output
deriving DecidableEq, Repr

structure Values where
  config : Option String
  databaseUrl : Option String
  input : Option String
  output : Option String
deriving DecidableEq, Repr

namespace Values

def empty : Values := ⟨none, none, none, none⟩

def get? (values : Values) : Slot → Option String
  | .config => values.config
  | .databaseUrl => values.databaseUrl
  | .input => values.input
  | .output => values.output

def set (values : Values) (slot : Slot) (value : String) : Values :=
  match slot with
  | .config => { values with config := some value }
  | .databaseUrl => { values with databaseUrl := some value }
  | .input => { values with input := some value }
  | .output => { values with output := some value }

/-- Fills a slot that is not filled yet. A path may not be empty. -/
def fill (values : Values) (slot : Slot) (value : String) : Except Fault Values :=
  if (values.get? slot).isSome then .error .optionRepeated
  else if slot != .databaseUrl && value.isEmpty then .error .valueInvalid
  else .ok (values.set slot value)

end Values

structure Level where
  values : Values
  /-- The slot that was named last, and its value if that has been read. -/
  pending : Option (Slot × Option String)
  /-- The slots of the files that are still to come. -/
  files : List Slot
deriving DecidableEq, Repr

namespace Level

/-- The start of the level before the command. -/
def outer : Level := ⟨.empty, none, []⟩

/-- The start of the level after a command. -/
def inner : Level := ⟨.empty, none, [.input, .output]⟩

/-- Whether the option named last still needs its value. -/
def isWaiting (level : Level) : Bool :=
  match level.pending with
  | some (_, none) => true
  | _ => false

/-- Fills the slot that was named last. -/
def settle (level : Level) : Except Fault Level :=
  match level.pending with
  | none => .ok level
  | some (_, none) => .error .valueInvalid
  | some (slot, some value) => do
    return { level with values := ← level.values.fill slot value, pending := none }

/-- Names a slot, with or without a value, after filling the one named before. -/
def name (level : Level) (slot : Slot) (value : Option String) : Except Fault Level := do
  return { ← level.settle with pending := some (slot, value) }

/-- Gives the option named last its value. -/
def giveValue (level : Level) (value : String) : Level :=
  match level.pending with
  | some (slot, none) => { level with pending := some (slot, some value) }
  | _ => level

/-- Stops for a flag, after filling the slot that was named last. -/
def stop (level : Level) (fault : Fault) : Except Fault Level := do
  let _ ← level.settle
  throw fault

/-- Reads an option with its value after an equals sign, or without. -/
def option (level : Level) (slot : Slot) (value : Option String) : Except Fault Level := do
  let level ← level.name slot value
  if value.isSome then level.settle else return level

/-- Reads a long argument. Only the level before the command has a version. -/
def long (level : Level) (hasVersion : Bool) (name : String) (value : Option String) :
    Except Fault Level :=
  match name with
  | "config" => level.option .config value
  | "database-url" => level.option .databaseUrl value
  | "help" => if value.isSome then .error .valueNotTaken else level.stop .helpAsked
  | "version" =>
    if !hasVersion then .error .argumentUnknown
    else if value.isSome then .error .valueNotTaken
    else level.stop .versionAsked
  | _ => .error .argumentUnknown

def short (level : Level) (hasVersion : Bool) (letter : Char) : Except Fault Level :=
  match letter with
  | 'h' => level.stop .helpAsked
  | 'V' => if hasVersion then level.stop .versionAsked else .error .argumentUnknown
  | _ => .error .argumentUnknown

/-- Reads a word as the next file. -/
def file (level : Level) (path : String) : Except Fault Level :=
  match level.files with
  | [] => .error .argumentUnknown
  | slot :: rest => do return { ← level.name slot (some path) with files := rest }

end Level

/-! ## 3. Reading -/

structure Invocation where
  mode : Mode
  input : String
  output : String
  config : Option String
  databaseUrl : Option String
deriving DecidableEq, Repr

/-- Reads the level after a command. Once it is escaped, all arguments are files. -/
def readInner (escaped : Bool) (level : Level) : List String → Except Fault Level
  | [] => level.settle
  | arg :: rest => do
    if escaped then readInner true (← level.file arg) rest
    else
      match Token.ofText arg with
      | .escape => readInner true level rest
      | .long name value => readInner false (← level.long false name value) rest
      | .short letter => readInner false (← level.short false letter) rest
      | .word text =>
        if level.isWaiting then readInner false (level.giveValue text) rest
        else readInner false (← level.file text) rest

inductive Command where
  | run (mode : Mode)
  | help
deriving DecidableEq, Repr

def Command.ofName? : String → Option Command
  | "search" => some (.run .search)
  | "stat" => some (.run .stat)
  | "help" => some .help
  | _ => none

/-- The fault that a request for help ends with: it may be about one command. -/
def helpAbout : List String → Fault
  | [] => .helpAsked
  | [topic] => if (Command.ofName? topic).isSome then .helpAsked else .commandUnknown
  | _ => .commandUnknown

def bothFiles (values : Values) : Except Fault (String × String) :=
  match values.input, values.output with
  | some input, some output => .ok (input, output)
  | _, _ => .error .fileMissing

/-- Reads the arguments after a command, and then settles the level before it. -/
def runCommand (mode : Mode) (outer : Level) (args : List String) : Except Fault Invocation := do
  let inner ← readInner false .inner args
  let (input, output) ← bothFiles inner.values
  let outer ← outer.settle
  return {
    mode, input, output
    config := inner.values.config.or outer.values.config
    databaseUrl := inner.values.databaseUrl.or outer.values.databaseUrl }

def withoutCommand (level : Level) (urlIsSet : Bool) : Except Fault Invocation := do
  let level ← level.settle
  if level.values = .empty && !urlIsSet then throw .nothingGiven else throw .commandMissing

def readOuter (urlIsSet : Bool) (level : Level) : List String → Except Fault Invocation
  | [] => withoutCommand level urlIsSet
  | arg :: rest =>
    match if level.isWaiting then none else Command.ofName? arg with
    | some (.run mode) => runCommand mode level rest
    | some .help => .error (helpAbout rest)
    | none =>
      match Token.ofText arg with
      | .escape =>
        match rest with
        | [] => withoutCommand level urlIsSet
        | next :: _ =>
          .error (if (Command.ofName? next).isSome then .argumentUnknown else .commandUnknown)
      | .long name value => do readOuter urlIsSet (← level.long true name value) rest
      | .short letter => do readOuter urlIsSet (← level.short true letter) rest
      | .word text =>
        if level.isWaiting then readOuter urlIsSet (level.giveValue text) rest
        else .error .commandUnknown

/-- The account that a program runs under. Its home directory is what the system knows of the user,
whatever the environment says. -/
class Account where
  home? : Option String

/-- An account of which nothing is known. -/
instance (priority := low) unknownAccount : Account := ⟨none⟩

namespace Invocation

/-- The variable that stands for the url option where that is missing. -/
def urlVariable : String := "DATABASE_URL"

/-- Reads the arguments of a command line, without the name of the program. -/
def ofArguments (env : Environment) (args : List String) : Except Fault Invocation := do
  let url := env.get? urlVariable
  let invocation ← readOuter url.isSome .outer args
  return { invocation with databaseUrl := invocation.databaseUrl.or url }

/-! ## 4. The config file -/

/-- The name of the config file in the working directory. -/
def localConfig : String := "shopdb.toml"

/-- A text that is missing or empty. -/
def unlessEmpty (text : Option String) : Option String := text.filter (!·.isEmpty)

/-- The home directory of the user: that of the environment, or else that of the account. -/
def homeDirectory? [Account] (env : Environment) : Option String :=
  (unlessEmpty (env.get? "HOME")).or (unlessEmpty Account.home?)

/-- The directory of the user's config files. One that is named in the environment has to be an
absolute path. -/
def configDirectory [Account] (env : Environment) : String :=
  match (env.get? "XDG_CONFIG_HOME").filter (·.toList.head? = some '/'), homeDirectory? env with
  | some directory, _ => directory
  | none, some home => joinPath home ".config"
  | none, none => "."

/-- The path of the config file: the one that was asked for, or else the one in the working
directory, or else the user's. -/
def configPath [Account] (invocation : Invocation) (files : Files) (env : Environment) : String :=
  match invocation.config with
  | some path => path
  | none =>
    if files.exist localConfig then localConfig
    else joinPath (joinPath (configDirectory env) "shopdb") "config.toml"

end Invocation

end ShopQuery.CommandLine
