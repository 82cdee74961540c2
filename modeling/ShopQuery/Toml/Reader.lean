import ShopQuery.Toml.Lexeme

/-!
# Reading TOML

A document is a table of named values. Its lines set values, and headers say in which table.

## Tables

A table may be opened by one header only. A header opens the tables in front of its last part as
well, and so do the dotted keys of a value, but in different ways: a table that a header opened on
the way may still get a header of its own, and a table that a dotted key opened may get more dotted
keys from the same place. Anything else that names a table or value twice is refused.
-/

namespace ShopQuery.Toml

/-! ## 1. Nodes -/

/-- How a table came to be. -/
structure Origin where
  /-- No header of its own. -/
  implicit : Bool
  /-- From a dotted key. -/
  dotted : Bool
deriving DecidableEq, Repr

/-- A value, or a table that may still grow. -/
inductive Node where
  | string (value : String)
  | integer (value : Int)
  | float
  | boolean (value : Bool)
  | moment
  | array (items : List Node)
  /-- A table in braces. -/
  | inline (origin : Origin) (entries : List (String × Node))
  /-- A table with a header or from dotted keys. -/
  | table (origin : Origin) (entries : List (String × Node))
  /-- A list of tables with one header each. -/
  | tables (items : List (List (String × Node)))
deriving Repr, Inhabited

/-- The named nodes of a table. -/
abbrev Entries := List (String × Node)

def find? (key : String) (entries : Entries) : Option Node := entries.lookup key

def set (key : String) (node : Node) : Entries → Entries
  | [] => [(key, node)]
  | (k, n) :: rest => if k = key then (k, node) :: rest else (k, n) :: set key node rest

/-- Takes the node of a name out. -/
def remove (key : String) (entries : Entries) : Entries := entries.filter (·.1 != key)

def explicit : Origin := ⟨false, false⟩

/-! ## 2. Going into tables

Functions on the entries of a table are carried to the table at the end of a path. They are `none`
where names clash. -/

/-- The origin of a table that is opened on the way. -/
def opened (dotted : Bool) : Origin := ⟨true, dotted⟩

/-- Applies a function to the table at the end of a path of headers or dotted keys. -/
def atTable {α : Type} (dotted : Bool) (f : Origin → Entries → Option (Entries × α)) :
    List String → Origin → Entries → Option (Entries × α)
  | [], origin, entries => f origin entries
  | key :: path, _, entries =>
    match find? key entries with
    | none => do
      let (inner, a) ← atTable dotted f path (opened dotted) []
      some (set key (.table (opened dotted) inner) entries, a)
    | some (.table origin inner) =>
      if dotted && !origin.implicit then none
      else do
        let (inner, a) ← atTable dotted f path origin inner
        some (set key (.table origin inner) entries, a)
    | some (.tables items) =>
      match items.getLast? with
      | none => none
      | some inner => do
        let (inner, a) ← atTable dotted f path explicit inner
        some (set key (.tables (items.dropLast ++ [inner])) entries, a)
    | some _ => none

/-- Applies a function to the table in braces at the end of a path of dotted keys. -/
def atInline {α : Type} (f : Origin → Entries → Option (Entries × α)) :
    List String → Origin → Entries → Option (Entries × α)
  | [], origin, entries => f origin entries
  | key :: path, _, entries =>
    match find? key entries with
    | none => do
      let (inner, a) ← atInline f path (opened true) []
      some (set key (.inline (opened true) inner) entries, a)
    | some (.inline origin inner) =>
      if !origin.implicit then none
      else do
        let (inner, a) ← atInline f path origin inner
        some (set key (.inline origin inner) entries, a)
    | some _ => none

/-- Adds a value to a table that dotted keys lead to exactly if the path to it is not empty. -/
def addValue (nested : Bool) (key : String) (node : Node) (origin : Origin) (entries : Entries) :
    Option (Entries × Unit) :=
  if origin.dotted != nested then none
  else if (find? key entries).isSome then none
  else some (entries ++ [(key, node)], ())

/-- Sets a value under a key of one or more parts. -/
def setValue (key : List String) (node : Node) (entries : Entries) : Option Entries :=
  match key.getLast? with
  | none => none
  | some name =>
    let path := key.dropLast
    (atTable true (addValue (!path.isEmpty) name node) path explicit entries).map Prod.fst

/-- Sets a value under a key of one or more parts in a table in braces. -/
def setInline (key : List String) (node : Node) (entries : Entries) : Option Entries :=
  match key.getLast? with
  | none => none
  | some name =>
    let path := key.dropLast
    (atInline (addValue (!path.isEmpty) name node) path explicit entries).map Prod.fst

/-! ## 3. Values -/

mutual

/-- Reads a value in which `depth` more arrays and tables may be opened. -/
def readValue (fuel depth : Nat) (cs : List Char) : Reading Node :=
  match fuel with
  | 0 => .error cs
  | fuel + 1 =>
    match cs with
    | [] => .error []
    | c :: rest =>
      if c = '"' || c = '\'' then (readString cs).map fun r => (.string r.1, r.2)
      else if c = '[' then
        match depth with
        | 0 => .error cs
        | depth + 1 => (readItems fuel depth rest).map fun r => (.array r.1, r.2)
      else if c = '\x7b' then
        match depth with
        | 0 => .error cs
        | depth + 1 =>
          match skipBlanks rest with
          | '\x7d' :: after => .ok (.inline explicit [], after)
          | after => (readEntries fuel depth [] after).map fun r => (.inline explicit r.1, r.2)
      else if c = 't' then
        match cs with
        | 't' :: 'r' :: 'u' :: 'e' :: after => .ok (.boolean true, after)
        | _ => .error cs
      else if c = 'f' then
        match cs with
        | 'f' :: 'a' :: 'l' :: 's' :: 'e' :: after => .ok (.boolean false, after)
        | _ => .error cs
      else
        match moment? cs with
        | some after => .ok (.moment, after)
        | none =>
          match float? cs with
          | some after => .ok (.float, after)
          | none =>
            match integer? cs with
            | some (n, after) => .ok (.integer n, after)
            | none => .error cs

/-- Reads the items of an array after its bracket or a comma. -/
def readItems (fuel depth : Nat) (cs : List Char) : Reading (List Node) :=
  match fuel with
  | 0 => .error cs
  | fuel + 1 =>
    match skipLines fuel cs with
    | ']' :: rest => .ok ([], rest)
    | rest =>
      match readValue fuel depth rest with
      | .error left => .error left
      | .ok (item, rest) =>
        match skipLines fuel rest with
        | ']' :: rest => .ok ([item], rest)
        | ',' :: rest => (readItems fuel depth rest).map fun r => (item :: r.1, r.2)
        | rest => .error rest

/-- Reads the entries of a table in braces, to be added to those read already. -/
def readEntries (fuel depth : Nat) (entries : Entries) (cs : List Char) : Reading Entries :=
  match fuel with
  | 0 => .error cs
  | fuel + 1 =>
    match readKey maxKeyParts cs with
    | .error left => .error left
    | .ok (key, '=' :: rest) =>
      match readValue fuel depth (skipBlanks rest) with
      | .error left => .error left
      | .ok (node, rest) =>
        match setInline key node entries with
        | none => .error cs
        | some entries =>
          match skipBlanks rest with
          | '\x7d' :: rest => .ok (entries, rest)
          | ',' :: rest => readEntries fuel depth entries rest
          | rest => .error rest
    | .ok (_, rest) => .error rest

end

/-- The greatest number of arrays and tables in braces open at a time. -/
def maxDepth : Nat := 79

/-! ## 4. Documents -/

structure Header where
  path : List String
  isArray : Bool
deriving DecidableEq, Repr

/-- A document while it is read: the tables that are finished, and the one that is growing. -/
structure State where
  root : Entries
  header : Option Header
  current : Entries

/-- Puts a finished table in its place. -/
def place (header : Header) (current root : Entries) : Option Entries :=
  match header.path.getLast? with
  | none => none
  | some name =>
    let put := fun (_ : Origin) (entries : Entries) =>
      if header.isArray then
        match find? name entries with
        | none => some (set name (.tables [current]) entries, ())
        | some (.tables items) => some (set name (.tables (items ++ [current])) entries, ())
        | some _ => none
      else some (set name (.table explicit current) entries, ())
    (atTable false put header.path.dropLast explicit root).map Prod.fst

/-- The whole document, with the growing table in its place. -/
def State.finish (s : State) : Option Entries :=
  match s.header with
  | none => some s.current
  | some header => place header s.current s.root

/-- Opens the table of a header. A table that was opened on the way is taken up again; a list of
tables must not stand where another node stands. -/
def State.start (s : State) (header : Header) : Option State := do
  let root ← s.finish
  let name ← header.path.getLast?
  let take := fun (_ : Origin) (entries : Entries) =>
    if header.isArray then
      match find? name entries with
      | none => some (entries, [])
      | some (.tables _) => some (entries, [])
      | some _ => none
    else
      match find? name entries with
      | none => some (entries, [])
      | some (.table origin inner) =>
        if origin.implicit && !origin.dotted then some (remove name entries, inner) else none
      | some _ => none
  let (root, current) ← atTable false take header.path.dropLast explicit root
  some ⟨root, some header, current⟩

/-- The text after the end of a line: blanks, a comment and a line end, or the end of the text. -/
def endLine (cs : List Char) : Except (List Char) (List Char) :=
  match skipComment (skipBlanks cs) with
  | [] => .ok []
  | rest =>
    match lineEnd? rest with
    | some after => .ok after
    | none => .error rest

def readHeader (cs : List Char) : Reading Header :=
  match cs with
  | '[' :: rest =>
    match readKey maxKeyParts rest with
    | .error left => .error left
    | .ok (path, ']' :: ']' :: after) => .ok (⟨path, true⟩, after)
    | .ok (_, left) => .error left
  | rest =>
    match readKey maxKeyParts rest with
    | .error left => .error left
    | .ok (path, ']' :: after) => .ok (⟨path, false⟩, after)
    | .ok (_, left) => .error left

def readLine (s : State) (cs : List Char) : Reading State :=
  match cs with
  | '[' :: rest =>
    match readHeader rest with
    | .error left => .error left
    | .ok (header, rest) =>
      match endLine rest, s.start header with
      | .error left, _ => .error left
      | .ok _, none => .error cs
      | .ok rest, some s => .ok (s, rest)
  | _ =>
    match readKey maxKeyParts cs with
    | .error left => .error left
    | .ok (key, '=' :: rest) =>
      match readValue (3 * cs.length + 3) maxDepth (skipBlanks rest) with
      | .error left => .error left
      | .ok (node, rest) =>
        match endLine rest, setValue key node s.current with
        | .error left, _ => .error left
        | .ok _, none => .error cs
        | .ok rest, some current => .ok ({ s with current }, rest)
    | .ok (_, rest) => .error rest

/-- Reads all lines. Every line takes at least one character. -/
def readDocument : (fuel : Nat) → State → List Char → Except (List Char) Entries
  | 0, _, cs => .error cs
  | fuel + 1, s, cs =>
    match skipBlanks cs with
    | [] =>
      match s.finish with
      | some entries => .ok entries
      | none => .error []
    | '#' :: rest =>
      match endLine ('#' :: rest) with
      | .ok after => readDocument fuel s after
      | .error left => .error left
    | line =>
      match lineEnd? line with
      | some after => readDocument fuel s after
      | none =>
        match readLine s line with
        | .ok (s, after) => readDocument fuel s after
        | .error left => .error left

/-- The table that a text spells; the fault is the text that was left. A byte order mark in front
does not count. -/
def readChars (cs : List Char) : Except (List Char) Entries :=
  let cs :=
    match cs with
    | '\uFEFF' :: rest => rest
    | cs => cs
  readDocument (cs.length + 1) ⟨[], none, []⟩ cs

end ShopQuery.Toml
