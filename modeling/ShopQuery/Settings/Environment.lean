import ShopQuery.Text.Utf8

/-!
# Environment variables

The variables that a program is started with, as a list of names and values.
-/

namespace ShopQuery

/-- Names and their values; the first value of a name counts. -/
structure Environment where
  bindings : List (String × String)
deriving DecidableEq, Repr

namespace Environment

def empty : Environment := ⟨[]⟩

/-- The value of a variable, if it is set. -/
def get? (env : Environment) (name : String) : Option String := env.bindings.lookup name

/-- What follows a name and an equals sign in a variable and its value, written that way. So a name
may hold the first characters of a value too, after an equals sign of its own. -/
def reach? (env : Environment) (name : String) : Option String :=
  if name.isEmpty then none
  else
    let sought := name.toList ++ ['=']
    let written := env.bindings.map fun (name, value) => name.toList ++ '=' :: value.toList
    (written.find? sought.isPrefixOf).map fun found => String.ofList (found.drop sought.length)

/-- Sets a variable, unless it is set already. -/
def setDefault (env : Environment) (name value : String) : Environment :=
  if (env.get? name).isSome then env else ⟨env.bindings ++ [(name, value)]⟩

/-- Sets a variable, unless it is set already; none if it would have to hold a zero character, which
no variable can. -/
def setDefault? (env : Environment) (name value : String) : Option Environment :=
  if (env.get? name).isNone && value.toList.contains '\x00' then none
  else some (env.setDefault name value)

/-- A name with an equals sign looks into the value. -/
example : (Environment.mk [("a", "b=c")]).reach? "a=b" = some "c" := by decide

def splitZeros (here : List UInt8) : List UInt8 → List (List UInt8)
  | [] => []
  | 0 :: rest => here.reverse :: splitZeros [] rest
  | b :: rest => splitZeros (b :: here) rest

/-- The name and value of a variable. One that is no text counts as not set. -/
def readVariable (octets : List UInt8) : Option (String × String) :=
  match Utf8.decode octets with
  | .error _ => none
  | .ok text =>
    match text.toList.span (· != '=') with
    | (name, '=' :: value) => some (String.ofList name, String.ofList value)
    | _ => none

/-- The variables in a block of octets, with a zero octet after each. -/
def ofOctets (octets : List UInt8) : Environment :=
  ⟨(splitZeros [] octets).filterMap readVariable⟩

end Environment

end ShopQuery
