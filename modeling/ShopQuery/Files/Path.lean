/-!
# Paths

A path is a text: names with slashes between them. Slashes in a row count as one. A path that
begins with a slash starts at the root, any other one at the working directory; a path that ends
with a slash leads to a directory.
-/

namespace ShopQuery

/-- The names of a path, which `here` has begun. -/
def splitNames (here : List Char) : List Char → List (List Char)
  | [] => [here.reverse]
  | '/' :: rest => here.reverse :: splitNames [] rest
  | c :: rest => splitNames (c :: here) rest

/-- A path, cut into its names. -/
structure PathSteps where
  /-- It starts at the root. -/
  absolute : Bool
  /-- The names, none of them empty; `.` and `..` stand as they are written. -/
  names : List String
  /-- It ends with a slash. -/
  trailing : Bool
deriving DecidableEq, Repr

def PathSteps.ofText (path : String) : PathSteps :=
  let cs := path.toList
  { absolute := cs.head? = some '/'
    names := ((splitNames [] cs).filter (!·.isEmpty)).map String.ofList
    trailing := cs.getLast? = some '/' }

def joinPath (parent child : String) : String :=
  if parent.toList.getLast? = some '/' then parent ++ child else parent ++ "/" ++ child

end ShopQuery
