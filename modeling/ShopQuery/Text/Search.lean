/-!
# Searching texts

Whether one text occurs in another.
-/

namespace ShopQuery

/-- Whether characters occur in others, next to each other. -/
def occursIn (needle : List Char) : List Char → Bool
  | [] => needle.isEmpty
  | c :: rest => needle.isPrefixOf (c :: rest) || occursIn needle rest

/-- Whether a text holds another, in letters of either case. The text that is looked for has to be
in small letters of ASCII. -/
def mentions (text needle : String) : Bool :=
  occursIn needle.toList (text.toList.map Char.toLower)

end ShopQuery
