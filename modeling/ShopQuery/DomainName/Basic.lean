import ShopQuery.DomainName.Folding
import ShopQuery.DomainName.Punycode
import ShopQuery.Text.Direction
import ShopQuery.Text.Joining
import ShopQuery.Text.Mark
import ShopQuery.Text.NormalForm

/-!
# Domain names

Names of letters of all scripts, in labels with dots between them.

A name is folded and brought into its normal form; then each of its labels is checked. A label that
begins with `xn--` is spelled in ASCII: it stands for the label that it spells, which has to be
folded and in its normal form already.
-/

namespace ShopQuery.DomainName

/-! ## 1. Characters -/

/-- A character that no name may hold: blanks and controls of ASCII, and what has a meaning in
urls. -/
def isForbidden (c : Char) : Bool :=
  c.toNat ≤ 0x20 || c.toNat = 0x7F || "%#/:<>?@[\\]^|".toList.contains c

/-- The joiner, which asks for a ligature. -/
def joiner : Char := '\u200D'

/-- The non-joiner, which keeps letters apart. -/
def nonJoiner : Char := '\u200C'

/-- Whether joiners stand where they make a difference: after a letter without its vowel, and a
non-joiner also between letters that would be joined without it. What stands before comes last
character first. -/
def joinersFit (before : List Char) : List Char → Bool
  | [] => true
  | c :: rest =>
    let afterVirama :=
      before.head?.any fun d => NormalForm.combiningClass d = NormalForm.viramaClass
    let fits :=
      if c = joiner then afterVirama
      else if c = nonJoiner then
        afterVirama || (!before.isEmpty && Joining.connects before rest)
      else true
    fits && joinersFit (c :: before) rest

/-! ## 2. Labels -/

/-- The most characters of a label that is to be spelled in ASCII. -/
def maxLabelLength : Nat := 1000

/-- The most characters of a spelling. -/
def maxSpellingLength : Nat := 2000

/-- Whether the characters of a label go together, whether or not they are all of ASCII. -/
def isLabel (label : List Char) : Bool :=
  !label.any isForbidden && !label.head?.any isMark && joinersFit [] label

def isAscii (c : Char) : Bool := c.toNat < 0x80

/-- The label that a spelling stands for. A spelling is of ASCII, does not end in a hyphen, and is
not too long. -/
def readSpelling (spelling : List Char) : Option (List Char) := do
  if spelling.isEmpty || spelling.getLast? = some '-' || !spelling.all isAscii ||
      maxSpellingLength < spelling.length then none
  else
    let label ← Punycode.decode? spelling
    if label.all isFolded && NormalForm.isNormal label then return label else none

def readLabel (text : List Char) : Option (List Char) := do
  match text with
  | 'x' :: 'n' :: '-' :: '-' :: spelling =>
    let label ← readSpelling spelling
    if isLabel label then return label else none
  | text =>
    if isLabel text && (text.all isAscii || text.length ≤ maxLabelLength) then return text else none

/-! ## 3. Names -/

/-- Whether the labels of a name can stand side by side: if there is anything that is written from
right to left, the directions in each label have to agree. -/
def directionsFit (labels : List (List Char)) : Bool :=
  let directions := labels.map fun label => label.map Direction.ofChar
  !(directions.any fun label => label.any Direction.mixes) || directions.all directionsAgree

def read? (text : List Char) : Option (List (List Char)) := do
  let folded ← foldChars text
  let labels ← ((NormalForm.normalize folded).splitOn '.').mapM readLabel
  if directionsFit labels then return labels else none

end ShopQuery.DomainName
