/-!
# White space

The characters with the Unicode property White_Space: the tabulators and line ends of ASCII, the
space, U+0085, and the spaces and separators of the general punctuation and ideographic blocks.
-/

namespace ShopQuery

/-- Unicode white space. -/
def isBlank (c : Char) : Bool :=
  let n := c.toNat
  (9 ≤ n && n ≤ 13) || n = 0x20 || n = 0x85 || n = 0xA0 || n = 0x1680 ||
    (0x2000 ≤ n && n ≤ 0x200A) || n = 0x2028 || n = 0x2029 || n = 0x202F || n = 0x205F ||
    n = 0x3000

/-- A text without the white space it begins with. -/
def dropBlanks (cs : List Char) : List Char := cs.dropWhile isBlank

end ShopQuery
