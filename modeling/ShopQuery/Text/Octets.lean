/-!
# Octet positions

Cutting a text where some number of its octets ends. A cut inside a character is refused.
-/

namespace ShopQuery

/-- The number of octets of a text. -/
def octetLength : List Char → Nat
  | [] => 0
  | c :: rest => c.utf8Size + octetLength rest

/-- What follows the first octets of a text. -/
def dropOctets? : Nat → List Char → Option (List Char)
  | 0, cs => some cs
  | _ + 1, [] => none
  | n + 1, c :: rest => if c.utf8Size ≤ n + 1 then dropOctets? (n + 1 - c.utf8Size) rest else none

def takeOctets? : Nat → List Char → Option (List Char)
  | 0, _ => some []
  | _ + 1, [] => none
  | n + 1, c :: rest =>
    if c.utf8Size ≤ n + 1 then (takeOctets? (n + 1 - c.utf8Size) rest).map (c :: ·) else none

/-- The part of a text between two octet positions. -/
def sliceOctets? (start stop : Nat) (cs : List Char) : Option (List Char) :=
  (dropOctets? start cs).bind (takeOctets? (stop - start))

end ShopQuery
