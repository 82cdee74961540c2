/-!
# Powers

Powers of two and of ten, the bases of numbers in a machine and on paper.
-/

namespace ShopQuery

def twoTo (k : Nat) : Nat := Nat.pow 2 k

def tenTo (k : Nat) : Nat := Nat.pow 10 k

end ShopQuery
