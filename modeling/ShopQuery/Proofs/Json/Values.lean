import ShopQuery.Proofs.Json.Members
import ShopQuery.Proofs.Number.CheckedSum

/-!
# What a value is asked

The questions that readers of documents ask have answers exactly for the values of one form: a text
for strings, a list for arrays, a number of 64 bits for integers in that range. So each question has
an equivalence, and an answer tells the whole value.

Numbers are where this needs a proof. A value has its integer without bounds, while the answer is
one of 64 bits; both are the same number where the integer fits (`int64OfInt?_eq_some_iff`), and
there is no answer elsewhere. A floating-point number is never an answer, be it whole or not.
-/

namespace ShopQuery.Json

/-- Only strings are texts. -/
theorem string?_eq_some_iff {value : Json} {s : String} :
    value.string? = some s ↔ value = .string s := by
  cases value <;> simp [string?]

/-- Only arrays have items. -/
theorem items?_eq_some_iff {value : Json} {items : List Json} :
    value.items? = some items ↔ value = .array items := by
  cases value <;> simp [items?]

/-- Only integers of 64 bits are answers, each its own. -/
theorem int64?_eq_some_iff {value : Json} {n : Int64} :
    value.int64? = some n ↔ value = .ofInt64 n := by
  unfold ofInt64
  constructor
  · intro h
    unfold int64? at h
    split at h
    · rw [(int64OfInt?_eq_some_iff.mp h).2]
    · cases h
  · rintro rfl
    exact int64OfInt?_eq_some_iff.mpr ⟨fits_toInt n, rfl⟩

/-- Different numbers are different values. -/
theorem ofInt64_inj {m n : Int64} : ofInt64 m = ofInt64 n ↔ m = n := by
  simp [ofInt64, Int64.toInt_inj]

end ShopQuery.Json
