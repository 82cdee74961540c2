import ShopQuery.Proofs.Text.Utf8
import ShopQuery.Text.Percent

/-!
# Escaped texts read back

A text may be written with an escape for every octet but those of letters and digits. Nothing but
letters, digits and percent signs stands in what is written so (`isAlphanum_or_of_mem_escapeText`),
and it is read back as the text it was written for (`decode_escapeText`).

## How the proof goes

Escapes are for octets and not for characters, so a text is taken as its octets first
(`escape_eq_flatMap`), one piece of the escaped text for each octet. A piece is the octet itself or
three characters, all of ASCII; and characters of ASCII are their own octets again
(`encodeChars_of_ascii`). So reading goes piece by piece (`unescape_escapeOctet`), and the induction
is on the octets.

The percent sign is escaped itself, as it is no letter or digit. So a percent sign that is read
always begins an escape that was written, and never one that the text happened to contain.

What is read are octets; that they are a text is known because they are the octets of one
(`Utf8.decode_encode`). Other escapes may spell octets that are no text, which is why a url can be
refused for its password.
-/

namespace ShopQuery

/-! ## 1. Characters of ASCII -/

/-- Letters and digits are characters of ASCII, behind the controls and spaces. -/
theorem toNat_of_isAlphanum {c : Char} (h : c.isAlphanum = true) :
    48 ≤ c.toNat ∧ c.toNat < 128 := by
  change ((decide (65 ≤ c.toNat ∧ c.toNat ≤ 90) ||
      (decide (97 ≤ c.toNat) && decide (c.toNat ≤ 122)))
    || (decide (48 ≤ c.toNat) && decide (c.toNat ≤ 57))) = true at h
  simp only [Bool.or_eq_true, Bool.and_eq_true, decide_eq_true_eq] at h
  omega

/-- What holds of the characters of ASCII can be seen one by one. -/
theorem forall_ascii {P : Char → Prop} (h : ∀ n < 128, P (Char.ofNat n)) {c : Char}
    (hc : c.toNat < 128) : P c :=
  Char.ofNat_toNat c ▸ h c.toNat hc

namespace Utf8

/-- A character of ASCII is its own octet. -/
theorem utf8EncodeChar_of_ascii {c : Char} (h : c.toNat < 128) :
    String.utf8EncodeChar c = [UInt8.ofNat c.toNat] := by
  exact if_pos (Nat.le_of_lt_succ h)

theorem encodeChars_append (xs ys : List Char) :
    encodeChars (xs ++ ys) = encodeChars xs ++ encodeChars ys := List.flatMap_append

/-- Characters of ASCII are spelled by one octet each. -/
theorem encodeChars_of_ascii {cs : List Char} (h : ∀ c ∈ cs, c.toNat < 128) :
    encodeChars cs = cs.map fun c => UInt8.ofNat c.toNat := by
  induction cs with
  | nil => rfl
  | cons c cs ih =>
    obtain ⟨hc, hcs⟩ := List.forall_mem_cons.mp h
    rw [encodeChars, List.flatMap_cons, ← encodeChars, utf8EncodeChar_of_ascii hc, ih hcs]
    rfl

/-- The octets of a text are cut into its characters. -/
theorem pieces_encodeChars (cs : List Char) : pieces (encodeChars cs) = cs.map .char := by
  induction cs with
  | nil => rfl
  | cons c cs ih =>
    rw [encodeChars, List.flatMap_cons, ← encodeChars, pieces_encodeChar, ih, List.map_cons]

/-- What is a text is read without loss. -/
theorem decodeLossy_encodeChars (cs : List Char) :
    decodeLossy (encodeChars cs) = String.ofList cs := by
  rw [decodeLossy, pieces_encodeChars, List.map_map]
  exact congrArg String.ofList (List.map_id cs)

end Utf8

namespace Percent

open Utf8

/-! ## 2. Escapes -/

/-- An octet of an ASCII letter or digit. -/
def isAlphanumeric (b : UInt8) : Bool := (Char.ofNat b.toNat).isAlphanum

/-- A text with an escape for every octet that is no ASCII letter or digit. -/
def escapeText (text : String) : List Char := escape isAlphanumeric text.toList

/-- What is kept as it is needs no escapes. -/
theorem escape_eq_self {keep : UInt8 → Bool} {cs : List Char}
    (h : ∀ c ∈ cs, c.toNat < 128 ∧ keep (UInt8.ofNat c.toNat) = true) : escape keep cs = cs := by
  induction cs with
  | nil => rfl
  | cons c cs ih =>
    obtain ⟨⟨hascii, hkeep⟩, hcs⟩ := List.forall_mem_cons.mp h
    have hoctet : (UInt8.ofNat c.toNat).toNat = c.toNat :=
      UInt8.toNat_ofNat_of_lt' (Nat.lt_trans hascii (by decide))
    have hc : escapeChar keep c = [c] := by
      simp [escapeChar, utf8EncodeChar_of_ascii hascii, escapeOctet, hkeep, hoctet]
    rw [escape, List.flatMap_cons, ← escape, hc, ih hcs]
    rfl

/-- Escapes are made octet by octet. -/
theorem escape_eq_flatMap (keep : UInt8 → Bool) (cs : List Char) :
    escape keep cs = (encodeChars cs).flatMap (escapeOctet keep) := by
  rw [escape, encodeChars, List.flatMap_assoc]
  rfl

/-- An octet is the number of its character. -/
theorem toNat_ofNat_octet (b : UInt8) : (Char.ofNat b.toNat).toNat = b.toNat := by
  have hvalid : b.toNat.isValidChar := Or.inl (Nat.lt_trans b.toNat_lt (by decide))
  rw [Char.ofNat, dif_pos hvalid]
  rfl

theorem isAlphanum_hexDigit : ∀ n < 16, (hexDigit n).isAlphanum = true := by decide

/-- An octet is written with letters, digits and percent signs. -/
theorem isAlphanum_or_of_mem_escapeOctet {b : UInt8} {c : Char}
    (h : c ∈ escapeOctet isAlphanumeric b) : c.isAlphanum = true ∨ c = '%' := by
  have hb : b.toNat < 256 := b.toNat_lt
  unfold escapeOctet at h
  split at h
  · rename_i hkeep
    exact Or.inl (List.mem_singleton.mp h ▸ hkeep)
  · simp only [List.mem_cons, List.not_mem_nil, or_false] at h
    rcases h with rfl | rfl | rfl
    · exact Or.inr rfl
    · exact Or.inl (isAlphanum_hexDigit _ (by omega))
    · exact Or.inl (isAlphanum_hexDigit _ (by omega))

/-- **Only letters, digits and percent signs are written.** -/
theorem isAlphanum_or_of_mem_escapeText {text : String} {c : Char} (h : c ∈ escapeText text) :
    c.isAlphanum = true ∨ c = '%' := by
  rw [escapeText, escape_eq_flatMap] at h
  obtain ⟨b, -, hc⟩ := List.mem_flatMap.mp h
  exact isAlphanum_or_of_mem_escapeOctet hc

/-! ## 3. Reading -/

/-- An octet that is no percent sign stands for itself. -/
theorem unescape_cons {b : UInt8} (h : b ≠ 37) (rest : List UInt8) :
    unescape (b :: rest) = b :: unescape rest := by
  rw [unescape.eq_def]
  exact if_neg h

/-- A percent sign and two digits are the octet that they spell. -/
theorem unescape_digits {n m : Nat} (hn : n < 16) (hm : m < 16) (rest : List UInt8) :
    unescape (37 :: UInt8.ofNat (hexDigit n).toNat :: UInt8.ofNat (hexDigit m).toNat :: rest) =
      UInt8.ofNat (n * 16 + m) :: unescape rest := by
  have hvalue : ∀ n < 16, hexValue? (UInt8.ofNat (hexDigit n).toNat) = some (UInt8.ofNat n) := by
    decide
  rw [unescape, if_pos rfl, hvalue n hn, hvalue m hm]
  simp

/-- An octet is read from what is written for it. -/
theorem unescape_escapeOctet (b : UInt8) (rest : List UInt8) :
    unescape (encodeChars (escapeOctet isAlphanumeric b) ++ rest) = b :: unescape rest := by
  have hb : b.toNat < 256 := b.toNat_lt
  have hascii : ∀ c ∈ escapeOctet isAlphanumeric b, c.toNat < 128 := by
    intro c hc
    rcases isAlphanum_or_of_mem_escapeOctet hc with halphanum | rfl
    · exact (toNat_of_isAlphanum halphanum).2
    · decide
  rw [encodeChars_of_ascii hascii]
  unfold escapeOctet
  split
  · rename_i hkeep
    have hne : b ≠ 37 := by
      rintro rfl
      revert hkeep
      decide
    simp [toNat_ofNat_octet b, unescape_cons hne]
  · have hdigits := unescape_digits (show b.toNat / 16 < 16 by omega)
      (show b.toNat % 16 < 16 by omega) rest
    rw [show b.toNat / 16 * 16 + b.toNat % 16 = b.toNat by omega, UInt8.ofNat_toNat] at hdigits
    exact hdigits

/-- **The octets of a text are read back from its escapes.** -/
theorem unescape_escapeText (text : String) :
    unescape (encodeChars (escapeText text)) = encode text := by
  rw [escapeText, escape_eq_flatMap, encode]
  induction encodeChars text.toList with
  | nil => rfl
  | cons b rest ih =>
    rw [List.flatMap_cons, encodeChars_append, unescape_escapeOctet, ih]

/-- **A text is read back from its escapes.** -/
theorem decode_escapeText (text : String) : decode (escapeText text) = .ok text := by
  rw [decode, unescape_escapeText, decode_encode]

/-- What is not empty is not written as nothing. -/
theorem ne_nil_of_decode {escaped : List Char} {text : String} (hne : text ≠ "")
    (h : decode escaped = .ok text) : escaped ≠ [] := by
  rintro rfl
  cases h
  exact hne rfl

theorem escapeText_ne_nil {text : String} (h : text ≠ "") : escapeText text ≠ [] :=
  ne_nil_of_decode h (decode_escapeText text)

end Percent

end ShopQuery
