import ShopQuery.Proofs.FirstFailure
import ShopQuery.Text.Utf8

/-!
# Written texts read back

The octets that a character is spelled with are cut off as one piece, which is that character
(`pieces_encodeChar`). So the octets of a text are read as the text (`decode_encode`). The other way
round, a character of ASCII is read from its own octet only (`mem_of_decode`).

## How the proof goes

A character is spelled with one to four octets, by its number. For each length there is a lemma that
the reader takes these octets as the character (`pieces_one` to `pieces_four`); its hypotheses are
the bounds that the number has for that length, and they are what the reader checks of the second
octet: no number that has a shorter spelling, none that is a surrogate, none beyond the last
character. That each of them holds is arithmetic in the number of the character.

For the other direction, suppose that a character of ASCII is among the pieces. If it was cut off
from several octets, its number would be at least `0x80` (`shape_bounds`), since the bounds of the
second octet leave no room for less. So it was cut off from one octet, its own. The induction
follows the reader; only the pieces that are characters need an argument.

The null character is left out of that: numbers that are no characters are read as it.

## Octets

A leading octet is a mark plus the first bits of the character, and an octet that continues it is
`0x80` plus six bits more. What single octets are good for is decided octet by octet.
-/

namespace ShopQuery.Utf8

/-! ## 1. Single octets -/

/-- Octets that lead two. -/
theorem lead_two : ∀ n < 32, 2 ≤ n → ¬ UInt8.ofNat (n + 192) ≤ 0x7F ∧
    shape (UInt8.ofNat (n + 192)) = some (1, 0x80, 0xBF) ∧
    (UInt8.ofNat (n + 192)).toNat % 32 = n := by
  decide

/-- Octets that lead three. -/
theorem lead_three : ∀ n < 16, ¬ UInt8.ofNat (n + 224) ≤ 0x7F ∧
    shape (UInt8.ofNat (n + 224)) =
      some (2, if n = 0 then 0xA0 else 0x80, if n = 13 then 0x9F else 0xBF) ∧
    (UInt8.ofNat (n + 224)).toNat % 16 = n := by
  decide

/-- Octets that lead four. -/
theorem lead_four : ∀ n < 5, ¬ UInt8.ofNat (n + 240) ≤ 0x7F ∧
    shape (UInt8.ofNat (n + 240)) =
      some (3, if n = 0 then 0x90 else 0x80, if n = 4 then 0x8F else 0xBF) ∧
    (UInt8.ofNat (n + 240)).toNat % 8 = n := by
  decide

theorem isTail_ofNat : ∀ m < 64, isTail (UInt8.ofNat (m + 128)) = true := by decide

/-- An octet that continues a character has six bits of it. -/
theorem payload_ofNat : ∀ m < 64, payload (UInt8.ofNat (m + 128)) = m := by decide

/-- A continuing octet stands between bounds if its six bits do. -/
theorem between_ofNat (least greatest : UInt8) {m : Nat} (hm : m < 64)
    (hleast : least.toNat ≤ m + 128) (hgreatest : m + 128 ≤ greatest.toNat) :
    (decide (least ≤ UInt8.ofNat (m + 128)) && decide (UInt8.ofNat (m + 128) ≤ greatest)) =
      true := by
  have hoctet : (UInt8.ofNat (m + 128)).toNat = m + 128 :=
    UInt8.toNat_ofNat_of_lt' (show m + 128 < 256 by omega)
  rw [Bool.and_eq_true, decide_eq_true_eq, decide_eq_true_eq, UInt8.le_iff_toNat_le,
    UInt8.le_iff_toNat_le, hoctet]
  exact ⟨hleast, hgreatest⟩

/-! ## 2. Single characters -/

section Characters

variable {n m k j : Nat} (rest : List UInt8)

/-- One octet, for ASCII. -/
theorem pieces_one (hn : n ≤ 127) :
    pieces (UInt8.ofNat n :: rest) = .char (Char.ofNat n) :: pieces rest := by
  have hoctet : (UInt8.ofNat n).toNat = n := UInt8.toNat_ofNat_of_lt' (show n < 256 by omega)
  have hascii : UInt8.ofNat n ≤ 0x7F := by
    rw [UInt8.le_iff_toNat_le, hoctet]
    exact hn
  rw [pieces, if_pos hascii, hoctet]

/-- Two octets, for numbers of eleven bits. -/
theorem pieces_two (hn : n < 32) (hshort : 2 ≤ n) (hm : m < 64) :
    pieces (UInt8.ofNat (n + 192) :: UInt8.ofNat (m + 128) :: rest) =
      .char (Char.ofNat (n * 64 + m)) :: pieces rest := by
  obtain ⟨hlead, hshape, hbits⟩ := lead_two n hn hshort
  have hsecond := between_ofNat 0x80 0xBF hm (by simp) (by simp; omega)
  rw [pieces, if_neg hlead, hshape]
  simp only [hsecond, hbits, payload_ofNat m hm]
  simp

/-- Three octets, for numbers of sixteen bits that are no surrogates. -/
theorem pieces_three (hn : n < 16) (hm : m < 64) (hk : k < 64) (hshort : n = 0 → 32 ≤ m)
    (hsurrogate : n = 13 → m < 32) :
    pieces (UInt8.ofNat (n + 224) :: UInt8.ofNat (m + 128) :: UInt8.ofNat (k + 128) :: rest) =
      .char (Char.ofNat ((n * 64 + m) * 64 + k)) :: pieces rest := by
  obtain ⟨hlead, hshape, hbits⟩ := lead_three n hn
  have hleast : (if n = 0 then (0xA0 : UInt8) else 0x80).toNat ≤ m + 128 := by
    split
    · simpa using by omega
    · simp
  have hgreatest : m + 128 ≤ (if n = 13 then (0x9F : UInt8) else 0xBF).toNat := by
    split
    · simpa using by omega
    · simpa using by omega
  have hsecond := between_ofNat _ _ hm hleast hgreatest
  rw [pieces, if_neg hlead, hshape]
  simp only [hsecond, isTail_ofNat k hk, hbits, payload_ofNat m hm, payload_ofNat k hk]
  simp

/-- Four octets, for numbers up to the last character. -/
theorem pieces_four (hn : n < 5) (hm : m < 64) (hk : k < 64) (hj : j < 64)
    (hshort : n = 0 → 16 ≤ m) (hgreat : n = 4 → m < 16) :
    pieces (UInt8.ofNat (n + 240) :: UInt8.ofNat (m + 128) :: UInt8.ofNat (k + 128) ::
      UInt8.ofNat (j + 128) :: rest) =
      .char (Char.ofNat (((n * 64 + m) * 64 + k) * 64 + j)) :: pieces rest := by
  obtain ⟨hlead, hshape, hbits⟩ := lead_four n hn
  have hleast : (if n = 0 then (0x90 : UInt8) else 0x80).toNat ≤ m + 128 := by
    split
    · simpa using by omega
    · simp
  have hgreatest : m + 128 ≤ (if n = 4 then (0x8F : UInt8) else 0xBF).toNat := by
    split
    · simpa using by omega
    · simpa using by omega
  have hsecond := between_ofNat _ _ hm hleast hgreatest
  rw [pieces, if_neg hlead, hshape]
  simp only [hsecond, isTail_ofNat k hk, isTail_ofNat j hj, hbits, payload_ofNat m hm,
    payload_ofNat k hk, payload_ofNat j hj]
  simp

end Characters

/-- **A character that was spelled is cut off as itself.** -/
theorem pieces_encodeChar (c : Char) (rest : List UInt8) :
    pieces (String.utf8EncodeChar c ++ rest) = .char c :: pieces rest := by
  have hvalid : c.val.toNat < 0xD800 ∨ 0xDFFF < c.val.toNat ∧ c.val.toNat < 0x110000 := c.valid
  have hc : Char.ofNat c.val.toNat = c := Char.ofNat_toNat c
  unfold String.utf8EncodeChar
  generalize c.val.toNat = n at hvalid hc
  dsimp only
  -- As many cases as a spelling may have octets; in each the value is put together again.
  split
  · rename_i hone
    exact (pieces_one rest hone).trans (by rw [hc])
  split
  · refine (pieces_two rest (by omega) (by omega) (by omega)).trans ?_
    rw [show n / 64 % 32 * 64 + n % 64 = n by omega, hc]
  split
  · refine (pieces_three rest (by omega) (by omega) (by omega) (by omega) (by omega)).trans ?_
    rw [show (n / 4096 % 16 * 64 + n / 64 % 64) * 64 + n % 64 = n by omega, hc]
  · refine (pieces_four rest (by omega) (by omega) (by omega) (by omega) (by omega)
      (by omega)).trans ?_
    rw [show ((n / 262144 % 8 * 64 + n / 4096 % 64) * 64 + n / 64 % 64) * 64 + n % 64 = n by omega,
      hc]

/-! ## 3. Texts -/

/-- Every piece of a text is a character. -/
theorem charsFrom_encodeChars (cs : List Char) (index : Nat) :
    charsFrom index (pieces (encodeChars cs)) = .ok cs := by
  induction cs generalizing index with
  | nil => rfl
  | cons c cs ih =>
    rw [encodeChars, List.flatMap_cons, ← encodeChars, pieces_encodeChar, charsFrom, ih]
    rfl

/-- **A text is read back from its octets.** -/
theorem decode_encode (text : String) : decode (encode text) = .ok text := by
  rw [decode, encode, charsFrom_encodeChars, Except.map, String.ofList_toList]

/-- Different texts have different octets. -/
theorem encode_inj {a b : String} (h : encode a = encode b) : a = b := by
  have hdecoded := decode_encode a
  rw [h, decode_encode] at hdecoded
  exact (Except.ok.inj hdecoded).symm

/-! ## 4. Characters of ASCII -/

/-- A number that makes a character is the number of the character. -/
theorem toNat_of_ofNat_eq {n : Nat} {c : Char} (h : Char.ofNat n = c) (hc : c ≠ '\x00') :
    c.toNat = n := by
  by_cases hvalid : n.isValidChar
  · have hchar : Char.ofNat n = Char.ofNatAux n hvalid := dif_pos hvalid
    exact (congrArg Char.toNat (hchar.symm.trans h)).symm
  · have hchar : Char.ofNat n = '\x00' := dif_neg hvalid
    exact absurd (h.symm.trans hchar) hc

/-- The bounds of the second octet keep the values of longer spellings out of ASCII. -/
theorem shape_bounds {a b least greatest : UInt8} {more : Nat}
    (h : shape a = some (more, least, greatest)) (hb : least ≤ b) (hb' : b ≤ greatest) :
    (more = 1 ∧ 2 ≤ a.toNat % 32) ∨ (more = 2 ∧ 2 ≤ a.toNat % 16 * 64 + payload b) ∨
      (more = 3 ∧ 1 ≤ a.toNat % 8 * 64 + payload b) := by
  unfold shape at h
  unfold payload
  rw [UInt8.le_iff_toNat_le] at hb hb'
  simp only [UInt8.lt_iff_toNat_lt, UInt8.le_iff_toNat_le, ← UInt8.toNat_inj,
    Option.ite_none_left_eq_some] at h
  obtain ⟨hlead, h⟩ := h
  -- One case for each row of the table of leading octets.
  repeat' split at h
  all_goals cases h
  all_goals simp at *
  all_goals omega

/-- A character with a value beyond ASCII is none of ASCII. -/
theorem ofNat_ne_of_ascii {n : Nat} {c : Char} (hn : 0x80 ≤ n) (hnull : c ≠ '\x00')
    (hascii : c.toNat < 0x80) : Char.ofNat n ≠ c := by
  intro h
  have hvalue := toNat_of_ofNat_eq h hnull
  omega

/-- **A character of ASCII is spelled by its own octet and in no other way.** -/
theorem mem_of_char_mem_pieces {octets : List UInt8} {c : Char} (hnull : c ≠ '\x00')
    (hascii : c.toNat < 0x80) (h : .char c ∈ pieces octets) : UInt8.ofNat c.toNat ∈ octets := by
  have hlonger : ∀ {n ps}, 0x80 ≤ n → .char c ∈ Piece.char (Char.ofNat n) :: ps → .char c ∈ ps := by
    intro n ps hn hmem
    rcases List.mem_cons.mp hmem with hhead | htail
    · exact absurd (Piece.char.inj hhead).symm (ofNat_ne_of_ascii hn hnull hascii)
    · exact htail
  -- By the recursion of the reader. A spelling of several octets has a value beyond ASCII.
  fun_induction pieces octets with
  | case1 => cases h
  | case2 a rest ha ih =>
    rcases List.mem_cons.mp h with hhead | htail
    · cases hhead
      rw [toNat_of_ofNat_eq rfl hnull, UInt8.ofNat_toNat]
      exact List.mem_cons_self
    · exact List.mem_cons_of_mem _ (ih htail)
  | case6 a ha least greatest b rest hb hshape ih =>
    simp only [Bool.not_eq_true', Bool.not_eq_false, Bool.and_eq_true, decide_eq_true_eq] at hb
    have hbounds := shape_bounds hshape hb.1 hb.2
    have htail := ih (hlonger (by omega) h)
    simp [htail]
  | case9 a ha least greatest b hb c rest hc hshape hmore ih =>
    simp only [Bool.not_eq_true', Bool.not_eq_false, Bool.and_eq_true, decide_eq_true_eq] at hb
    have hbounds := shape_bounds hshape hb.1 hb.2
    have htail := ih (hlonger (by omega) h)
    simp [htail]
  | case12 a ha more least greatest hshape b hb hmore c hc hmore' d rest hd ih =>
    simp only [Bool.not_eq_true', Bool.not_eq_false, Bool.and_eq_true, decide_eq_true_eq] at hb
    have hbounds := shape_bounds hshape hb.1 hb.2
    have htail := ih (hlonger (by omega) h)
    simp [htail]
  -- The other pieces are no characters.
  | _ => grind

/-- What is read as characters was cut into these characters. -/
theorem pieces_of_charsFrom {ps : List Piece} {cs : List Char} {index : Nat}
    (h : charsFrom index ps = .ok cs) : ps = cs.map .char := by
  induction ps generalizing cs index with
  | nil =>
    cases h
    rfl
  | cons piece rest ih =>
    cases piece with
    | char c =>
      obtain ⟨tail, hrest, rfl⟩ := map_eq_ok_iff.mp h
      rw [List.map_cons, ih hrest]
    | invalid => cases h
    | unfinished => cases h

/-- **A character of ASCII in a text has its octet among the octets of the text.** -/
theorem mem_of_decode {octets : List UInt8} {text : String} {c : Char}
    (h : decode octets = .ok text) (hnull : c ≠ '\x00') (hascii : c.toNat < 0x80)
    (hc : c ∈ text.toList) : UInt8.ofNat c.toNat ∈ octets := by
  obtain ⟨cs, hchars, rfl⟩ := map_eq_ok_iff.mp h
  refine mem_of_char_mem_pieces hnull hascii ?_
  rw [pieces_of_charsFrom hchars]
  exact List.mem_map_of_mem (by simpa using hc)

end ShopQuery.Utf8
