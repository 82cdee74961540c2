import ShopQuery.Json.Printer
import ShopQuery.Proofs.Json.Members
import ShopQuery.Proofs.Number.Digits

/-!
# No controls in written values

`NoControls` holds of a text without characters below U+0020, so without line ends. Inside quotes
they are escaped (`noControls_escape`), numbers and what stands between values have none, and so the
compact form of a value has none, whatever its strings and keys hold (`noControls_write`).

## How the proof goes

The property is one of characters, so it goes through `++` and `::` in both directions
(`noControls_append`, `noControls_cons`), and through every operation that only takes characters
away (`NoControls.subset`). That is all that is used of the printer of numbers: its digits are
digits, and signs, points and zeros are put between pieces of them. No digit is followed through a
rounding.

Strings are where controls could come from. Each of their characters is escaped on its own: seven
have an escape of their own, every other control is spelled by hexadecimal digits, and what is left
is no control.

Values are gone through by induction on them, arrays and objects by induction on their lists. The
lists have a first element and more elements behind it, as the printer has, because a comma stands
in front of each but the first.
-/

namespace ShopQuery

/-! ## 1. Texts -/

/-- No character is below U+0020. -/
def NoControls (cs : List Char) : Prop := ∀ c ∈ cs, 0x20 ≤ c.toNat

instance (cs : List Char) : Decidable (NoControls cs) := List.decidableBAll _ cs

@[simp] theorem noControls_nil : NoControls [] := List.forall_mem_nil _

@[simp] theorem noControls_cons {c : Char} {cs : List Char} :
    NoControls (c :: cs) ↔ 0x20 ≤ c.toNat ∧ NoControls cs := List.forall_mem_cons

@[simp] theorem noControls_append {cs ds : List Char} :
    NoControls (cs ++ ds) ↔ NoControls cs ∧ NoControls ds := List.forall_mem_append

theorem NoControls.subset {cs ds : List Char} (h : NoControls cs) (hsubset : ds ⊆ cs) :
    NoControls ds := fun c hc => h c (hsubset hc)

/-- The same character again and again is a control where it is one. -/
theorem noControls_replicate {n : Nat} {c : Char} (h : 0x20 ≤ c.toNat) :
    NoControls (List.replicate n c) := by
  intro d hd
  rwa [(List.mem_replicate.mp hd).2]

/-! ## 2. Numbers -/

theorem noControls_toDigits (n : Nat) : NoControls (Nat.toDigits 10 n) := by
  intro c hc
  have hdigit := isDigit_iff.mp ((isDigits_toDigits n).digits c hc)
  omega

/-- Without their last zeros, digits are digits still. -/
theorem stripZeros_subset (ds : List Char) : stripZeros ds ⊆ ds := by
  intro c hc
  rw [stripZeros, List.mem_reverse] at hc
  exact List.mem_reverse.mp (List.dropWhile_subset _ hc)

/-- A number is written without controls in any layout: plain, with a point or with an exponent. -/
theorem NumberLayout.noControls_write (layout : NumberLayout) (d : Decimal) :
    NoControls (layout.write d) := by
  unfold NumberLayout.write
  dsimp only
  generalize hdigits : stripZeros (Nat.toDigits 10 d.digits) = ds
  have hds : NoControls ds :=
    hdigits ▸ (noControls_toDigits d.digits).subset (stripZeros_subset _)
  have hpoint : ∀ n, NoControls (ds.take n ++ '.' :: ds.drop n) := fun n =>
    noControls_append.mpr ⟨hds.subset (List.take_subset n ds),
      noControls_cons.mpr ⟨by decide, hds.subset (List.drop_subset n ds)⟩⟩
  have hzeros : ∀ n, NoControls (List.replicate n '0') := fun n => noControls_replicate (by decide)
  split
  · decide
  split
  · split
    · simp [hzeros, hds]
    · split
      · simp [hzeros, hds]
      · exact hpoint _
  · rw [noControls_append, noControls_cons, noControls_cons]
    refine ⟨?mantissa, by decide, ?sign, noControls_toDigits _⟩
    case mantissa =>
      split
      · exact hds
      · exact hpoint 1
    case sign => split <;> decide

namespace Json

theorem noControls_writeInt (n : Int) : NoControls (writeInt n) := by
  cases n with
  | ofNat n => exact noControls_toDigits n
  | negSucc n => exact noControls_cons.mpr ⟨by decide, noControls_toDigits (n + 1)⟩

theorem Number.noControls_write (n : Number) : NoControls n.write := by
  cases n with
  | integer n => exact noControls_writeInt n
  | float x =>
    have hdigits := floatLayout.noControls_write x.magnitude.shortest
    unfold write
    dsimp only
    split
    · exact noControls_cons.mpr ⟨by decide, hdigits⟩
    · exact hdigits

/-! ## 3. Strings -/

theorem le_toNat_hexDigit : ∀ n < 16, 0x20 ≤ (hexDigit n).toNat := by decide

/-- **What stands for a character inside quotes has no controls.** -/
theorem noControls_escape (c : Char) : NoControls (escape c) := by
  unfold escape
  split
  iterate 7 · decide
  split
  · rename_i hcontrol
    have hhigh := le_toNat_hexDigit (c.toNat / 16) (by omega)
    have hlow := le_toNat_hexDigit (c.toNat % 16) (by omega)
    simp [hhigh, hlow]
  · rename_i hplain
    simpa using hplain

/-- A string in quotes has no controls, whatever is in it. -/
theorem noControls_quote (s : String) : NoControls (quote s) := by
  have hchars : NoControls (s.toList.flatMap escape) := by
    intro c hc
    obtain ⟨d, -, hc⟩ := List.mem_flatMap.mp hc
    exact noControls_escape d c hc
  simp [quote, hchars]

/-! ## 4. Values -/

theorem noControls_writeMoreItems {items : List Json} (h : ∀ item ∈ items, NoControls item.write) :
    NoControls (writeMoreItems items) := by
  induction items with
  | nil => simp [writeMoreItems]
  | cons item rest ih =>
    obtain ⟨hitem, hrest⟩ := List.forall_mem_cons.mp h
    simp [writeMoreItems, hitem, ih hrest]

theorem noControls_writeItems {items : List Json} (h : ∀ item ∈ items, NoControls item.write) :
    NoControls (writeItems items) := by
  cases items with
  | nil => simp [writeItems]
  | cons item rest =>
    obtain ⟨hitem, hrest⟩ := List.forall_mem_cons.mp h
    simp [writeItems, hitem, noControls_writeMoreItems hrest]

theorem noControls_writeMoreMembers {members : List (String × Json)}
    (h : ∀ member ∈ members, NoControls member.2.write) :
    NoControls (writeMoreMembers members) := by
  induction members with
  | nil => simp [writeMoreMembers]
  | cons member rest ih =>
    obtain ⟨hmember, hrest⟩ := List.forall_mem_cons.mp h
    simp [writeMoreMembers, noControls_quote, hmember, ih hrest]

theorem noControls_writeMembers {members : List (String × Json)}
    (h : ∀ member ∈ members, NoControls member.2.write) : NoControls (writeMembers members) := by
  cases members with
  | nil => simp [writeMembers]
  | cons member rest =>
    obtain ⟨hmember, hrest⟩ := List.forall_mem_cons.mp h
    simp [writeMembers, noControls_quote, hmember, noControls_writeMoreMembers hrest]

/-- **A written value has no controls.** -/
theorem noControls_write (value : Json) : NoControls value.write := by
  induction value using inductionOn with
  | null => simp [write]
  | bool b => cases b <;> simp [write]
  | number n => exact n.noControls_write
  | string s => exact noControls_quote s
  | array items ih => simp [write, noControls_writeItems ih]
  | object members ih => simp [write, noControls_writeMembers ih]

end Json

end ShopQuery
