import ShopQuery.Proofs.Settings.Passwords
import ShopQuery.Settings.EnvFile

/-!
# Environment files without references

An environment file may hand the value of one variable on to another, by a dollar sign and a name.
Without dollar signs it hands nothing on: what its lines set is the same in every environment
(`EnvFile.readLine_eq`), so environments that differ in the password at most differ in nothing else
after the file is loaded (`EnvFile.load_twin`).

## How the proof goes

A value is read by a machine that goes through its characters from place to place. It looks at the
environment in the places behind a dollar sign only, and it comes to these only by a dollar sign. So
on characters without any it comes to no such place, by induction on the characters
(`readValue_eq`). Names and white space are dropped from a line before its value is read; what is
left is an end of the line, and has no dollar sign if the line has none.

A file is octets first, and its lines are cut, decoded and put together again where a quote is left
open. Characters of a line come from octets of the file (`mem_of_mem_joinLines`), and a dollar sign
comes from its own octet, as it is an ASCII character. So the condition is said of the octets, where
it can be checked without reading the file.

The file is the same in both runs. It sets only what is missing, and what is missing is the same on
both sides, the password and the url included: the values differ, but they are there or not there
together (`Environment.Twin.isSome_get?`).
-/

namespace ShopQuery

variable {p q : String}

/-! ## 1. Setting variables -/

namespace Environment

/-- A variable that is missing is set, and no other is touched. -/
theorem get?_setDefault (env : Environment) (name value key : String) :
    (env.setDefault name value).get? key =
      (env.get? key).or (if key = name then some value else none) := by
  unfold setDefault
  split
  · rename_i hset
    split
    · rename_i hkey
      rw [hkey, Option.or_of_isSome hset]
    · rw [Option.or_none]
  · unfold get?
    rw [List.lookup_append, List.lookup_cons, List.lookup_nil]
    by_cases hkey : key = name
    · simp [hkey]
    · simp [hkey, beq_eq_false_iff_ne.mpr hkey]

namespace Twin

variable {a b : Environment} (h : a.Twin p q b)
include h

theorem isSome_get? (name : String) : (a.get? name).isSome = (b.get? name).isSome := by
  by_cases hpassword : name = "PGPASSWORD"
  · rw [hpassword, h.password.isSome_eq]
  · by_cases hurl : name = CommandLine.Invocation.urlVariable
    · rw [hurl, isSome_eq_of_rel h.url]
    · rw [h.others name hpassword hurl]

theorem setDefault (name value : String) :
    (a.setDefault name value).Twin p q (b.setDefault name value) where
  password := by
    rw [get?_setDefault, get?_setDefault]
    exact h.password.or (.same _)
  url := by
    rw [get?_setDefault, get?_setDefault]
    exact rel_or h.url (urlRel_refl _)
  others key hpassword hurl := by
    rw [get?_setDefault, get?_setDefault, h.others key hpassword hurl]

theorem setDefault? (name value : String) :
    Option.Rel (Twin p q) (a.setDefault? name value) (b.setDefault? name value) := by
  unfold Environment.setDefault?
  rw [← Option.not_isSome, ← Option.not_isSome, h.isSome_get? name]
  split
  · exact .none
  · exact .some (h.setDefault name value)

end Twin

end Environment

namespace EnvFile

/-! ## 2. Values -/

/-- A place behind a dollar sign, where a name is read. -/
def ValuePlace.IsReference : ValuePlace → Prop
  | .variable _ _ | .braced _ _ => True
  | _ => False

theorem not_isReference_base (quoted : Bool) : ¬ (base quoted).IsReference := by
  cases quoted <;> exact id

variable {env env' : Environment}

/-- Without dollar signs a reader comes to no place where it would look at the environment. -/
theorem readValue_eq {place : ValuePlace} {cs : List Char} (hplace : ¬ place.IsReference)
    (h : '$' ∉ cs) : readValue env place cs = readValue env' place cs := by
  induction cs generalizing place with
  | nil =>
    cases place with
    | escape quoted => cases quoted <;> rfl
    | _ =>
      first
      | rfl
      | exact absurd trivial hplace
  | cons c rest ih =>
    obtain ⟨hc, hrest⟩ := not_or.mp (mt List.mem_cons.mpr h)
    have hnext : ∀ place : ValuePlace, ¬ place.IsReference →
        readValue env place rest = readValue env' place rest := fun place hplace => ih hplace hrest
    have hbase := fun quoted => hnext (base quoted) (not_isReference_base quoted)
    -- Only a dollar sign leads from one of these places to a reference.
    cases place with
    | after => simp only [readValue, hnext .after id]
    | escape quoted => simp only [readValue, hbase]
    | strong => simp only [readValue, hnext .plain id, hnext .strong id]
    | weak =>
      unfold readValue
      split
      · exact absurd rfl hc
      · exact hnext .plain id
      · exact hnext (.escape true) id
      · rw [hnext .weak id]
    | plain =>
      unfold readValue
      split
      · exact absurd rfl hc
      · exact hnext .strong id
      · exact hnext .weak id
      · exact hnext (.escape false) id
      · exact hnext .after id
      · exact hnext .after id
      · rw [hnext .plain id]
    | _ => exact absurd trivial hplace

/-! ## 3. Lines -/

theorem suffix_of_readName {cs rest : List Char} {name : String}
    (h : readName cs = some (name, rest)) : rest <:+ cs := by
  unfold readName at h
  split at h
  · split at h
    · cases h
      exact (List.dropWhile_suffix _).trans (List.dropWhile_suffix _)
    · cases h
  · cases h

theorem suffix_of_readTarget {cs rest : List Char} {name : String}
    (h : readTarget cs = some (name, rest)) : rest <:+ cs := by
  unfold readTarget at h
  obtain ⟨target, htarget, h⟩ := Option.bind_eq_some_iff.mp h
  split at h
  · cases h
    exact (List.suffix_cons _ _).trans (suffix_of_readName htarget)
  · obtain ⟨exported, hexported, h⟩ := Option.bind_eq_some_iff.mp h
    split at h
    · cases h
      exact ((List.suffix_cons _ _).trans (suffix_of_readName hexported)).trans
        (suffix_of_readName htarget)
    · cases h
  · cases h

/-- **A line without dollar signs sets the same in every environment.** -/
theorem readLine_eq {line : List Char} (h : '$' ∉ line) :
    readLine env line = readLine env' line := by
  -- Trimming a line from both ends and dropping its name leaves a part of it.
  have htext : '$' ∉ dropBlanks (dropBlanks line.reverse).reverse := by
    intro hmem
    have hreversed := (List.dropWhile_suffix _).subset hmem
    exact h (List.mem_reverse.mp ((List.dropWhile_suffix _).subset (List.mem_reverse.mp hreversed)))
  unfold readLine
  generalize dropBlanks (dropBlanks line.reverse).reverse = text at htext ⊢
  split
  · rfl
  · rfl
  · cases htarget : readTarget text with
    | none => rfl
    | some target =>
      obtain ⟨name, rest⟩ := target
      have hvalue : '$' ∉ dropBlanks rest := fun hmem =>
        htext ((suffix_of_readTarget htarget).subset ((List.dropWhile_suffix _).subset hmem))
      have hread : readValue env .plain (dropBlanks rest) =
          readValue env' .plain (dropBlanks rest) := readValue_eq id hvalue
      simp only [Option.bind_eq_bind, Option.bind_some]
      split
      · rfl
      · rfl
      · rw [hread]

/-! ## 4. Files -/

theorem mem_of_mem_splitLines {here octets line : List UInt8} {b : UInt8}
    (hline : line ∈ splitLines here octets) (hb : b ∈ line) : b ∈ here ∨ b ∈ octets := by
  fun_induction splitLines here octets with
  | case1 => cases hline
  | case2 here =>
    rw [List.mem_singleton.mp hline] at hb
    exact .inl (List.mem_reverse.mp hb)
  | case3 here rest ih =>
    rcases List.mem_cons.mp hline with rfl | hline
    · rcases List.mem_cons.mp (List.mem_reverse.mp hb) with rfl | hb
      · exact .inr List.mem_cons_self
      · exact .inl hb
    · rcases ih hline with hb | hb
      · cases hb
      · exact .inr (List.mem_cons_of_mem _ hb)
  | case4 here c rest hc ih =>
    rcases ih hline with hb | hb
    · rcases List.mem_cons.mp hb with rfl | hb
      · exact .inr List.mem_cons_self
      · exact .inl hb
    · exact .inr (List.mem_cons_of_mem _ hb)

theorem scan_subset (place : Place) (cs : List Char) : (scan place cs).1 ⊆ cs := by
  induction cs generalizing place with
  | nil => exact List.nil_subset _
  | cons c rest ih =>
    unfold scan
    split
    · exact List.nil_subset _
    · exact List.cons_subset_cons c (ih _)

theorem dropLineEnd_subset (line : List Char) : dropLineEnd line ⊆ line := by
  unfold dropLineEnd
  intro c hc
  split at hc
  · rename_i hreversed
    rw [← List.mem_reverse, hreversed]
    simp_all
  · rename_i hreversed
    rw [← List.mem_reverse, hreversed]
    simp_all
  · exact hc

/-- A line with more octets ahead ends among those at hand, or goes on with what was kept. -/
theorem subset_or_mem_of_mem_joinLines {begun line : List Char} {place : Place}
    {octets : List UInt8} {rest : List (List UInt8)}
    (h : some line ∈ joinLines begun place (octets :: rest)) :
    ∃ text, Utf8.decode octets = .ok text ∧
      (line ⊆ begun ++ text.toList ∨
        ∃ kept place, kept ⊆ begun ++ text.toList ∧ some line ∈ joinLines kept place rest) := by
  unfold joinLines at h
  cases hdecode : Utf8.decode octets with
  | error fault =>
    rw [hdecode] at h
    cases List.mem_singleton.mp h
  | ok text =>
    rw [hdecode] at h
    dsimp only at h
    refine ⟨text, rfl, ?_⟩
    have hscan := scan_subset place text.toList
    have hends : ∀ {ended : List Char}, ended ⊆ begun ++ text.toList →
        some line ∈ some ended :: joinLines [] .plain rest →
        line ⊆ begun ++ text.toList ∨
          ∃ kept place, kept ⊆ begun ++ text.toList ∧ some line ∈ joinLines kept place rest := by
      intro ended hended hline
      rcases List.mem_cons.mp hline with hhead | hline
      · cases hhead
        exact .inl hended
      · exact .inr ⟨[], .plain, List.nil_subset _, hline⟩
    -- The line is a comment, is cut at one, ends with its line end, or goes on in the next one.
    split at h
    · exact hends (List.nil_subset _) h
    · split at h
      · rename_i kept hkept
        rw [hkept] at hscan
        refine hends (List.append_subset.mpr ⟨List.subset_append_left _ _, ?_⟩) h
        exact List.subset_append_of_subset_right _ hscan
      · exact hends (dropLineEnd_subset _) h
      · exact .inr ⟨_, _, List.Subset.refl _, h⟩

/-- What stands in a line stands in the octets of the file. -/
theorem mem_of_mem_joinLines {begun line : List Char} {place : Place} {lines : List (List UInt8)}
    {c : Char} (hnull : c ≠ '\x00') (hascii : c.toNat < 0x80)
    (hline : some line ∈ joinLines begun place lines) (hc : c ∈ line) :
    c ∈ begun ∨ ∃ octets ∈ lines, UInt8.ofNat c.toNat ∈ octets := by
  induction lines generalizing begun place with
  | nil =>
    unfold joinLines at hline
    split at hline
    · cases hline
    · cases List.mem_singleton.mp hline
  | cons octets rest ih =>
    obtain ⟨text, hdecode, hstep⟩ := subset_or_mem_of_mem_joinLines hline
    have hhere : c ∈ begun ++ text.toList →
        c ∈ begun ∨ ∃ found ∈ octets :: rest, UInt8.ofNat c.toNat ∈ found := by
      intro hmem
      refine (List.mem_append.mp hmem).imp_right fun htext => ?_
      exact ⟨octets, List.mem_cons_self, Utf8.mem_of_decode hdecode hnull hascii htext⟩
    -- What was kept of earlier lines takes the place of what was begun.
    rcases hstep with hline | ⟨kept, place, hkept, hline⟩
    · exact hhere (hline hc)
    · rcases ih hline with hmem | ⟨found, hfound, hb⟩
      · exact hhere (hkept hmem)
      · exact .inr ⟨found, List.mem_cons_of_mem _ hfound, hb⟩

theorem setLines_twin {lines : List (Option (List Char))}
    (h : ∀ line, some line ∈ lines → '$' ∉ line) (henv : env.Twin p q env') :
    Option.Rel (Environment.Twin p q) (setLines env lines) (setLines env' lines) := by
  induction lines generalizing env env' with
  | nil => exact .some henv
  | cons line rest ih =>
    have hrest : ∀ line, some line ∈ rest → '$' ∉ line :=
      fun line hline => h line (List.mem_cons_of_mem _ hline)
    cases line with
    | none => exact .some henv
    | some line =>
      have hline : readLine env line = readLine env' line := readLine_eq (h line List.mem_cons_self)
      unfold setLines
      rw [hline]
      -- A variable is set, there is nothing to set, or the line is a fault, where loading ends.
      split
      · rename_i name value _
        have hset := henv.setDefault? name value
        generalize env.setDefault? name value = first at hset ⊢
        generalize env'.setDefault? name value = second at hset ⊢
        cases hset with
        | none => exact .none
        | some hset => exact ih hrest hset
      · exact ih hrest henv
      · exact .some henv

theorem setOctets_twin {octets : List UInt8} (h : UInt8.ofNat '$'.toNat ∉ octets)
    (henv : env.Twin p q env') :
    Option.Rel (Environment.Twin p q) (setOctets env octets) (setOctets env' octets) := by
  have hlines : ∀ {octets}, UInt8.ofNat '$'.toNat ∉ octets →
      ∀ line, some line ∈ joinLines [] .plain (splitLines [] octets) → '$' ∉ line := by
    intro octets h line hline hmem
    rcases mem_of_mem_joinLines (by decide) (by decide) hline hmem with hmem | ⟨octets', hmem, hb⟩
    · cases hmem
    · rcases mem_of_mem_splitLines hmem hb with hb | hb
      · cases hb
      · exact h hb
  unfold setOctets
  dsimp only
  -- A byte order mark in front is dropped.
  split
  · exact setLines_twin (hlines fun hmem => h (by simp_all)) henv
  · exact setLines_twin (hlines h) henv

/-- **Without dollar signs an environment file hands nothing on.** -/
theorem load_twin {files files' : Files}
    (hsame : findAbove files files.workingDirectory.reverse =
      findAbove files' files'.workingDirectory.reverse)
    (h : ∀ octets ∈ findAbove files files.workingDirectory.reverse,
      UInt8.ofNat '$'.toNat ∉ octets)
    (henv : env.Twin p q env') :
    Option.Rel (Environment.Twin p q) (load files env) (load files' env') := by
  unfold load
  rw [← hsame]
  cases hfound : findAbove files files.workingDirectory.reverse with
  | none => exact .some henv
  | some octets => exact setOctets_twin (h octets hfound) henv

end EnvFile

end ShopQuery
