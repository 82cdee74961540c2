import ShopQuery.Files.Tree
import ShopQuery.Proofs.FirstFailure
import ShopQuery.Proofs.Text.Utf8

/-!
# Files that were written

What a path leads to after octets were written to one. Directories stay directories
(`node?_put_of_directory`), so every path can be followed as before, and the file that was written
has what was written to it (`readOctets_write`).

## How the proof goes

Writing sets the place that a path leads to (`write_eq_ok_iff`). To read the file again, the path is
followed once more, in the tree as it is then; and it has to lead to the same place. It does, since
every step of it goes through a directory, and a file that is written never takes the place of one.
That place may have been empty, or a file; that it was no directory is what writing checks
(`Writable.vacant`).

Writing may change which entries there are: a place that had none gets one. No entry is taken away
by that (`exists_mem_setEntry`), so directories that are there for the entries below them stay
(`leadsOn_put`).

What is written plays no part in whether it can be (`write_of_write`). So a path that can be written
once can be written with any text.
-/

namespace ShopQuery.Files

/-! ## 1. Entries -/

variable {place key : List String} {node : FileNode}

theorem lookup_cons_eq_ite (entry : List String × FileNode)
    (entries : List (List String × FileNode)) :
    (entry :: entries).lookup key = if key = entry.1 then some entry.2 else entries.lookup key := by
  rw [List.lookup_cons]
  by_cases h : key = entry.1
  · rw [if_pos h, beq_iff_eq.mpr h]
  · rw [if_neg h, beq_false_of_ne h]

/-- A place that is set has its node; the others have what they had. -/
theorem lookup_setEntry (entries : List (List String × FileNode)) :
    (setEntry place node entries).lookup key =
      if key = place then some node else entries.lookup key := by
  induction entries with
  | nil => rw [setEntry, lookup_cons_eq_ite]
  | cons entry rest ih =>
    rw [setEntry]
    split
    · rename_i hentry
      rw [lookup_cons_eq_ite, lookup_cons_eq_ite, hentry]
      split <;> rfl
    · rename_i hentry
      rw [lookup_cons_eq_ite, lookup_cons_eq_ite, ih]
      by_cases hkey : key = entry.1
      · rw [if_pos hkey, if_neg fun h => hentry (hkey.symm.trans h), if_pos hkey]
      · rw [if_neg hkey, if_neg hkey]

/-- Setting an entry takes no place off the list. -/
theorem exists_mem_setEntry {entries : List (List String × FileNode)}
    {entry : List String × FileNode} (h : entry ∈ entries) :
    ∃ kept ∈ setEntry place node entries, kept.1 = entry.1 := by
  induction entries with
  | nil => cases h
  | cons head rest ih =>
    rw [setEntry]
    split
    · rename_i hhead
      rcases List.mem_cons.mp h with rfl | h
      · exact ⟨_, List.mem_cons_self, hhead.symm⟩
      · exact ⟨entry, List.mem_cons_of_mem _ h, rfl⟩
    · rcases List.mem_cons.mp h with rfl | h
      · exact ⟨entry, List.mem_cons_self, rfl⟩
      · obtain ⟨kept, hkept, heq⟩ := ih h
        exact ⟨kept, List.mem_cons_of_mem _ hkept, heq⟩

/-- What leads on to an entry still does. -/
theorem leadsOn_put {files : Files} (h : files.leadsOn key = true) :
    (files.put place node).leadsOn key = true := by
  unfold leadsOn at h ⊢
  rw [Bool.or_eq_true, List.any_eq_true] at h ⊢
  rcases h with hworking | ⟨entry, hentry, hprefix⟩
  · exact Or.inl hworking
  · obtain ⟨kept, hkept, heq⟩ := exists_mem_setEntry hentry
    exact Or.inr ⟨kept, hkept, heq ▸ hprefix⟩

/-! ## 2. Places -/

@[simp] theorem node?_put_self (files : Files) :
    (files.put place node).node? place = some node := by
  rw [node?, put, lookup_setEntry, if_pos rfl]

/-- A directory stays one when a file is written in another place. -/
theorem node?_put_of_directory {files : Files} (hplace : files.node? place ≠ some .directory)
    (h : files.node? key = some .directory) :
    (files.put place node).node? key = some .directory := by
  have hne : key ≠ place := by
    rintro rfl
    exact hplace h
  unfold node? at h ⊢
  rw [put, lookup_setEntry, if_neg hne]
  -- A directory is listed, or it only leads to something that is; it does so after the writing too.
  split
  · rename_i listed hlisted
    rw [hlisted] at h
    exact h
  · rename_i hlisted
    rw [hlisted] at h
    have hleads : files.leadsOn key = true := by
      by_contra hnot
      rw [if_neg hnot] at h
      cases h
    exact if_pos (leadsOn_put hleads)

/-- A step can be taken into a directory, and nowhere else. -/
theorem checkDirectory_eq_ok_iff {files : Files} :
    files.checkDirectory key = .ok () ↔ files.node? key = some .directory := by
  unfold checkDirectory
  split <;> rename_i h <;> simp [h]

/-- What every directory of one tree is in another can be followed there as well. -/
theorem follow_of_directories {files other : Files} {names : List String}
    (h : ∀ {key}, files.node? key = some .directory → other.node? key = some .directory)
    (hfollow : files.follow key names = .ok place) : other.follow key names = .ok place := by
  induction names generalizing key with
  | nil => exact hfollow
  | cons name rest ih =>
    rw [follow, List.foldlM_cons, bind_eq_ok_iff] at hfollow ⊢
    obtain ⟨next, henter, hrest⟩ := hfollow
    refine ⟨next, ?_, ih hrest⟩
    unfold enter at henter ⊢
    obtain ⟨_, hcheck, hname⟩ := bind_eq_ok_iff.mp henter
    exact bind_eq_ok_iff.mpr ⟨(), checkDirectory_eq_ok_iff.mpr
      (h (checkDirectory_eq_ok_iff.mp hcheck)), hname⟩

/-! ## 3. Writing and reading -/

theorem exist_of_readText {files : Files} {path text : String}
    (h : files.readText path = .ok text) : files.exist path = true := by
  obtain ⟨octets, hoctets, -⟩ := bind_eq_ok_iff.mp h
  obtain ⟨node, hfind, -⟩ := bind_eq_ok_iff.mp hoctets
  unfold exist
  rw [hfind]

/-- A path can be written: it leads to a place that is no directory. -/
structure Writable (files : Files) (path : String) (steps : PathSteps) (place : List String) :
    Prop where
  cut : stepsOf path = .ok steps
  file : steps.trailing = false
  reached : files.follow (files.startOf steps) steps.names = .ok place
  vacant : files.node? place ≠ some .directory

/-- Writing sets the place of the path, whatever is written. -/
theorem write_eq_ok_iff {files written : Files} {path : String} {octets : List UInt8} :
    files.write path octets = .ok written ↔
      ∃ steps place, Writable files path steps place ∧
        written = files.put place (.file octets) := by
  unfold write
  rw [bind_eq_ok_iff]
  constructor
  · rintro ⟨steps, hcut, h⟩
    cases htrailing : steps.trailing with
    | true =>
      rw [htrailing] at h
      obtain ⟨parent, -, h⟩ := bind_eq_ok_iff.mp h
      obtain ⟨_, -, h⟩ := bind_eq_ok_iff.mp h
      cases h
    | false =>
      rw [htrailing] at h
      obtain ⟨place, hreached, h⟩ := bind_eq_ok_iff.mp h
      split at h
      · cases h
      · rename_i hvacant
        cases h
        exact ⟨steps, place, ⟨hcut, htrailing, hreached, hvacant⟩, rfl⟩
  · rintro ⟨steps, place, ⟨hcut, hfile, hreached, hvacant⟩, rfl⟩
    refine ⟨steps, hcut, ?_⟩
    rw [hfile]
    refine bind_eq_ok_iff.mpr ⟨place, hreached, ?_⟩
    split
    · rename_i hdirectory
      exact absurd hdirectory hvacant
    · rfl

/-- A path that can be written with some octets can be written with others. -/
theorem write_of_write {files written : Files} {path : String} {octets : List UInt8}
    (h : files.write path octets = .ok written) (others : List UInt8) :
    ∃ rewritten, files.write path others = .ok rewritten := by
  obtain ⟨steps, place, hwritable, -⟩ := write_eq_ok_iff.mp h
  exact ⟨_, write_eq_ok_iff.mpr ⟨steps, place, hwritable, rfl⟩⟩

/-- **A file that was written has what was written to it.** -/
theorem readOctets_write {files written : Files} {path : String} {octets : List UInt8}
    (h : files.write path octets = .ok written) : written.readOctets path = .ok octets := by
  obtain ⟨steps, place, ⟨hcut, hfile, hreached, hvacant⟩, rfl⟩ := write_eq_ok_iff.mp h
  -- The place is reached by the same steps, as every directory on the way is still one.
  have hfollow : (files.put place (.file octets)).follow
      ((files.put place (.file octets)).startOf steps) steps.names = .ok place :=
    follow_of_directories (node?_put_of_directory hvacant) hreached
  have hfind : (files.put place (.file octets)).find path = .ok (.file octets) := by
    unfold find
    refine bind_eq_ok_iff.mpr ⟨steps, hcut, bind_eq_ok_iff.mpr ⟨place, hfollow, ?_⟩⟩
    rw [node?_put_self]
    simp only [hfile]
    rfl
  exact bind_eq_ok_iff.mpr ⟨_, hfind, rfl⟩

/-- A text that was written to a file is read from it. -/
theorem readText_write {files written : Files} {path text : String}
    (h : files.write path (Utf8.encode text) = .ok written) :
    written.readText path = .ok text := by
  refine bind_eq_ok_iff.mpr ⟨_, readOctets_write h, ?_⟩
  rw [Utf8.decode_encode]
  rfl

end ShopQuery.Files
