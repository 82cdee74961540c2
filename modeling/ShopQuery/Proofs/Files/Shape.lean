import ShopQuery.Proofs.Files.Tree
import ShopQuery.Proofs.SameOutcome

/-!
# Trees of one shape

Two trees have one shape if the same files and directories stand in both; what the files hold may
differ. Paths lead to the same places in them, and what can be written in the one can be written in
the other (`SameShape.write`).

## How the proof goes

A path is followed by asking which places are directories, and nothing else is ever asked on the
way. So the operations are gone through one after the other, from a single step (`checkDirectory`)
to a whole path (`find`), and each has the same outcome in both trees. What is found at the end are
nodes of the same kind, and only reading looks further, at the octets.

Shape is stated place by place, so that no listing of the trees counts. For trees that are given by
their entries it is enough that the entries agree one by one (`sameShape_of_sameKinds`); directories
that no entry names are there because of the entries below them, and these are the same.
-/

namespace ShopQuery.Files

/-- Two nodes are both files or both directories. -/
inductive SameKind : FileNode → FileNode → Prop where
  | file (octets others : List UInt8) : SameKind (.file octets) (.file others)
  | directory : SameKind .directory .directory

/-- Files and directories stand at the same places of two trees. -/
structure SameShape (files other : Files) : Prop where
  workingDirectory : files.workingDirectory = other.workingDirectory
  nodes : ∀ place, Option.Rel SameKind (files.node? place) (other.node? place)

/-- Entries of two trees: the same places, with nodes of the same kind. -/
def SameKinds (entries entries' : List (List String × FileNode)) : Prop :=
  List.Forall₂ (fun entry entry' => entry.1 = entry'.1 ∧ SameKind entry.2 entry'.2) entries entries'

/-- The entries name the same places. -/
theorem SameKinds.map_fst {entries entries' : List (List String × FileNode)}
    (h : SameKinds entries entries') : entries.map (·.1) = entries'.map (·.1) := by
  induction h with
  | nil => rfl
  | cons hentry _ ih => rw [List.map_cons, List.map_cons, hentry.1, ih]

/-- What is listed for a place is of the same kind. -/
theorem SameKinds.lookup {entries entries' : List (List String × FileNode)}
    (h : SameKinds entries entries') (place : List String) :
    Option.Rel SameKind (entries.lookup place) (entries'.lookup place) := by
  induction h with
  | nil => exact .none
  | cons hentry _ ih =>
    rw [lookup_cons_eq_ite, lookup_cons_eq_ite, hentry.1]
    split
    · exact .some hentry.2
    · exact ih

/-- The shape of a tree lies in its entries. -/
theorem sameShape_of_sameKinds (workingDirectory : List String)
    {entries entries' : List (List String × FileNode)} (h : SameKinds entries entries') :
    SameShape ⟨workingDirectory, entries⟩ ⟨workingDirectory, entries'⟩ where
  workingDirectory := rfl
  nodes place := by
    have hleads : leadsOn ⟨workingDirectory, entries⟩ place =
        leadsOn ⟨workingDirectory, entries'⟩ place := by
      have hany := congrArg (List.any · place.isPrefixOf) h.map_fst
      simp only [List.any_map] at hany
      exact congrArg (place.isPrefixOf workingDirectory || ·) hany
    have hlookup := h.lookup place
    unfold node?
    dsimp only
    rw [hleads]
    generalize entries.lookup place = node at hlookup ⊢
    generalize entries'.lookup place = node' at hlookup ⊢
    cases hlookup with
    | none =>
      dsimp only
      split
      · exact .some .directory
      · exact .none
    | some hkind => exact .some hkind

namespace SameShape

variable {files other : Files} (h : SameShape files other)
include h

/-- A step into a place is possible in both trees or fails alike. -/
theorem checkDirectory (place : List String) :
    files.checkDirectory place = other.checkDirectory place := by
  have hnode := h.nodes place
  unfold Files.checkDirectory
  generalize files.node? place = node at hnode ⊢
  generalize other.node? place = node' at hnode ⊢
  cases hnode with
  | none => rfl
  | some hkind => cases hkind <;> rfl

theorem startOf (steps : PathSteps) : files.startOf steps = other.startOf steps := by
  unfold Files.startOf
  rw [h.workingDirectory]

/-- A path leads to the same place. -/
theorem follow (place : List String) (names : List String) :
    files.follow place names = other.follow place names := by
  have henter : files.enter = other.enter := by
    funext place name
    unfold Files.enter
    rw [h.checkDirectory]
  unfold Files.follow
  rw [henter]

/-- A path finds nodes of the same kind, or fails alike. -/
theorem find (path : String) : SameOutcome SameKind (files.find path) (other.find path) := by
  unfold Files.find
  refine .after _ ?_
  intro steps
  rw [h.startOf, h.follow]
  refine .after _ ?_
  intro place
  have hnode := h.nodes place
  generalize files.node? place = node at hnode ⊢
  generalize other.node? place = node' at hnode ⊢
  cases hnode with
  | none => exact .error _
  | some hkind =>
    cases hkind with
    | directory => exact .ok .directory
    | file => exact .guard _ (.ok (.file _ _))

theorem exist (path : String) : files.exist path = other.exist path := by
  have hfind := h.find path
  unfold Files.exist
  generalize files.find path = found at hfind ⊢
  generalize other.find path = found' at hfind ⊢
  cases hfind <;> rfl

/-- What is written to one tree can be written to the other, and read from both. -/
theorem write (path : String) (octets : List UInt8) :
    SameOutcome (fun written written' =>
        written.readOctets path = .ok octets ∧ written'.readOctets path = .ok octets)
      (files.write path octets) (other.write path octets) := by
  have hwrite : SameOutcome (fun _ _ => True) (files.write path octets)
      (other.write path octets) := by
    unfold Files.write
    refine .after _ ?_
    intro steps
    rw [h.startOf, h.follow, h.follow]
    dsimp only
    -- A path that ends in a slash is refused in either case, by one error or another.
    split
    · refine .after _ ?_
      intro place
      rw [h.checkDirectory]
      refine .after _ ?_
      intro _
      exact .error _
    · refine .after _ ?_
      intro place
      have hnode := h.nodes place
      generalize files.node? place = node at hnode ⊢
      generalize other.node? place = node' at hnode ⊢
      cases hnode with
      | none => exact .ok trivial
      | some hkind =>
        cases hkind with
        | file => exact .ok trivial
        | directory => exact .error _
  -- That both can be written is enough: what was written is read from either.
  refine hwrite.with_eq.mono ?_
  rintro written written' ⟨hfirst, hsecond, -⟩
  exact ⟨readOctets_write hfirst, readOctets_write hsecond⟩

end SameShape

end ShopQuery.Files
