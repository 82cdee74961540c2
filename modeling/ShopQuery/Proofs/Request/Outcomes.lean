import ShopQuery.Proofs.FirstFailure
import ShopQuery.Proofs.Query.Signature
import ShopQuery.Request.Period
import ShopQuery.Request.Plan

/-!
# Outcomes of reading requests

Whatever the request is: every statement of a plan suits its template (`wellTyped_of_ofRequest`),
and a request without a plan or a period is itself at fault (`isValidation_of_ofRequest`).

No condition is put on the request here, not even that its keys are distinct. So these lemmas do not
go through the description of planned items but through the steps of the reader: each step has the
types that the next one asks for, and each has errors that speak of the request alone. What ties the
two sides together is that the fields of a kind have the types that its template reads
(`CriteriaKind.map_paramType_fields`), which is a finite check over the kinds.

The lemmas serve the theorem about all that an answer may be: what a database is asked is a
statement that it can answer or refuse with an error of its own, never one that it cannot make sense
of.
-/

namespace ShopQuery

/-- The type of the parameter that a field is bound as. -/
def FieldType.paramType : FieldType → ParamType
  | .string => .text
  | .number => .integer

/-- The fields of a kind have the types that its template reads. -/
theorem CriteriaKind.map_paramType_fields (kind : CriteriaKind) :
    kind.fields.map (·.2.paramType) = kind.template.signature := by
  cases kind <;> rfl

namespace Criteria

theorem type_of_param {item : Criteria} {field : String × FieldType} {p : Param}
    (h : item.param field = .ok p) : p.type = field.2.paramType := by
  obtain ⟨key, type⟩ := field
  unfold param at h
  cases type with
  | string =>
    obtain ⟨s, -, rfl⟩ := map_eq_ok_iff.mp h
    rfl
  | number =>
    obtain ⟨n, -, rfl⟩ := map_eq_ok_iff.mp h
    rfl

/-- The statement of a kind suits the template of the kind. -/
theorem wellTyped_of_statement {item : Criteria} {kind : CriteriaKind} {s : Statement}
    (h : item.statement kind = .ok s) : s.template = kind.template ∧ s.WellTyped := by
  unfold statement at h
  obtain ⟨params, hparams, h⟩ := bind_eq_ok_iff.mp h
  cases h
  refine ⟨rfl, ?_⟩
  have htypes : List.Forall₂ (fun field p => field.2.paramType = Param.type p) kind.fields params :=
    ((mapM_eq_ok_iff _ _ _).mp hparams).imp fun _ _ hp => (type_of_param hp).symm
  unfold Statement.WellTyped
  rw [← kind.map_paramType_fields]
  exact (List.forall₂_eq_eq_eq ▸ List.forall₂_map_left_iff.mpr
    (List.forall₂_map_right_iff.mpr htypes)).symm

theorem isValidation_of_string {item : Criteria} {key : String} {e : Error}
    (h : item.string key = .error e) : e.isValidation = true := by
  unfold string at h
  split at h <;> cases h
  rfl

theorem isValidation_of_int {item : Criteria} {key : String} {e : Error}
    (h : item.int key = .error e) : e.isValidation = true := by
  unfold int at h
  split at h <;> cases h
  rfl

theorem isValidation_of_statement {item : Criteria} {kind : CriteriaKind} {e : Error}
    (h : item.statement kind = .error e) : e.isValidation = true := by
  unfold statement at h
  rcases bind_eq_error_iff.mp h with hparams | ⟨params, -, h⟩
  · obtain ⟨_, ⟨key, type⟩, _, -, -, hparam⟩ := (mapM_eq_error_iff _ _ _).mp hparams
    cases type with
    | string => exact isValidation_of_string (map_eq_error_iff.mp hparam)
    | number => exact isValidation_of_int (map_eq_error_iff.mp hparam)
  · cases h

end Criteria

namespace Plan

theorem wellTyped_of_ofItem {item : Json} {query : PlannedQuery} (h : ofItem item = .ok query) :
    query.statement.template = query.kind.template ∧ query.statement.WellTyped := by
  unfold ofItem at h
  obtain ⟨criteria, -, h⟩ := bind_eq_ok_iff.mp h
  obtain ⟨kind, -, h⟩ := bind_eq_ok_iff.mp h
  obtain ⟨statement, hstatement, h⟩ := bind_eq_ok_iff.mp h
  cases h
  exact Criteria.wellTyped_of_statement hstatement

/-- Every statement of a plan suits its template, which is that of a kind of criteria. -/
theorem wellTyped_of_ofRequest {request : Json} {plan : List PlannedQuery}
    (h : ofRequest request = .ok plan) :
    ∀ query ∈ plan,
      query.statement.template = query.kind.template ∧ query.statement.WellTyped := by
  unfold ofRequest at h
  obtain ⟨list, -, hplan⟩ := bind_eq_ok_iff.mp h
  intro query hquery
  obtain ⟨item, -, hitem⟩ := exists_of_forall₂_of_mem ((mapM_eq_ok_iff _ _ _).mp hplan).flip hquery
  exact wellTyped_of_ofItem hitem

theorem isValidation_of_ofItem {item : Json} {e : Error} (h : ofItem item = .error e) :
    e.isValidation = true := by
  unfold ofItem at h
  rcases bind_eq_error_iff.mp h with hobject | ⟨criteria, -, h⟩
  · unfold Criteria.ofJson at hobject
    split at hobject <;> cases hobject
    rfl
  rcases bind_eq_error_iff.mp h with hkind | ⟨kind, -, h⟩
  · unfold Criteria.classify at hkind
    split at hkind <;> cases hkind
    rfl
  rcases bind_eq_error_iff.mp h with hstatement | ⟨statement, -, h⟩
  · exact Criteria.isValidation_of_statement hstatement
  · cases h

theorem isValidation_of_ofRequest {request : Json} {e : Error}
    (h : ofRequest request = .error e) : e.isValidation = true := by
  unfold ofRequest at h
  rcases bind_eq_error_iff.mp h with hitems | ⟨list, -, hlist⟩
  · unfold items at hitems
    split at hitems <;> cases hitems
    rfl
  · obtain ⟨_, item, _, -, -, hitem⟩ := (mapM_eq_error_iff _ _ _).mp hlist
    exact isValidation_of_ofItem hitem

end Plan

namespace Period

theorem isValidation_of_boundText {request : Json} {field : DateField} {e : Error}
    (h : boundText request field = .error e) : e.isValidation = true := by
  unfold boundText at h
  split at h <;> cases h
  rfl

theorem isValidation_of_readBound {raw : String} {e : Error} (h : readBound raw = .error e) :
    e.isValidation = true := by
  unfold readBound at h
  cases hread : Date.read raw with
  | ok date =>
    rw [hread] at h
    cases h
  | error fault =>
    rw [hread] at h
    cases h
    rfl

theorem isValidation_of_ofRequest {request : Json} {e : Error}
    (h : ofRequest request = .error e) : e.isValidation = true := by
  unfold ofRequest at h
  rcases bind_eq_error_iff.mp h with hstart | ⟨rawStart, -, h⟩
  · exact isValidation_of_boundText hstart
  rcases bind_eq_error_iff.mp h with hfinish | ⟨rawFinish, -, h⟩
  · exact isValidation_of_boundText hfinish
  rcases bind_eq_error_iff.mp h with hstart | ⟨start, -, h⟩
  · exact isValidation_of_readBound hstart
  rcases bind_eq_error_iff.mp h with hfinish | ⟨finish, -, h⟩
  · exact isValidation_of_readBound hfinish
  unfold ofBounds at h
  split at h <;> cases h
  rfl

end Period

end ShopQuery
