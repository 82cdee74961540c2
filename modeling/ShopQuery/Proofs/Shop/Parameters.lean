import ShopQuery.Proofs.FirstFailure
import ShopQuery.Proofs.Query.Signature
import ShopQuery.Proofs.Shop.Execute

/-!
# Parameters are checked first

A statement may come with any parameters: too few, too many, of any types. Over the tables of a
shop it is checked against the signature of its template, position by position, and only then
evaluated (`Shop.rows_eq_bind`). So the first parameter that does not suit decides the error,
whatever the tables hold, and parameters beyond the signature are never read
(`Shop.execute_checks_params`).

## How the proof goes

The evaluator has no check of its own: it reads parameters when it needs them, each by the reader of
its type, and a reader fails where the parameter does not suit. So a check is split off. A reader
checks the type and then makes a value (`Param.Reads`), and reading one or two parameters is to
check them and to read them from what was checked (`Reads.bind_one`, `Reads.bind_two`). With this
the evaluation of every template begins with the check of its signature (`Shop.rows_eq_bind`), a
case for each template.

The check goes through the signature and stops at the first failure. What `Unsuited` says is wrong
with a position is what the check says there, message and all (`typedAt_of_unsuited`), and the first
such position is the one where it stops. Parameters beyond the signature are at no position that is
checked (`checked_take`).
-/

namespace ShopQuery

/-! ## 1. Checks -/

namespace Param

/-- The parameter at a position, which has to have a type. -/
def typedAt (params : List Param) (type : ParamType) (position : Nat) :
    Except QueryFault Param := do
  let p ← at? params position
  if p.type = type then return p else throw (.parameterType position type p)

/-- The parameters at the positions of a signature, which have to have its types. -/
def checked (params : List Param) (signature : List ParamType) : Except QueryFault (List Param) :=
  signature.zipIdx.mapM fun (type, position) => typedAt params type position

section

variable {params : List Param} {type : ParamType} {position : Nat}

theorem typedAt_of_none (h : params[position]? = none) :
    typedAt params type position = .error (.noParameter position) := by
  rw [typedAt, at?, h]
  rfl

theorem typedAt_of_type {p : Param} (h : params[position]? = some p) (htype : p.type = type) :
    typedAt params type position = .ok p := by
  rw [typedAt, at?, h]
  exact if_pos htype

theorem typedAt_of_other {p : Param} (h : params[position]? = some p) (htype : p.type ≠ type) :
    typedAt params type position = .error (.parameterType position type p) := by
  rw [typedAt, at?, h]
  exact if_neg htype

theorem type_of_typedAt {p : Param} (h : typedAt params type position = .ok p) : p.type = type := by
  obtain ⟨found, -, h⟩ := bind_eq_ok_iff.mp h
  split at h
  · cases h
    assumption
  · cases h

end

/-- Parameters beyond the signature are not looked at. -/
theorem checked_take (params : List Param) (signature : List ParamType) :
    checked (params.take signature.length) signature = checked params signature := by
  unfold checked
  refine mapM_congr ?_
  rintro ⟨type, position⟩ hmem
  have hposition : position < signature.length := by
    simpa using List.snd_lt_of_mem_zipIdx hmem
  dsimp only
  unfold typedAt at?
  rw [List.getElem?_take_of_lt hposition]

/-! ## 2. Readers -/

section

variable {α β γ : Type}

/-- A reader of parameters checks that one has a type, and makes a value of it. -/
def Reads (type : ParamType) (read : List Param → Nat → Except QueryFault α) : Prop :=
  ∃ value : Param → α, ∀ params position,
    read params position = (typedAt params type position).map value

def asText : Param → String
  | .text s => s
  | _ => ""

def asInt : Param → Int64
  | .int n => n
  | _ => 0

def asDate : Param → Date
  | .date d => d
  | _ => .first

theorem reads_textAt : Reads .text textAt := by
  refine ⟨asText, fun params position => ?_⟩
  unfold textAt typedAt
  cases at? params position with
  | error fault => rfl
  | ok p => cases p <;> rfl

theorem reads_intAt : Reads .integer intAt := by
  refine ⟨asInt, fun params position => ?_⟩
  unfold intAt typedAt
  cases at? params position with
  | error fault => rfl
  | ok p => cases p <;> rfl

theorem reads_dateAt : Reads .date dateAt := by
  refine ⟨asDate, fun params position => ?_⟩
  unfold dateAt typedAt
  cases at? params position with
  | error fault => rfl
  | ok p => cases p <;> rfl

variable {type other : ParamType} {read : List Param → Nat → Except QueryFault α}
  {read' : List Param → Nat → Except QueryFault β}

/-- To read one parameter is to check it and to read it from what was checked. -/
theorem Reads.bind_one (h : Reads type read) (params : List Param)
    (next : α → Except QueryFault γ) :
    (read params 0 >>= next) =
      checked params [type] >>= fun suited => read suited 0 >>= next := by
  obtain ⟨value, hread⟩ := h
  have hchecked : checked params [type] = do
      let p ← typedAt params type 0
      return [p] := by simp [checked]
  rw [hchecked, hread]
  cases hp : typedAt params type 0 with
  | error fault => rfl
  | ok p =>
    have hsuited : typedAt [p] type 0 = .ok p := typedAt_of_type rfl (type_of_typedAt hp)
    show _ = read [p] 0 >>= next
    rw [hread, hsuited]

/-- To read two parameters is to check both and to read them from what was checked. -/
theorem Reads.bind_two (h : Reads type read) (h' : Reads other read') (params : List Param)
    (next : α → β → Except QueryFault γ) :
    (read params 0 >>= fun a => read' params 1 >>= next a) =
      checked params [type, other] >>= fun suited =>
        read suited 0 >>= fun a => read' suited 1 >>= next a := by
  obtain ⟨value, hread⟩ := h
  obtain ⟨value', hread'⟩ := h'
  have hchecked : checked params [type, other] = do
      let p ← typedAt params type 0
      let q ← typedAt params other 1
      return [p, q] := by simp [checked]
  simp only [hchecked, hread, hread']
  cases hp : typedAt params type 0 with
  | error fault => rfl
  | ok p =>
    cases hq : typedAt params other 1 with
    | error fault => rfl
    | ok q =>
      have hfirst : typedAt [p, q] type 0 = .ok p := typedAt_of_type rfl (type_of_typedAt hp)
      have hsecond : typedAt [p, q] other 1 = .ok q := typedAt_of_type rfl (type_of_typedAt hq)
      show next (value p) (value' q) = (typedAt [p, q] type 0).map value >>= fun a =>
        (typedAt [p, q] other 1).map value' >>= next a
      rw [hfirst, hsecond]
      rfl

end

end Param

/-! ## 3. Statements -/

namespace Statement

/-- What is wrong with the parameter at a position that the template reads: there is none, or it
has another type than the template reads there. Messages count positions from one. -/
inductive Unsuited (s : Statement) (position : Nat) : String → Prop
  | missing {type : ParamType} (reads : s.template.signature[position]? = some type)
    (absent : s.params[position]? = none) :
    Unsuited s position s!"there is no parameter ${position + 1}"
  | wrongType {type : ParamType} {p : Param} (reads : s.template.signature[position]? = some type)
    (found : s.params[position]? = some p) (other : p.type ≠ type) :
    Unsuited s position s!"parameter ${position + 1} expected {type.name}, got {p.display}"

/-- A statement without the parameters that its template has no position for. -/
def cut (s : Statement) : Statement := ⟨s.template, s.params.take s.template.arity⟩

variable {s : Statement}

/-- A parameter that suits is there and has the type that is read. -/
theorem exists_of_not_unsuited {position : Nat} {type : ParamType}
    (h : ∀ message, ¬ s.Unsuited position message)
    (hreads : s.template.signature[position]? = some type) :
    ∃ p, s.params[position]? = some p ∧ p.type = type := by
  cases hfound : s.params[position]? with
  | none => exact absurd (.missing hreads hfound) (h _)
  | some p =>
    refine ⟨p, rfl, ?_⟩
    by_contra hother
    exact h _ (.wrongType hreads hfound hother)

theorem typedAt_of_unsuited {position : Nat} {message : String} (h : s.Unsuited position message) :
    ∃ type fault, s.template.signature[position]? = some type ∧
      Param.typedAt s.params type position = .error fault ∧ fault.message = message := by
  cases h with
  | missing reads absent => exact ⟨_, _, reads, Param.typedAt_of_none absent, rfl⟩
  | wrongType reads found other => exact ⟨_, _, reads, Param.typedAt_of_other found other, rfl⟩

/-- The check stops at the first parameter that does not suit. -/
theorem checked_of_unsuited {position : Nat} {message : String} (h : s.Unsuited position message)
    (hfirst : ∀ earlier < position, ∀ other, ¬ s.Unsuited earlier other) :
    ∃ fault, Param.checked s.params s.template.signature = .error fault ∧
      fault.message = message := by
  obtain ⟨type, fault, hreads, hfault, hmessage⟩ := typedAt_of_unsuited h
  have hzip : s.template.signature.zipIdx[position]? = some (type, position) := by
    simp [List.getElem?_zipIdx, hreads]
  obtain ⟨hposition, hentry⟩ := List.getElem?_eq_some_iff.mp hzip
  -- The positions before this one are suited, so the check passes them and stops here.
  refine ⟨fault, (mapM_eq_error_iff _ _ _).mpr ⟨s.template.signature.zipIdx.take position,
    (type, position), s.template.signature.zipIdx.drop (position + 1), ?_, ?_, hfault⟩, hmessage⟩
  · rw [← hentry, List.getElem_cons_drop, List.take_append_drop]
  · intro x hx
    obtain ⟨earlier, hearlier, rfl⟩ := List.mem_take_iff_getElem.mp hx
    rw [List.getElem_zipIdx]
    have hlt : earlier < position := by omega
    obtain ⟨p, hp, htype⟩ := exists_of_not_unsuited (hfirst earlier hlt)
      (List.getElem?_eq_getElem (by simpa using Nat.lt_trans hlt hposition))
    exact ⟨p, Param.typedAt_of_type (by simpa using hp) htype⟩

/-- A statement whose parameters all suit is well-typed once it is cut. -/
theorem wellTyped_cut (h : ∀ position message, ¬ s.Unsuited position message) :
    s.cut.WellTyped := by
  unfold WellTyped cut
  refine List.ext_getElem? fun position => ?_
  rw [List.getElem?_map]
  cases hreads : s.template.signature[position]? with
  | none =>
    have hposition := List.getElem?_eq_none_iff.mp hreads
    rw [s.template.length_signature] at hposition
    have htake : (s.params.take s.template.arity).length ≤ position :=
      Nat.le_trans (List.length_take_le _ _) hposition
    rw [List.getElem?_eq_none htake]
    rfl
  | some type =>
    obtain ⟨hposition, -⟩ := List.getElem?_eq_some_iff.mp hreads
    rw [s.template.length_signature] at hposition
    obtain ⟨p, hp, rfl⟩ := exists_of_not_unsuited (h position) hreads
    rw [List.getElem?_take_of_lt hposition, hp]
    rfl

end Statement

namespace Shop

/-- **All parameters are checked before the tables are looked at**, and what is evaluated then is
what was checked. -/
theorem rows_eq_bind (shop : Shop) (s : Statement) :
    shop.rows s = Param.checked s.params s.template.signature >>= fun suited =>
      shop.rows ⟨s.template, suited⟩ := by
  obtain ⟨template, params⟩ := s
  cases template with
  | lastName => exact Param.reads_textAt.bind_one params _
  | productFrequency => exact Param.reads_textAt.bind_two Param.reads_intAt params _
  | expenseRange => exact Param.reads_intAt.bind_two Param.reads_intAt params _
  | badCustomers => exact Param.reads_intAt.bind_one params _
  | weekdayCount => exact Param.reads_dateAt.bind_two Param.reads_dateAt params _
  | customerExpenses => exact Param.reads_dateAt.bind_two Param.reads_dateAt params _

theorem execute_cut (shop : Shop) (s : Statement) : shop.execute s.cut = shop.execute s := by
  have hchecked : Param.checked s.cut.params s.template.signature =
      Param.checked s.params s.template.signature := by
    rw [← Param.checked_take s.params, s.template.length_signature]
    rfl
  have hrows : shop.rows s.cut = shop.rows s := by
    rw [rows_eq_bind, rows_eq_bind shop s, ← hchecked]
    rfl
  rw [execute_eq_resultOf, execute_eq_resultOf, hrows]
  rfl

/-- **Parameters are checked before anything else.** The first one that is missing or has another
type than is read at its position decides the error, whatever the tables and the other parameters
hold. If there is none such, the parameters that the template has positions for are well-typed; and
surplus parameters have no effect. -/
theorem execute_checks_params (shop : Shop) (s : Statement) :
    (∀ position message, s.Unsuited position message →
      (∀ earlier < position, ∀ other, ¬ s.Unsuited earlier other) →
      shop.execute s = .error (.query message)) ∧
    ((∀ position message, ¬ s.Unsuited position message) → s.cut.WellTyped) ∧
    shop.execute s = shop.execute s.cut := by
  refine ⟨?first, Statement.wellTyped_cut, (shop.execute_cut s).symm⟩
  intro position message hunsuited hfirst
  obtain ⟨fault, hchecked, rfl⟩ := Statement.checked_of_unsuited hunsuited hfirst
  rw [execute_eq_resultOf, rows_eq_bind, hchecked]
  rfl

/-- A range of totals with a text for its upper end, and one parameter more. -/
def textualRange : Statement := ⟨.expenseRange, [.int 0, .text "9", .int (-1)]⟩

/-- The second parameter is the first that does not suit. -/
theorem execute_textualRange :
    textualRange.Unsuited 1 "parameter $2 expected integer, got Text(\"9\")" ∧
      (∀ earlier < 1, ∀ other, ¬ textualRange.Unsuited earlier other) ∧
      Shop.empty.execute textualRange =
        .error (.query "parameter $2 expected integer, got Text(\"9\")") := by
  have hsecond : textualRange.Unsuited 1 "parameter $2 expected integer, got Text(\"9\")" :=
    @Statement.Unsuited.wrongType textualRange 1 .integer (.text "9") rfl rfl nofun
  have hfirst : ∀ earlier < 1, ∀ other, ¬ textualRange.Unsuited earlier other := by
    intro earlier hearlier other h
    obtain rfl : earlier = 0 := by omega
    cases h with
    | missing _ absent => cases absent
    | wrongType reads found htype =>
      cases reads
      cases found
      exact htype rfl
  exact ⟨hsecond, hfirst, (execute_checks_params Shop.empty textualRange).1 1 _ hsecond hfirst⟩

end Shop

end ShopQuery
