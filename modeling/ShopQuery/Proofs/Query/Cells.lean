import ShopQuery.Query.Result

/-!
# Cells by column

`cell?` is the cell of a row at the first column of a name (`cell?_eq_some_iff`). The typed readers
succeed exactly where it is there and has their type (`text_eq_ok_iff`, `int_eq_ok_iff`), whatever
else the row holds. Otherwise their fault says that there is no such column, or what stands in its
place (`text_eq_error_iff`, `int_eq_error_iff`). Of several columns, one is the first that cannot be
read unless all can be (`exists_firstUnreadable_iff`).

## How the proof goes

A reader looks for the position of a column and then for the cell there. `cell?` is these two steps
without the type, and `Unreadable` is why they come to nothing, in two cases: there is no column of
the name, or there is one and the row has no cell of the type there. A row may be shorter than the
list of columns, so that "no cell" is among the second case; what is displayed is then `nothing`.

Both readers of types are unfolded here and nowhere else. What reads a row of several columns is a
chain of them, and its fault is that of the first link that fails: `FirstUnreadable` says so along
the list of columns, so that a proof about names and one about expenses differ in that list alone.
-/

namespace ShopQuery

def Cell.type? : Cell → Option CellType
  | .null => none
  | .int _ => some .integer
  | .text _ => some .text

namespace QueryResult

/-! ## 1. Cells that can be read -/

/-- The cell of a row at the first column of a name, if there are such a column and such a cell. -/
def cell? (result : QueryResult) (row : Row) (column : String) : Option Cell :=
  (result.columns.findIdx? (· == column)).bind (row[·]?)

/-- The columns before the position of a cell have other names. -/
theorem cell?_eq_some_iff {result : QueryResult} {row : Row} {column : String} {cell : Cell} :
    result.cell? row column = some cell ↔
      ∃ i : Nat, result.columns[i]? = some column ∧ (∀ j < i, result.columns[j]? ≠ some column) ∧
        row[i]? = some cell := by
  unfold cell?
  simp only [Option.bind_eq_some_iff, List.findIdx?_eq_some_iff_getElem, beq_iff_eq]
  refine exists_congr fun i => ?_
  constructor
  · rintro ⟨⟨hi, hname, hbefore⟩, hcell⟩
    refine ⟨List.getElem?_eq_some_iff.mpr ⟨hi, hname⟩, fun j hj heq => ?_, hcell⟩
    exact hbefore j hj (List.getElem?_eq_some_iff.mp heq).2
  · rintro ⟨hcolumn, hbefore, hcell⟩
    obtain ⟨hi, hname⟩ := List.getElem?_eq_some_iff.mp hcolumn
    refine ⟨⟨hi, hname, fun j hj heq => ?_⟩, hcell⟩
    exact hbefore j hj (List.getElem?_eq_some_iff.mpr ⟨by omega, heq⟩)

/-- A text is read where the cell of the column is one. -/
theorem text_eq_ok_iff {result : QueryResult} {row : Row} {column s : String} :
    result.text row column = .ok s ↔ result.cell? row column = some (.text s) := by
  unfold text columnIndex cell?
  cases result.columns.findIdx? (· == column) with
  | none => simp [bind, Except.bind]
  | some i =>
    simp only [bind, Except.bind, Option.bind_some]
    split
    · rename_i t h
      simp [h, pure, Except.pure]
    · rename_i h
      constructor
      · intro hthrow
        cases hthrow
      · intro hs
        exact absurd hs (h s)

/-- An integer is read where the cell of the column is one. -/
theorem int_eq_ok_iff {result : QueryResult} {row : Row} {column : String} {n : Int64} :
    result.int row column = .ok n ↔ result.cell? row column = some (.int n) := by
  unfold int columnIndex cell?
  cases result.columns.findIdx? (· == column) with
  | none => simp [bind, Except.bind]
  | some i =>
    simp only [bind, Except.bind, Option.bind_some]
    split
    · rename_i m h
      simp [h, pure, Except.pure]
    · rename_i h
      constructor
      · intro hthrow
        cases hthrow
      · intro hn
        exact absurd hn (h n)

/-- The cell of a row in a column has a type. -/
def Holds (result : QueryResult) (row : Row) (column : String) (type : CellType) : Prop :=
  ∃ cell, result.cell? row column = some cell ∧ cell.type? = some type

/-- Some text is read where the column holds one. -/
theorem exists_text_eq_ok_iff {result : QueryResult} {row : Row} {column : String} :
    (∃ s, result.text row column = .ok s) ↔ result.Holds row column .text := by
  simp only [text_eq_ok_iff]
  constructor
  · rintro ⟨s, hs⟩
    exact ⟨.text s, hs, rfl⟩
  · rintro ⟨cell, hcell, htype⟩
    cases cell with
    | text s => exact ⟨s, hcell⟩
    | _ => cases htype

/-! ## 2. Cells that cannot be read -/

/-- Why a value of a type is not read from a column of a row: there is no such column, or what
stands there is not of the type. -/
inductive Unreadable (result : QueryResult) (row : Row) (column : String) (type : CellType) :
    QueryFault → Prop
  | noColumn (absent : column ∉ result.columns) :
    Unreadable result row column type (.noColumn column)
  | wrongCell (present : column ∈ result.columns) (other : ¬ result.Holds row column type) :
    Unreadable result row column type
      (.cellType column type (((result.cell? row column).map Cell.display).getD "nothing"))

/-- The position of a column decides which fault it is. -/
theorem unreadable_iff {result : QueryResult} {row : Row} {column : String} {type : CellType}
    {fault : QueryFault} :
    result.Unreadable row column type fault ↔
      match result.columns.findIdx? (· == column) with
      | none => fault = .noColumn column
      | some i => (∀ cell, row[i]? = some cell → cell.type? ≠ some type) ∧
          fault = unexpected column type row[i]? := by
  have hmem : column ∈ result.columns ↔ result.columns.findIdx? (· == column) ≠ none := by
    simp [List.findIdx?_eq_none_iff]
  cases hposition : result.columns.findIdx? (· == column) with
  | none =>
    rw [hposition] at hmem
    constructor
    · rintro (_ | ⟨hpresent, -⟩)
      · rfl
      · exact absurd rfl (hmem.mp hpresent)
    · rintro rfl
      exact .noColumn fun hpresent => hmem.mp hpresent rfl
  | some i =>
    have hcell : result.cell? row column = row[i]? := by
      rw [cell?, hposition, Option.bind_some]
    have hholds : ¬ result.Holds row column type ↔
        ∀ cell, row[i]? = some cell → cell.type? ≠ some type := by
      simp only [Holds, hcell, not_exists, not_and, ne_eq]
    have hpresent : column ∈ result.columns := hmem.mpr (by simp [hposition])
    constructor
    · rintro (habsent | ⟨-, hother⟩)
      · exact absurd hpresent habsent
      · exact ⟨hholds.mp hother, by rw [hcell, unexpected]⟩
    · rintro ⟨hother, rfl⟩
      rw [← hcell, unexpected]
      exact .wrongCell hpresent (hholds.mpr hother)

/-- Why no text is read. -/
theorem text_eq_error_iff {result : QueryResult} {row : Row} {column : String}
    {fault : QueryFault} :
    result.text row column = .error fault ↔ result.Unreadable row column .text fault := by
  rw [unreadable_iff]
  unfold text columnIndex
  cases result.columns.findIdx? (· == column) with
  | none => simp [bind, Except.bind, eq_comm]
  | some i =>
    simp only [bind, Except.bind]
    rcases row[i]? with _ | (_ | n | s) <;> simp [Cell.type?, pure, Except.pure, throw,
      throwThe, MonadExceptOf.throw, eq_comm]

/-- Why no integer is read. -/
theorem int_eq_error_iff {result : QueryResult} {row : Row} {column : String}
    {fault : QueryFault} :
    result.int row column = .error fault ↔ result.Unreadable row column .integer fault := by
  rw [unreadable_iff]
  unfold int columnIndex
  cases result.columns.findIdx? (· == column) with
  | none => simp [bind, Except.bind, eq_comm]
  | some i =>
    simp only [bind, Except.bind]
    rcases row[i]? with _ | (_ | n | s) <;> simp [Cell.type?, pure, Except.pure, throw,
      throwThe, MonadExceptOf.throw, eq_comm]

/-- The fault of the first of some columns that cannot be read. -/
def FirstUnreadable (result : QueryResult) (row : Row) :
    List (String × CellType) → QueryFault → Prop
  | [], _ => False
  | (column, type) :: rest, fault =>
    result.Unreadable row column type fault ∨
      result.Holds row column type ∧ result.FirstUnreadable row rest fault

/-- A column can be read or has a fault. -/
theorem exists_unreadable_iff {result : QueryResult} {row : Row} {column : String}
    {type : CellType} :
    (∃ fault, result.Unreadable row column type fault) ↔ ¬ result.Holds row column type := by
  constructor
  · rintro ⟨_, hfault⟩
    cases hfault with
    | noColumn habsent =>
      rintro ⟨cell, hcell, -⟩
      obtain ⟨i, hname, -, -⟩ := cell?_eq_some_iff.mp hcell
      exact habsent (List.mem_of_getElem? hname)
    | wrongCell _ hother => exact hother
  · intro hother
    by_cases hpresent : column ∈ result.columns
    · exact ⟨_, .wrongCell hpresent hother⟩
    · exact ⟨_, .noColumn hpresent⟩

/-- **All columns can be read, or there is a first that cannot.** -/
theorem exists_firstUnreadable_iff {result : QueryResult} {row : Row}
    {columns : List (String × CellType)} :
    (∃ fault, result.FirstUnreadable row columns fault) ↔
      ¬ ∀ column ∈ columns, result.Holds row column.1 column.2 := by
  induction columns with
  | nil => simp [FirstUnreadable]
  | cons column rest ih =>
    obtain ⟨name, type⟩ := column
    simp only [FirstUnreadable, exists_or, exists_and_left, exists_unreadable_iff, ih,
      List.forall_mem_cons]
    by_cases hholds : result.Holds row name type <;> simp [hholds]

end QueryResult

end ShopQuery
