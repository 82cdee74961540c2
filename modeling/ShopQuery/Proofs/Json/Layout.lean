import Mathlib.Data.List.DropRight
import Mathlib.Data.List.TakeWhile
import ShopQuery.Json.Reader
import ShopQuery.Proofs.FirstFailure
import ShopQuery.Proofs.Json.Literal

/-!
# Values as they are written

A `Layout` is a JSON value as a text has it, with its white space, its numbers and the spelling of
its strings. `eval` says what it stands for, if its numbers are in range and no more arrays and
objects are open at a time than a reader allows. The text of a layout is read as what the layout
stands for, or refused where it stands for nothing (`toOption_read`).

## How the proof goes

The reader is five functions that call each other. What is proved of a value is `Reads`, by
induction on its layout (`reads`); lists of items and of members are read by induction on the list,
from what holds of each (`readMoreItems_layouts`, `readMoreMembers_layouts`). Before that, one step
of each function is written out for the character that it finds (section 3). These are the only
places where the reader is unfolded.

White space is handled once. The reader drops it in front of a value and in front of each sign, but
not behind a value, so the statements are about what is left after it has been dropped:
`skipSpace left = skipSpace rest`. A layout with white space around it then reads as the one inside.

Success and failure are one statement (`Answers`). Where a part of an array stands for nothing,
reading it stops, and so does reading the array; which error that is plays no part here.

## The side conditions

* `EndsNumber rest`: what follows a number must not carry it on. Behind an item or a member there is
  a comma, a bracket or white space, so the condition is met inside of arrays and objects, and at
  the end of a text.
* `starts`: the text of a value does not begin with a closing bracket, because the reader looks for
  that before it reads an item.

## Termination

The reader counts down, and twice the length of what it reads is enough: a value takes one step and
at least one character, an item and the comma before it two steps and two characters, and a member
three steps and at least five characters (`Reads`).
-/

namespace ShopQuery.Json

/-! ## 1. Layouts -/

structure Blank where
  chars : List Char
  blank : ∀ c ∈ chars, isSpace c = true

def Blank.none : Blank := ⟨[], fun _ h => nomatch h⟩

/-- The characters of a string between its quotes, and the text that they are read as. -/
structure Quoted where
  chars : List Char
  value : String
  reads : ∀ rest, readString (chars ++ '"' :: rest) = .ok (value, rest)

/-- A key with the white space around it. -/
structure Key where
  before : Blank
  quoted : Quoted
  after : Blank

/-- A value as it is written. -/
inductive Layout where
  | null
  | bool (value : Bool)
  | number (literal : Literal)
  | string (quoted : Quoted)
  | array (inside : Blank) (items : List Layout)
  | object (inside : Blank) (members : List (Key × Layout))
  | spaced (before : Blank) (value : Layout) (after : Blank)

def Quoted.text (q : Quoted) : List Char := '"' :: (q.chars ++ ['"'])

/-- A key in its quotes, and the colon behind it. -/
def Key.text (key : Key) : List Char :=
  key.before.chars ++ (key.quoted.text ++ (key.after.chars ++ [':']))

/-- A key has its quotes and its colon at least. -/
theorem Key.length_text_pos (key : Key) : 2 < key.text.length := by
  simp only [Key.text, Quoted.text, List.length_append, List.length_cons]
  omega

namespace Layout

mutual

def text : Layout → List Char
  | .null => ['n', 'u', 'l', 'l']
  | .bool true => ['t', 'r', 'u', 'e']
  | .bool false => ['f', 'a', 'l', 's', 'e']
  | .number literal => literal.text
  | .string quoted => quoted.text
  | .array inside items => '[' :: (inside.chars ++ (textOfItems items ++ [']']))
  | .object inside members => '\x7b' :: (inside.chars ++ (textOfMembers members ++ ['\x7d']))
  | .spaced before value after => before.chars ++ (text value ++ after.chars)

/-- Items with commas between them. -/
def textOfItems : List Layout → List Char
  | [] => []
  | item :: rest => text item ++ textOfMoreItems rest

def textOfMoreItems : List Layout → List Char
  | [] => []
  | item :: rest => ',' :: (text item ++ textOfMoreItems rest)

/-- Members with commas between them. -/
def textOfMembers : List (Key × Layout) → List Char
  | [] => []
  | (key, value) :: rest => key.text ++ (text value ++ textOfMoreMembers rest)

def textOfMoreMembers : List (Key × Layout) → List Char
  | [] => []
  | (key, value) :: rest => ',' :: (key.text ++ (text value ++ textOfMoreMembers rest))

end

mutual

/-- The value of a layout in which `depth` arrays and objects may be open at a time. -/
def eval : (depth : Nat) → Layout → Option Json
  | _, .null => some .null
  | _, .bool value => some (.bool value)
  | _, .number literal => literal.number?.map .number
  | _, .string quoted => some (.string quoted.value)
  | 0, .array _ _ => none
  | depth + 1, .array _ items => (evalItems depth items).map .array
  | 0, .object _ _ => none
  | depth + 1, .object _ members => (evalMembers depth members).map .object
  | depth, .spaced _ value _ => eval depth value

def evalItems (depth : Nat) : List Layout → Option (List Json)
  | [] => some []
  | item :: rest =>
    (eval depth item).bind fun value => (evalItems depth rest).map fun values => value :: values

/-- The keys of members with their values. -/
def evalMembers (depth : Nat) : List (Key × Layout) → Option (List (String × Json))
  | [] => some []
  | (key, value) :: rest =>
    (eval depth value).bind fun v =>
      (evalMembers depth rest).map fun members => (key.quoted.value, v) :: members

end

/-- Induction on layouts: an array may use what holds of its items, and an object what holds of the
values of its members. -/
@[elab_as_elim]
theorem inductionOn {P : Layout → Prop} (layout : Layout) (null : P .null)
    (bool : ∀ b, P (.bool b)) (number : ∀ literal, P (.number literal))
    (string : ∀ quoted, P (.string quoted))
    (array : ∀ inside items, (∀ item ∈ items, P item) → P (.array inside items))
    (object : ∀ inside members, (∀ member ∈ members, P member.2) → P (.object inside members))
    (spaced : ∀ before value after, P value → P (.spaced before value after)) : P layout :=
  @Layout.rec P (fun items => ∀ item ∈ items, P item)
    (fun members => ∀ member ∈ members, P member.2) (fun member => P member.2)
    null bool number string array object spaced
    (fun _ h => nomatch h) (fun _ _ hhead hrest => List.forall_mem_cons.mpr ⟨hhead, hrest⟩)
    (fun _ h => nomatch h) (fun _ _ hhead hrest => List.forall_mem_cons.mpr ⟨hhead, hrest⟩)
    (fun _ _ h => h) layout

end Layout

/-! ## 2. White space -/

/-- White space in front makes no difference. -/
theorem skipSpace_append {blank rest : List Char} (h : ∀ c ∈ blank, isSpace c = true) :
    skipSpace (blank ++ rest) = skipSpace rest := List.dropWhile_append_of_pos h

theorem skipSpace_skipSpace (cs : List Char) : skipSpace (skipSpace cs) = skipSpace cs :=
  List.dropWhile_idempotent isSpace cs

/-- Nothing is dropped in front of a character that is no white space. -/
theorem skipSpace_cons {c : Char} (h : isSpace c = false) (cs : List Char) :
    skipSpace (c :: cs) = c :: cs := List.dropWhile_cons_of_neg (by simp [h])

theorem endsNumber_cons {c : Char} (h : c.isDigit = false ∧ c ≠ '.' ∧ c ≠ 'e' ∧ c ≠ 'E')
    (rest : List Char) : EndsNumber (c :: rest) := by
  rintro d ⟨⟩
  exact h

/-- White space ends a number, or is none and leaves it to what follows. -/
theorem endsNumber_blank_append {blank rest : List Char} (h : ∀ c ∈ blank, isSpace c = true)
    (hrest : EndsNumber rest) : EndsNumber (blank ++ rest) := by
  cases blank with
  | nil => exact hrest
  | cons c blank =>
    refine endsNumber_cons ?_ _
    have hspace := h c List.mem_cons_self
    simp only [isSpace, Bool.or_eq_true, decide_eq_true_eq] at hspace
    rcases hspace with ((rfl | rfl) | rfl) | rfl <;> decide

/-! ## 3. One token -/

section Tokens

variable {fuel depth : Nat} {cs rest : List Char}

/-- The characters that a number begins with begin nothing else. -/
theorem numeral_ne {c : Char} (h : c = '-' ∨ c.isDigit = true) :
    isSpace c = false ∧ c ≠ ']' ∧ c ≠ 'n' ∧ c ≠ 't' ∧ c ≠ 'f' ∧ c ≠ '"' ∧ c ≠ '[' ∧ c ≠ '\x7b' := by
  rcases h with rfl | h
  · decide
  · have hspace : isSpace c = false := by
      cases hc : isSpace c with
      | false => rfl
      | true =>
        simp only [isSpace, Bool.or_eq_true, decide_eq_true_eq] at hc
        rcases hc with ((rfl | rfl) | rfl) | rfl <;> cases h
    refine ⟨hspace, ?_, ?_, ?_, ?_, ?_, ?_, ?_⟩ <;> (rintro rfl; cases h)

/-- A quote begins a string. -/
theorem readValue_quote (h : skipSpace cs = '"' :: rest) : readValue (fuel + 1) depth cs =
    (readString rest).map fun r => (.string r.1, r.2) := by
  rw [readValue, h]
  rfl

/-- A bracket begins an array, one level down. -/
theorem readValue_bracket (h : skipSpace cs = '[' :: rest) :
    readValue (fuel + 1) (depth + 1) cs =
      (readItems fuel depth rest).map fun r => (.array r.1, r.2) := by
  rw [readValue, h]
  rfl

/-- A brace begins an object, one level down. -/
theorem readValue_brace (h : skipSpace cs = '\x7b' :: rest) :
    readValue (fuel + 1) (depth + 1) cs =
      (readMembers fuel depth rest).map fun r => (.object r.1, r.2) := by
  rw [readValue, h]
  rfl

/-- At the greatest depth no array and no object is opened. -/
theorem readValue_limit {c : Char} (hc : c = '[' ∨ c = '\x7b') (h : skipSpace cs = c :: rest) :
    ∃ stop, readValue (fuel + 1) 0 cs = .error stop := by
  rw [readValue, h]
  rcases hc with rfl | rfl <;> exact ⟨_, rfl⟩

/-- A sign or a digit begins a number. -/
theorem readValue_numeral {c : Char} (hc : c = '-' ∨ c.isDigit = true)
    (h : skipSpace cs = c :: rest) : readValue (fuel + 1) depth cs =
      (readNumber (c :: rest)).map fun r => (.number r.1, r.2) := by
  obtain ⟨-, -, hn, ht, hf, hquote, hbracket, hbrace⟩ := numeral_ne hc
  have hnumeral : (decide (c = '-') || c.isDigit) = true := by simpa using hc
  rw [readValue, h]
  simp [*]

/-- What is no closing bracket begins the first item. -/
theorem readItems_value {c : Char} (hc : c ≠ ']') (h : skipSpace cs = c :: rest) :
    readItems (fuel + 1) depth cs =
      (readValue fuel depth (c :: rest)).bind fun item =>
        (readMoreItems fuel depth item.2).map fun r => (item.1 :: r.1, r.2) := by
  rw [readItems, h]
  simp only [List.cons.injEq, hc, false_and, imp_self, implies_true]
  cases readValue fuel depth (c :: rest) <;> rfl

/-- A comma is followed by the next item. -/
theorem readMoreItems_value {c : Char} {tail : List Char} (hc : c ≠ ']')
    (h : skipSpace cs = ',' :: tail) (htail : skipSpace tail = c :: rest) :
    readMoreItems (fuel + 1) depth cs =
      (readValue fuel depth (c :: rest)).bind fun item =>
        (readMoreItems fuel depth item.2).map fun r => (item.1 :: r.1, r.2) := by
  rw [readMoreItems, h]
  simp only [htail, List.cons.injEq, hc, false_and, imp_self, implies_true]
  cases readValue fuel depth (c :: rest) <;> rfl

theorem readMembers_quote (h : skipSpace cs = '"' :: rest) :
    readMembers (fuel + 1) depth cs = readMember fuel depth rest := by
  rw [readMembers, h]
  rfl

theorem readMoreMembers_quote {tail : List Char} (h : skipSpace cs = ',' :: tail)
    (htail : skipSpace tail = '"' :: rest) :
    readMoreMembers (fuel + 1) depth cs = readMember fuel depth rest := by
  rw [readMoreMembers, h]
  simp [htail]

/-- Behind a key comes a colon, then a value, then what follows the member. -/
theorem readMember_value {key : String} {tail : List Char} (h : readString cs = .ok (key, tail))
    (htail : skipSpace tail = ':' :: rest) :
    readMember (fuel + 1) depth cs =
      (readValue fuel depth rest).bind fun value =>
        (readMoreMembers fuel depth value.2).map fun r => ((key, value.1) :: r.1, r.2) := by
  rw [readMember, h]
  simp only [htail]
  cases readValue fuel depth rest <;> rfl

end Tokens

/-! ## 4. Items and members -/

namespace Layout

/-- The text of a layout begins as a value does, and reading it answers what the layout stands for
and what follows, up to white space. -/
structure Reads (layout : Layout) : Prop where
  starts : ∀ rest, ∃ c tail, skipSpace (layout.text ++ rest) = c :: tail ∧ c ≠ ']'
  reads : ∀ {fuel depth : Nat} {cs rest : List Char},
    skipSpace cs = skipSpace (layout.text ++ rest) → 2 * layout.text.length ≤ fuel →
    EndsNumber rest → ∃ left, skipSpace left = skipSpace rest ∧
      Answers (readValue fuel depth cs) (layout.eval depth) left

/-- No value is written as nothing. -/
theorem Reads.length_pos {layout : Layout} (h : layout.Reads) : 0 < layout.text.length := by
  obtain ⟨c, tail, hcons, -⟩ := h.starts []
  rw [List.append_nil] at hcons
  refine List.length_pos_iff.mpr fun hnil => ?_
  rw [hnil] at hcons
  cases hcons

section Sequences

variable {fuel depth : Nat} {cs rest : List Char}

/-- A number that is an item ends before what follows it. -/
theorem endsNumber_moreItems (items : List Layout) (rest : List Char) :
    EndsNumber (textOfMoreItems items ++ ']' :: rest) := by
  cases items with
  | nil => exact endsNumber_cons (by decide) _
  | cons item items =>
    rw [textOfMoreItems, List.cons_append]
    exact endsNumber_cons (by decide) _

/-- A number that is a value of a member ends before what follows it. -/
theorem endsNumber_moreMembers (members : List (Key × Layout)) (rest : List Char) :
    EndsNumber (textOfMoreMembers members ++ '\x7d' :: rest) := by
  cases members with
  | nil => exact endsNumber_cons (by decide) _
  | cons member members =>
    rw [textOfMoreMembers, List.cons_append]
    exact endsNumber_cons (by decide) _

/-- An item is read, and then those after it. -/
theorem Reads.answers_items {item : Layout} {items : List Layout} (h : item.Reads)
    (hcs : skipSpace cs = skipSpace (item.text ++ (textOfMoreItems items ++ ']' :: rest)))
    (hfuel : 2 * item.text.length ≤ fuel)
    (hmore : ∀ left, skipSpace left = skipSpace (textOfMoreItems items ++ ']' :: rest) →
      Answers (readMoreItems fuel depth left) (evalItems depth items) rest) :
    Answers ((readValue fuel depth cs).bind fun item =>
        (readMoreItems fuel depth item.2).map fun r => (item.1 :: r.1, r.2))
      (evalItems depth (item :: items)) rest := by
  obtain ⟨left, hleft, hitem⟩ := h.reads hcs hfuel (endsNumber_moreItems items rest)
  rw [evalItems]
  exact hitem.bind fun value => (hmore left hleft).map (value :: ·)

/-- Items are read up to the closing bracket, by induction on them. -/
theorem readMoreItems_layouts {items : List Layout} (h : ∀ item ∈ items, item.Reads)
    (hcs : skipSpace cs = skipSpace (textOfMoreItems items ++ ']' :: rest))
    (hfuel : 2 * (textOfMoreItems items).length + 1 ≤ fuel) :
    Answers (readMoreItems fuel depth cs) (evalItems depth items) rest := by
  induction items generalizing fuel cs with
  | nil =>
    obtain ⟨fuel, rfl⟩ := Nat.exists_eq_add_of_le' (show 1 ≤ fuel by omega)
    rw [textOfMoreItems, List.nil_append, skipSpace_cons (by decide)] at hcs
    rw [readMoreItems, hcs]
    rfl
  | cons item items ih =>
    obtain ⟨hitem, hitems⟩ := List.forall_mem_cons.mp h
    rw [textOfMoreItems, List.length_cons, List.length_append] at hfuel
    -- One round goes to the comma; the fuel that is left covers the rest of the text.
    obtain ⟨fuel, rfl⟩ := Nat.exists_eq_add_of_le' (show 1 ≤ fuel by omega)
    rw [textOfMoreItems, List.cons_append, List.append_assoc, skipSpace_cons (by decide)] at hcs
    obtain ⟨c, tail, hstart, hc⟩ := hitem.starts (textOfMoreItems items ++ ']' :: rest)
    have hpos := hitem.length_pos
    -- An item begins with no closing bracket, so what follows the comma is read as a value.
    rw [readMoreItems_value hc hcs hstart]
    refine hitem.answers_items ?_ (by omega) fun left hleft => ih hitems hleft (by omega)
    rw [← hstart, skipSpace_skipSpace]

theorem readItems_layouts {items : List Layout} (h : ∀ item ∈ items, item.Reads)
    (hcs : skipSpace cs = skipSpace (textOfItems items ++ ']' :: rest))
    (hfuel : 2 * (textOfItems items).length + 1 ≤ fuel) :
    Answers (readItems fuel depth cs) (evalItems depth items) rest := by
  obtain ⟨fuel, rfl⟩ := Nat.exists_eq_add_of_le' (show 1 ≤ fuel by omega)
  cases items with
  | nil =>
    rw [textOfItems, List.nil_append, skipSpace_cons (by decide)] at hcs
    rw [readItems, hcs]
    rfl
  | cons item items =>
    obtain ⟨hitem, hitems⟩ := List.forall_mem_cons.mp h
    rw [textOfItems, List.length_append] at hfuel
    rw [textOfItems, List.append_assoc] at hcs
    obtain ⟨c, tail, hstart, hc⟩ := hitem.starts (textOfMoreItems items ++ ']' :: rest)
    have hpos := hitem.length_pos
    rw [readItems_value hc (hcs.trans hstart)]
    refine hitem.answers_items ?_ (by omega) fun left hleft =>
      readMoreItems_layouts hitems hleft (by omega)
    rw [← hstart, skipSpace_skipSpace]

/-- The key of a member is read behind its opening quote, then its value, and then the members after
it. -/
theorem Reads.answers_members {value : Layout} (h : value.Reads) (key : Key)
    {members : List (Key × Layout)} (hfuel : 2 * value.text.length ≤ fuel)
    (hmore : ∀ left, skipSpace left = skipSpace (textOfMoreMembers members ++ '\x7d' :: rest) →
      Answers (readMoreMembers fuel depth left) (evalMembers depth members) rest) :
    Answers (readMember (fuel + 1) depth (key.quoted.chars ++ '"' :: (key.after.chars ++ ':' ::
        (value.text ++ (textOfMoreMembers members ++ '\x7d' :: rest)))))
      (evalMembers depth ((key, value) :: members)) rest := by
  obtain ⟨left, hleft, hvalue⟩ := h.reads rfl hfuel (endsNumber_moreMembers members rest)
  have hcolon : ∀ tail, skipSpace (key.after.chars ++ ':' :: tail) = ':' :: tail := fun tail => by
    rw [skipSpace_append key.after.blank, skipSpace_cons (by decide)]
  rw [readMember_value (key.quoted.reads _) (hcolon _), evalMembers]
  exact hvalue.bind fun v => (hmore left hleft).map ((key.quoted.value, v) :: ·)

/-- The text of a member from its opening quote on. -/
theorem skipSpace_key (key : Key) (tail : List Char) :
    skipSpace (key.text ++ tail) =
      '"' :: (key.quoted.chars ++ '"' :: (key.after.chars ++ ':' :: tail)) := by
  simp only [Key.text, Quoted.text, List.append_assoc, List.cons_append, List.nil_append]
  rw [skipSpace_append key.before.blank, skipSpace_cons (by decide)]

/-- Members are read up to the closing brace, by induction on them. -/
theorem readMoreMembers_layouts {members : List (Key × Layout)}
    (h : ∀ member ∈ members, Reads member.2)
    (hcs : skipSpace cs = skipSpace (textOfMoreMembers members ++ '\x7d' :: rest))
    (hfuel : 2 * (textOfMoreMembers members).length + 1 ≤ fuel) :
    Answers (readMoreMembers fuel depth cs) (evalMembers depth members) rest := by
  induction members generalizing fuel cs with
  | nil =>
    obtain ⟨fuel, rfl⟩ := Nat.exists_eq_add_of_le' (show 1 ≤ fuel by omega)
    rw [textOfMoreMembers, List.nil_append, skipSpace_cons (by decide)] at hcs
    rw [readMoreMembers, hcs]
    rfl
  | cons head members ih =>
    obtain ⟨key, value⟩ := head
    obtain ⟨(hvalue : Reads value), hmembers⟩ := List.forall_mem_cons.mp h
    rw [textOfMoreMembers, List.length_cons, List.length_append, List.length_append] at hfuel
    have hpos := key.length_text_pos
    obtain ⟨fuel, rfl⟩ := Nat.exists_eq_add_of_le' (show 2 ≤ fuel by omega)
    rw [textOfMoreMembers, List.cons_append, List.append_assoc, List.append_assoc,
      skipSpace_cons (by decide)] at hcs
    rw [readMoreMembers_quote hcs (skipSpace_key key _)]
    exact hvalue.answers_members key (by omega) fun left hleft => ih hmembers hleft (by omega)

theorem readMembers_layouts {members : List (Key × Layout)}
    (h : ∀ member ∈ members, Reads member.2)
    (hcs : skipSpace cs = skipSpace (textOfMembers members ++ '\x7d' :: rest))
    (hfuel : 2 * (textOfMembers members).length + 1 ≤ fuel) :
    Answers (readMembers fuel depth cs) (evalMembers depth members) rest := by
  cases members with
  | nil =>
    obtain ⟨fuel, rfl⟩ := Nat.exists_eq_add_of_le' (show 1 ≤ fuel by omega)
    rw [textOfMembers, List.nil_append, skipSpace_cons (by decide)] at hcs
    rw [readMembers, hcs]
    rfl
  | cons head members =>
    obtain ⟨key, value⟩ := head
    obtain ⟨(hvalue : Reads value), hmembers⟩ := List.forall_mem_cons.mp h
    rw [textOfMembers, List.length_append, List.length_append] at hfuel
    have hpos := key.length_text_pos
    obtain ⟨fuel, rfl⟩ := Nat.exists_eq_add_of_le' (show 2 ≤ fuel by omega)
    rw [textOfMembers, List.append_assoc, List.append_assoc] at hcs
    rw [readMembers_quote (hcs.trans (skipSpace_key key _))]
    exact hvalue.answers_members key (by omega) fun left hleft =>
      readMoreMembers_layouts hmembers hleft (by omega)

end Sequences

/-! ## 5. Values -/

/-- A layout that begins with a character of its own. -/
theorem reads_of_cons {layout : Layout} {c : Char} {tail : List Char}
    (htext : layout.text = c :: tail) (hspace : isSpace c = false) (hc : c ≠ ']')
    (h : ∀ {fuel depth : Nat} {cs rest : List Char}, skipSpace cs = c :: (tail ++ rest) →
      2 * tail.length + 1 ≤ fuel → EndsNumber rest →
      Answers (readValue (fuel + 1) depth cs) (layout.eval depth) rest) : layout.Reads where
  starts rest := ⟨c, tail ++ rest, by rw [htext, List.cons_append, skipSpace_cons hspace], hc⟩
  reads {fuel depth cs rest} hcs hfuel hrest := by
    rw [htext, List.length_cons] at hfuel
    rw [htext, List.cons_append, skipSpace_cons hspace] at hcs
    obtain ⟨fuel, rfl⟩ := Nat.exists_eq_add_of_le' (show 1 ≤ fuel by omega)
    exact ⟨rest, rfl, h hcs (by omega) hrest⟩

/-- A number begins with a sign or a digit. -/
theorem exists_literal_text (literal : Literal) :
    ∃ c tail, literal.text = c :: tail ∧ (c = '-' ∨ c.isDigit = true) := by
  unfold Literal.text
  cases literal.negative with
  | true => exact ⟨_, _, rfl, Or.inl rfl⟩
  | false =>
    obtain ⟨c, ds, hcons, hc⟩ := literal.whole_isDigits.exists_cons
    exact ⟨c, _, by rw [hcons]; rfl, Or.inr hc⟩

/-- **Every layout is read.** The induction is on the layout: its parts are read before its closing
bracket is. -/
theorem reads (layout : Layout) : layout.Reads := by
  induction layout using inductionOn with
  | null =>
    refine reads_of_cons rfl (by decide) (by decide) fun hcs _ _ => ?_
    rw [readValue, hcs]
    simp [readWord, eval, Answers]
  | bool b =>
    cases b <;>
    · refine reads_of_cons rfl (by decide) (by decide) fun hcs _ _ => ?_
      rw [readValue, hcs]
      simp [readWord, eval, Answers]
  | number literal =>
    obtain ⟨c, tail, hcons, hc⟩ := exists_literal_text literal
    refine reads_of_cons hcons (numeral_ne hc).1 (numeral_ne hc).2.1 fun hcs _ hrest => ?_
    rw [readValue_numeral hc hcs, ← List.cons_append, ← hcons]
    exact (readNumber_literal literal hrest).map Json.number
  | string quoted =>
    refine reads_of_cons rfl (by decide) (by decide) fun hcs _ _ => ?_
    rw [List.append_assoc] at hcs
    rw [readValue_quote hcs, List.singleton_append, quoted.reads]
    rfl
  | array inside items ih =>
    refine reads_of_cons rfl (by decide) (by decide) fun {fuel depth cs rest} hcs hfuel _ => ?_
    -- What lies too deep is refused whatever is in it, and its layout stands for nothing.
    cases depth with
    | zero => exact readValue_limit (Or.inl rfl) hcs
    | succ depth =>
      rw [readValue_bracket hcs, eval]
      refine (readItems_layouts ih ?_ ?_).map Json.array
      · rw [List.append_assoc, skipSpace_append inside.blank, List.append_assoc]
        rfl
      · simp only [List.length_append] at hfuel
        omega
  | object inside members ih =>
    refine reads_of_cons rfl (by decide) (by decide) fun {fuel depth cs rest} hcs hfuel _ => ?_
    cases depth with
    | zero => exact readValue_limit (Or.inr rfl) hcs
    | succ depth =>
      rw [readValue_brace hcs, eval]
      refine (readMembers_layouts ih ?_ ?_).map Json.object
      · rw [List.append_assoc, skipSpace_append inside.blank, List.append_assoc]
        rfl
      · simp only [List.length_append] at hfuel
        omega
  | spaced before value after ih =>
    have hskip : ∀ rest, skipSpace ((Layout.spaced before value after).text ++ rest) =
        skipSpace (value.text ++ (after.chars ++ rest)) := fun rest => by
      rw [text, List.append_assoc, List.append_assoc, skipSpace_append before.blank]
    -- ?_, fun {fuel depth cs rest} hcs hfuel hrest => ?_⟩ => White space in front is skipped first;
    -- that behind the value is left to what comes after it.
    refine ⟨fun rest => ?_, fun {fuel depth cs rest} hcs hfuel hrest => ?_⟩
    · obtain ⟨c, tail, hstart, hc⟩ := ih.starts (after.chars ++ rest)
      exact ⟨c, tail, (hskip rest).trans hstart, hc⟩
    · rw [text, List.length_append, List.length_append] at hfuel
      have hvalue : 2 * value.text.length ≤ fuel := by omega
      obtain ⟨left, hleft, hread⟩ := ih.reads (hcs.trans (hskip _)) hvalue
        (endsNumber_blank_append after.blank hrest)
      rw [skipSpace_append after.blank] at hleft
      exact ⟨left, hleft, hread⟩

end Layout

/-! ## 6. Texts -/

/-- A text is read as a whole: nothing but white space is left behind its value. -/
theorem toOption_readAll (layout : Layout) :
    (readAll layout.text).toOption = layout.eval maxDepth := by
  have hends : EndsNumber [] := fun _ h => nomatch h
  have hcs : skipSpace layout.text = skipSpace (layout.text ++ []) := by rw [List.append_nil]
  obtain ⟨left, hleft, hread⟩ : ∃ left, skipSpace left = skipSpace [] ∧
      Answers (readValue (2 * layout.text.length + 3) maxDepth layout.text)
        (layout.eval maxDepth) left := layout.reads.reads hcs (by omega) hends
  unfold readAll
  -- The reader starts with more fuel than twice the length of the text, so it never stops for want
  -- of it.
  cases heval : layout.eval maxDepth with
  | some value =>
    rw [heval] at hread
    obtain hread : readValue _ _ _ = _ := hread
    rw [hread]
    simp only [hleft]
    rfl
  | none =>
    rw [heval] at hread
    obtain ⟨stop, hread⟩ := hread
    rw [hread]
    rfl

/-- What a layout stands for, with its repeated keys, is what its text spells. -/
theorem toOption_readTree {layout : Layout} {text : String} (h : text.toList = layout.text) :
    (readTree text).toOption = layout.eval maxDepth := by
  rw [readTree, toOption_mapError, h, toOption_readAll]

/-- **The text of a layout is read as what the layout stands for, or refused.** -/
theorem toOption_read {layout : Layout} {text : String} (h : text.toList = layout.text) :
    (read text).toOption = (layout.eval maxDepth).map collapse := by
  rw [read, toOption_map, toOption_readTree h]

end ShopQuery.Json
