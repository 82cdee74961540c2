import Mathlib.Data.List.TakeDrop
import ShopQuery.Proofs.Settings.Passwords

/-!
# Command lines that differ in the password

The url option is the one place on a command line where a password stands. Command lines that
differ in it alone ask for runs that differ in it alone, or are refused with the same fault
(`Invocation.ofArguments_twin`).

## How the proof goes

Two command lines are read side by side. The relation that is kept between the two readers is
`Level.Twin`: they have the same values but for the url, the same files to come, and the same slot
named last. Every operation of a level keeps it or fails on both sides with the same fault; this is
one lemma for each operation, from `settle` to `long`, and they compose by `SameOutcome.bind`.

The induction is on how the command lines are paired (`ArgumentsTwin`), once for the level after the
command (`readInner_twin`) and once for the level before it (`readOuter_twin`). An argument that
both share takes one step of the reader; a url that follows its option takes two, and between them
the level waits for the url (`Level.Twin.long_waiting`).

## Why the pairs are as they are

* A url that follows its option must not look like an option itself (`IsWord`): otherwise it is read
  as one, and with one password it might be and with another not. Joined to the option it may be
  anything.
* After two dashes alone every argument is a file. A url behind them would be a path, and a path is
  reported. So no pair reaches beyond them (`same` asks for `arg ≠ "--"`), and what is left there is
  the same in both (`rest`).
* A url option can stand where a command is looked for, or a topic of help. Neither is found there,
  whatever the url is (`ofName?_joined`, `helpAbout_twin`).
-/

namespace ShopQuery.CommandLine

variable {p q : String}

/-! ## 1. Command lines -/

/-- A text that does not look like an option. -/
def IsWord (text : String) : Prop := text.toList.head? ≠ some '-'

/-- Arguments of two runs that differ in the password of urls that follow the url option, or are
joined to it. After two dashes alone there are no options. -/
inductive ArgumentsTwin (p q : String) : List String → List String → Prop where
  | rest (args : List String) : ArgumentsTwin p q args args
  | same {arg : String} {args args' : List String} (option : arg ≠ "--")
    (rest : ArgumentsTwin p q args args') : ArgumentsTwin p q (arg :: args) (arg :: args')
  | following {text other : String} {args args' : List String} (urls : UrlTwin p q text other)
    (word : IsWord text) (word' : IsWord other) (rest : ArgumentsTwin p q args args') :
    ArgumentsTwin p q ("--database-url" :: text :: args) ("--database-url" :: other :: args')
  | joined {text other : String} {args args' : List String} (urls : UrlTwin p q text other)
    (rest : ArgumentsTwin p q args args') :
    ArgumentsTwin p q (("--database-url=" ++ text) :: args) (("--database-url=" ++ other) :: args')

/-- What does not begin with a dash is a word. -/
theorem ofText_word {text : String} (h : IsWord text) : Token.ofText text = .word text := by
  unfold Token.ofText
  split
  · rename_i htext
    exact absurd (congrArg List.head? htext) h
  · rename_i htext
    exact absurd (congrArg List.head? htext) h
  · rename_i htext
    exact absurd (congrArg List.head? htext) h
  · rfl

theorem ofText_option : Token.ofText "--database-url" = .long "database-url" none := rfl

/-- An option with a value joined to it, whatever the value. -/
theorem ofText_joined (text : String) :
    Token.ofText ("--database-url=" ++ text) = .long "database-url" (some text) := by
  have hname : ∀ c ∈ "database-url".toList, (c != '=') = true :=
    List.all_eq_true.mp (by decide)
  have htext : ("--database-url=" ++ text).toList =
      '-' :: '-' :: ("database-url".toList ++ '=' :: text.toList) := by
    rw [String.toList_append]
    rfl
  have hspan : ("database-url".toList ++ '=' :: text.toList).span (· != '=') =
      ("database-url".toList, '=' :: text.toList) := by
    rw [List.span_eq_takeWhile_dropWhile, List.takeWhile_append_of_pos hname,
      List.dropWhile_append_of_pos hname]
    rfl
  have hlong : longToken ("database-url".toList ++ '=' :: text.toList) =
      .long (String.ofList "database-url".toList) (some (String.ofList text.toList)) := by
    unfold longToken
    rw [hspan]
    rfl
  unfold Token.ofText
  rw [htext]
  refine Eq.trans ?_ (hlong.trans ?_)
  · rfl
  · rw [String.ofList_toList, String.ofList_toList]

/-- Two dashes alone are the one escape. -/
theorem ofText_ne_escape {arg : String} (h : arg ≠ "--") : Token.ofText arg ≠ .escape := by
  unfold Token.ofText
  split
  · rename_i htext
    exact absurd (String.toList_inj.mp htext) h
  · unfold longToken
    split <;> exact Token.noConfusion
  · exact Token.noConfusion
  · exact Token.noConfusion

/-! ## 2. Levels -/

/-- The value of a slot in two runs: the same in both, or the url of each. -/
inductive ValueTwin (p q : String) : Slot → String → String → Prop where
  | same (slot : Slot) (value : String) : ValueTwin p q slot value value
  | url {text other : String} (urls : UrlTwin p q text other) :
    ValueTwin p q .databaseUrl text other

/-- Only the url differs. -/
theorem ValueTwin.eq {slot : Slot} {value other : String} (h : ValueTwin p q slot value other)
    (hslot : slot ≠ .databaseUrl) : value = other := by
  cases h with
  | same => rfl
  | url => exact absurd rfl hslot

/-- Values of two runs that differ in the password of the url at most. -/
def Values.Twin (p q : String) (a b : Values) : Prop :=
  ∀ slot, Option.Rel (ValueTwin p q slot) (a.get? slot) (b.get? slot)

/-- A slot that was named last, with its value if that has been read, in two runs. -/
inductive PendingTwin (p q : String) : Option (Slot × Option String) →
    Option (Slot × Option String) → Prop where
  | none : PendingTwin p q none none
  | waiting (slot : Slot) : PendingTwin p q (some (slot, .none)) (some (slot, .none))
  | read {slot : Slot} {value other : String} (h : ValueTwin p q slot value other) :
    PendingTwin p q (some (slot, some value)) (some (slot, some other))

/-- Levels of two runs that differ in the password at most. -/
structure Level.Twin (p q : String) (a b : Level) : Prop where
  values : a.values.Twin p q b.values
  pending : PendingTwin p q a.pending b.pending
  files : a.files = b.files

namespace Values

/-- A slot that was set has its value; the others have what they had. -/
theorem get?_set (values : Values) (slot key : Slot) (value : String) :
    (values.set slot value).get? key = if key = slot then some value else values.get? key := by
  cases slot <;> cases key <;> rfl

theorem eq_empty_iff (values : Values) : values = .empty ↔ ∀ slot, values.get? slot = none := by
  constructor
  · rintro rfl slot
    cases slot <;> rfl
  · intro h
    obtain ⟨config, databaseUrl, input, output⟩ := values
    cases h .config
    cases h .databaseUrl
    cases h .input
    cases h .output
    rfl

namespace Twin

variable {a b : Values} (h : a.Twin p q b)
include h

theorem eq_empty_iff : a = .empty ↔ b = .empty := by
  simp only [Values.eq_empty_iff, ← Option.not_isSome_iff_eq_none, isSome_eq_of_rel (h _)]

theorem fill {slot : Slot} {value other : String} (hvalue : ValueTwin p q slot value other) :
    SameOutcome (Values.Twin p q) (a.fill slot value) (b.fill slot other) := by
  have hset : (a.set slot value).Twin p q (b.set slot other) := by
    intro key
    rw [get?_set, get?_set]
    split
    · rename_i hkey
      exact .some (hkey ▸ hvalue)
    · exact h key
  have hempty : (slot != .databaseUrl && value.isEmpty) =
      (slot != .databaseUrl && other.isEmpty) := by
    cases hvalue <;> rfl
  unfold Values.fill
  rw [isSome_eq_of_rel (h slot), hempty]
  exact .guard _ (.guard _ (.ok hset))

end Twin

end Values

namespace Level.Twin

variable {a b : Level} (h : a.Twin p q b)
include h

theorem isWaiting : a.isWaiting = b.isWaiting := by
  obtain ⟨values, pending, files⟩ := a
  obtain ⟨values', pending', files'⟩ := b
  cases h.pending <;> rfl

theorem settle : SameOutcome (Level.Twin p q) a.settle b.settle := by
  obtain ⟨values, pending, files⟩ := a
  obtain ⟨values', pending', files'⟩ := b
  obtain ⟨hvalues, hpending, rfl⟩ := h
  cases hpending with
  | none => exact .ok ⟨hvalues, .none, rfl⟩
  | waiting => exact .error _
  | read hvalue =>
    refine (hvalues.fill hvalue).bind ?_
    intro filled filled' hfilled
    exact .ok ⟨hfilled, .none, rfl⟩

theorem name {slot : Slot} {value other : Option String}
    (hvalue : Option.Rel (ValueTwin p q slot) value other) :
    SameOutcome (Level.Twin p q) (a.name slot value) (b.name slot other) := by
  refine h.settle.bind ?_
  intro settled settled' hsettled
  refine .ok ⟨hsettled.values, ?_, hsettled.files⟩
  cases hvalue with
  | none => exact .waiting slot
  | some hvalue => exact .read hvalue

theorem option {slot : Slot} {value other : Option String}
    (hvalue : Option.Rel (ValueTwin p q slot) value other) :
    SameOutcome (Level.Twin p q) (a.option slot value) (b.option slot other) := by
  refine (h.name hvalue).bind ?_
  intro named named' hnamed
  cases hvalue with
  | none => exact .ok hnamed
  | some => exact hnamed.settle

theorem stop (fault : Fault) : SameOutcome (Level.Twin p q) (a.stop fault) (b.stop fault) := by
  refine h.settle.bind ?_
  intro _ _ _
  exact .error fault

theorem giveValue {value other : String}
    (hvalue : ∀ slot, a.pending = some (slot, none) → ValueTwin p q slot value other) :
    (a.giveValue value).Twin p q (b.giveValue other) := by
  obtain ⟨values, pending, files⟩ := a
  obtain ⟨values', pending', files'⟩ := b
  obtain ⟨hvalues, hpending, rfl⟩ := h
  cases hpending with
  | none => exact ⟨hvalues, .none, rfl⟩
  | waiting slot => exact ⟨hvalues, .read (hvalue slot rfl), rfl⟩
  | read hread => exact ⟨hvalues, .read hread, rfl⟩

theorem file (path : String) : SameOutcome (Level.Twin p q) (a.file path) (b.file path) := by
  unfold Level.file
  rw [← h.files]
  split
  · exact .error _
  · refine (h.name (.some (.same _ path))).bind ?_
    intro named named' hnamed
    exact .ok ⟨hnamed.values, hnamed.pending, rfl⟩

theorem long (hasVersion : Bool) (name : String) (value : Option String) :
    SameOutcome (Level.Twin p q) (a.long hasVersion name value) (b.long hasVersion name value) := by
  have hvalue : ∀ slot, Option.Rel (ValueTwin p q slot) value value := by
    intro slot
    cases value with
    | none => exact .none
    | some value => exact .some (.same slot value)
  unfold Level.long
  split
  · exact h.option (hvalue _)
  · exact h.option (hvalue _)
  · exact .guard _ (h.stop _)
  · exact .guard _ (.guard _ (h.stop _))
  · exact .error _

theorem short (hasVersion : Bool) (letter : Char) :
    SameOutcome (Level.Twin p q) (a.short hasVersion letter) (b.short hasVersion letter) := by
  unfold Level.short
  split
  · exact h.stop _
  · split
    · exact h.stop _
    · exact .error _
  · exact .error _

end Level.Twin

namespace Level

theorem long_databaseUrl (level : Level) (hasVersion : Bool) (value : Option String) :
    level.long hasVersion "database-url" value = level.option .databaseUrl value := rfl

variable {a b : Level} (h : a.Twin p q b) (hasVersion : Bool)
include h

/-- The url option without its url waits for it. -/
theorem Twin.long_waiting :
    SameOutcome (fun a b => a.Twin p q b ∧ a.pending = some (.databaseUrl, none))
      (a.long hasVersion "database-url" none) (b.long hasVersion "database-url" none) := by
  rw [long_databaseUrl, long_databaseUrl]
  refine SameOutcome.bind (h.settle.bind ?_) fun named named' hnamed => .ok hnamed
  intro settled settled' hsettled
  exact .ok ⟨⟨hsettled.values, .waiting _, hsettled.files⟩, rfl⟩

/-- The url option, with its url joined to it. -/
theorem Twin.long_url {text other : String} (urls : UrlTwin p q text other) :
    SameOutcome (Level.Twin p q) (a.long hasVersion "database-url" (some text))
      (b.long hasVersion "database-url" (some other)) := by
  rw [long_databaseUrl, long_databaseUrl]
  exact h.option (.some (.url urls))

omit h hasVersion in
/-- A slot without its value waits for one. -/
theorem isWaiting_of_pending {slot : Slot} (h : a.pending = some (slot, none)) :
    a.isWaiting = true := by
  unfold isWaiting
  rw [h]

/-- The url that is waited for. -/
theorem Twin.giveUrl {text other : String} (urls : UrlTwin p q text other)
    (hpending : a.pending = some (.databaseUrl, none)) :
    (a.giveValue text).Twin p q (b.giveValue other) := by
  refine h.giveValue fun slot hslot => ?_
  cases hpending.symm.trans hslot
  exact .url urls

end Level

/-! ## 3. After the command -/

section

variable {arg : String} {args args' : List String} {a b : Level}

/-- One argument that two runs share, and then what makes no difference to them. -/
theorem readInner_cons_twin (h : a.Twin p q b)
    (hnext : ∀ {a b : Level}, a.Twin p q b →
      SameOutcome (Level.Twin p q) (readInner false a args) (readInner false b args'))
    (hescape : Token.ofText arg = .escape → ∀ {a b : Level}, a.Twin p q b →
      SameOutcome (Level.Twin p q) (readInner true a args) (readInner true b args')) :
    SameOutcome (Level.Twin p q) (readInner false a (arg :: args))
      (readInner false b (arg :: args')) := by
  simp only [readInner, Bool.false_eq_true, if_false]
  cases htoken : Token.ofText arg with
  | escape => exact hescape htoken h
  | long name value => exact (h.long false name value).bind fun _ _ => hnext
  | short letter => exact (h.short false letter).bind fun _ _ => hnext
  | word text =>
    simp only [h.isWaiting]
    split
    · exact hnext (h.giveValue fun slot _ => .same slot text)
    · exact (h.file text).bind fun _ _ => hnext

/-- After the command, an option is an operation of the level, and reading goes on. -/
theorem readInner_long {name : String} {value : Option String}
    (harg : Token.ofText arg = .long name value) (level : Level) (args : List String) :
    readInner false level (arg :: args) =
      level.long false name value >>= fun level => readInner false level args := by
  simp only [readInner, Bool.false_eq_true, if_false, harg]

/-- After the command, a word is the value that is waited for. -/
theorem readInner_word {level : Level} {text : String} (hword : IsWord text)
    (hwaiting : level.isWaiting = true) (args : List String) :
    readInner false level (text :: args) = readInner false (level.giveValue text) args := by
  simp only [readInner, Bool.false_eq_true, if_false, ofText_word hword, hwaiting, if_true]

/-- The same arguments, by induction on them. -/
theorem readInner_same (escaped : Bool) (args : List String) {a b : Level} (h : a.Twin p q b) :
    SameOutcome (Level.Twin p q) (readInner escaped a args) (readInner escaped b args) := by
  induction args generalizing escaped a b with
  | nil => exact h.settle
  | cons arg rest ih =>
    cases escaped with
    | true => exact (h.file arg).bind fun _ _ => ih true
    | false => exact readInner_cons_twin h (ih false) fun _ => ih true

/-- **After the command, the url makes no difference.** By induction on the pairs. -/
theorem readInner_twin (hargs : ArgumentsTwin p q args args') (h : a.Twin p q b) :
    SameOutcome (Level.Twin p q) (readInner false a args) (readInner false b args') := by
  induction hargs generalizing a b with
  | rest args => exact readInner_same false args h
  | same plain _ ih =>
    exact readInner_cons_twin h ih fun hescape => absurd hescape (ofText_ne_escape plain)
  | following urls word word' _ ih =>
    rw [readInner_long ofText_option, readInner_long ofText_option]
    refine (h.long_waiting false).bind ?_
    rintro named named' ⟨hnamed, hpending⟩
    have hwaiting := Level.isWaiting_of_pending hpending
    rw [readInner_word word hwaiting, readInner_word word' (hnamed.isWaiting ▸ hwaiting)]
    exact ih (hnamed.giveUrl urls hpending)
  | joined urls _ ih =>
    rw [readInner_long (ofText_joined _), readInner_long (ofText_joined _)]
    exact (h.long_url false urls).bind fun _ _ => ih

end

/-! ## 4. Whole command lines -/

/-- What the command lines of two runs ask for, differing in the password of the url at most. -/
structure Invocation.Twin (p q : String) (a b : Invocation) : Prop where
  mode : a.mode = b.mode
  input : a.input = b.input
  output : a.output = b.output
  config : a.config = b.config
  databaseUrl : Option.Rel (UrlTwin p q) a.databaseUrl b.databaseUrl

namespace Values.Twin

variable {a b : Values} (h : a.Twin p q b)
include h

theorem get?_eq {slot : Slot} (hslot : slot ≠ .databaseUrl) : a.get? slot = b.get? slot := by
  have hvalue := h slot
  generalize a.get? slot = first at hvalue ⊢
  generalize b.get? slot = second at hvalue ⊢
  cases hvalue with
  | none => rfl
  | some hvalue => rw [hvalue.eq hslot]

theorem databaseUrl : Option.Rel (UrlTwin p q) a.databaseUrl b.databaseUrl := by
  have hvalue : Option.Rel (ValueTwin p q .databaseUrl) a.databaseUrl b.databaseUrl :=
    h .databaseUrl
  generalize a.databaseUrl = first at hvalue ⊢
  generalize b.databaseUrl = second at hvalue ⊢
  cases hvalue with
  | none => exact .none
  | some hvalue =>
    cases hvalue with
    | same => exact .some (.same _)
    | url urls => exact .some urls

theorem bothFiles : bothFiles a = bothFiles b := by
  have hinput : a.get? .input = b.get? .input := h.get?_eq (by decide)
  have houtput : a.get? .output = b.get? .output := h.get?_eq (by decide)
  unfold CommandLine.bothFiles
  rw [show a.input = b.input from hinput, show a.output = b.output from houtput]

end Values.Twin

section

variable {arg : String} {args args' : List String} {a b : Level} {urlIsSet : Bool}

theorem level_twin_refl (files : List Slot) :
    Level.Twin p q ⟨.empty, none, files⟩ ⟨.empty, none, files⟩ where
  values slot := by cases slot <;> exact .none
  pending := .none
  files := rfl

/-- The level after the command is read first, then the last value before it is settled. -/
theorem runCommand_twin (mode : Mode) (h : a.Twin p q b) (hargs : ArgumentsTwin p q args args') :
    SameOutcome (Invocation.Twin p q) (runCommand mode a args) (runCommand mode b args') := by
  refine (readInner_twin hargs (level_twin_refl _)).bind ?_
  intro inner inner' hinner
  rw [hinner.values.bothFiles]
  refine .after _ ?_
  rintro ⟨input, output⟩
  refine h.settle.bind ?_
  intro outer outer' houter
  have hconfig : ∀ {a b : Level}, a.Twin p q b → a.values.get? .config = b.values.get? .config :=
    fun h => h.values.get?_eq (by decide)
  exact .ok ⟨rfl, rfl, rfl, congrArg₂ Option.or (hconfig hinner) (hconfig houter),
    rel_or hinner.values.databaseUrl houter.values.databaseUrl⟩

/-- Without a command, what counts is whether anything was given at all. -/
theorem withoutCommand_twin (h : a.Twin p q b) :
    SameOutcome (Invocation.Twin p q) (withoutCommand a urlIsSet) (withoutCommand b urlIsSet) := by
  refine h.settle.bind ?_
  intro level level' hlevel
  simp only [hlevel.values.eq_empty_iff]
  exact .guard _ (.error _)

/-- A url option is no command. -/
theorem ofName?_joined (text : String) : Command.ofName? ("--database-url=" ++ text) = none := by
  have hhead : ∀ name, "--database-url=" ++ text = name → name.toList.head? = some '-' := by
    rintro _ rfl
    simp
  unfold Command.ofName?
  split
  · rename_i hname
    exact absurd (hhead _ hname) (by decide)
  · rename_i hname
    exact absurd (hhead _ hname) (by decide)
  · rename_i hname
    exact absurd (hhead _ hname) (by decide)
  · rfl

theorem helpAbout_joined (text : String) (args : List String) :
    helpAbout (("--database-url=" ++ text) :: args) = .commandUnknown := by
  cases args with
  | nil => simp [helpAbout, ofName?_joined]
  | cons => rfl

/-- Help is about one command at most, and a url is none. -/
theorem helpAbout_twin (hargs : ArgumentsTwin p q args args') :
    helpAbout args = helpAbout args' := by
  cases hargs with
  | rest => rfl
  | same _ rest => cases rest <;> rfl
  | following => rfl
  | joined => rw [helpAbout_joined, helpAbout_joined]

/-- One argument that two runs share, and then what makes no difference to them. -/
theorem readOuter_cons_twin (h : a.Twin p q b) (hargs : ArgumentsTwin p q args args')
    (hnext : ∀ {a b : Level}, a.Twin p q b →
      SameOutcome (Invocation.Twin p q) (readOuter urlIsSet a args) (readOuter urlIsSet b args'))
    (hescape : Token.ofText arg = .escape → args = args') :
    SameOutcome (Invocation.Twin p q) (readOuter urlIsSet a (arg :: args))
      (readOuter urlIsSet b (arg :: args')) := by
  simp only [readOuter, h.isWaiting]
  split
  · exact runCommand_twin _ h hargs
  · rw [helpAbout_twin hargs]
    exact .error _
  · cases htoken : Token.ofText arg with
    | escape =>
      -- After an escape every argument is a word, whatever it looks like, so the rest must be the
      -- same.
      cases hescape htoken
      cases args with
      | nil => exact withoutCommand_twin h
      | cons => exact .error _
    | long name value => exact (h.long true name value).bind fun _ _ => hnext
    | short letter => exact (h.short true letter).bind fun _ _ => hnext
    | word text =>
      simp only
      split
      · exact hnext (h.giveValue fun slot _ => .same slot text)
      · exact .error _

/-- Before the command, an option is an operation of the level, and reading goes on. -/
theorem readOuter_long {name : String} {value : Option String}
    (hcommand : Command.ofName? arg = none) (harg : Token.ofText arg = .long name value)
    (level : Level) (args : List String) :
    readOuter urlIsSet level (arg :: args) =
      level.long true name value >>= fun level => readOuter urlIsSet level args := by
  simp only [readOuter, hcommand, ite_self, harg]

/-- Before the command, a word is the value that is waited for, also if it is a command. -/
theorem readOuter_word {level : Level} {text : String} (hword : IsWord text)
    (hwaiting : level.isWaiting = true) (args : List String) :
    readOuter urlIsSet level (text :: args) = readOuter urlIsSet (level.giveValue text) args := by
  simp only [readOuter, hwaiting, if_true, ofText_word hword]

/-- **Before the command, the url makes no difference.** By induction on the pairs; where they are
the same to the end, on the arguments that are left. -/
theorem readOuter_twin (hargs : ArgumentsTwin p q args args') (h : a.Twin p q b) :
    SameOutcome (Invocation.Twin p q) (readOuter urlIsSet a args) (readOuter urlIsSet b args') := by
  induction hargs generalizing a b with
  | rest args =>
    induction args generalizing a b with
    | nil => exact withoutCommand_twin h
    | cons arg args ih => exact readOuter_cons_twin h (.rest args) ih fun _ => rfl
  | same plain hrest ih =>
    exact readOuter_cons_twin h hrest ih fun hescape => absurd hescape (ofText_ne_escape plain)
  | following urls word word' _ ih =>
    -- The option waits for its value, so the two words are read as urls, not as the command.
    rw [readOuter_long rfl ofText_option, readOuter_long rfl ofText_option]
    refine (h.long_waiting true).bind ?_
    rintro named named' ⟨hnamed, hpending⟩
    have hwaiting := Level.isWaiting_of_pending hpending
    rw [readOuter_word word hwaiting, readOuter_word word' (hnamed.isWaiting ▸ hwaiting)]
    exact ih (hnamed.giveUrl urls hpending)
  | joined urls _ ih =>
    rw [readOuter_long (ofName?_joined _) (ofText_joined _),
      readOuter_long (ofName?_joined _) (ofText_joined _)]
    exact (h.long_url true urls).bind fun _ _ => ih

end

/-- **The password has no say in what a command line asks for.** -/
theorem Invocation.ofArguments_twin {args args' : List String} {env env' : Environment}
    (hargs : ArgumentsTwin p q args args') (henv : env.Twin p q env') :
    SameOutcome (Invocation.Twin p q) (ofArguments env args) (ofArguments env' args') := by
  unfold ofArguments
  dsimp only
  rw [isSome_eq_of_rel henv.url]
  refine (readOuter_twin hargs (level_twin_refl [])).bind ?_
  intro invocation invocation' h
  exact .ok ⟨h.mode, h.input, h.output, h.config, rel_or h.databaseUrl henv.url⟩

end ShopQuery.CommandLine
