import ShopQuery.Proofs.CommandLine.Passwords

/-!
# Options in any place

A command line is a command with parts before it and after it. A part is a file, or an option and
its value, and an option may be any of the parts: before the command, after it, or around a file.

A reader takes the parts one after the other (`Takes`). What a slot is given by the values that a
level has, together with the parts that are still to be read, stays the same from part to part
(`given_set`). So at the end of a level its values are those of the parts, wherever they stood
(`exists_read_parts`), and both levels together have what the command line asks for
(`Invocation.ofArguments_placement`).

## How the proof goes

The invariant of the induction is not about the level as it is: its last value is filled in only
when the next argument has been looked at. `SettlesTo` says what the level has once that is done,
and `taking` is a level right behind a part. Reading a part leads from the one to the other, for
either reader (`takes_readInner`, `takes_readOuter`), and `settlesTo_taking` leads back, if the slot
of the part is still empty. It is, because no slot is given two values in all (`get?_eq_none`); this
is the bound that goes through the induction with the values.

Then come the two levels. The one before the command has no files, so that the word after its
options is the command. The one after it has both files, in their order. What they have is joined
slot by slot (`Values.get?_or`); no slot is given on both levels, so it does not matter which of
them would count.

## The side conditions

`PlacedAs` says what a placement is: the files after the command, each option once at most. `Fits`
is about the values alone. A value that begins with a dash would be read as an option, and an empty
path is refused, while an empty url is not. Nothing is asked of how a value reads otherwise: it may
be the name of a command, as nothing but the place of a word decides what it is.
-/

namespace ShopQuery.CommandLine

/-! ## 1. Parts -/

/-- A value on a command line, and what it is for. -/
structure Part where
  slot : Slot
  value : String
deriving DecidableEq, Repr

/-- The words of a part: a file is its path alone. -/
def Part.words (part : Part) : List String :=
  match part.slot with
  | .config => ["--config", part.value]
  | .databaseUrl => ["--database-url", part.value]
  | .input | .output => [part.value]

/-- The value does not look like an option, and it is not an empty path. -/
structure Part.Fits (part : Part) : Prop where
  word : IsWord part.value
  nonempty : part.slot ≠ .databaseUrl → part.value ≠ ""

instance (part : Part) : Decidable part.Fits :=
  decidable_of_iff (part.value.toList.head? ≠ some '-' ∧
      (part.slot ≠ .databaseUrl → part.value ≠ ""))
    ⟨fun h => ⟨h.1, h.2⟩, fun h => ⟨h.word, h.nonempty⟩⟩

def Slot.isFile : Slot → Bool
  | .input | .output => true
  | .config | .databaseUrl => false

def fileSlots (parts : List Part) : List Slot := (parts.map (·.slot)).filter Slot.isFile

/-- The values that parts have for a slot. -/
def valuesOf (slot : Slot) (parts : List Part) : List String :=
  (parts.filter (·.slot = slot)).map (·.value)

section

variable {slot : Slot} {part : Part} {parts : List Part}

@[simp] theorem fileSlots_append (parts others : List Part) :
    fileSlots (parts ++ others) = fileSlots parts ++ fileSlots others := by
  simp [fileSlots]

/-- Parts without files are options, all of them. -/
theorem fileSlots_eq_nil_iff : fileSlots parts = [] ↔ ∀ part ∈ parts, part.slot.isFile = false := by
  simp [fileSlots]

@[simp] theorem valuesOf_append (slot : Slot) (parts others : List Part) :
    valuesOf slot (parts ++ others) = valuesOf slot parts ++ valuesOf slot others := by
  simp [valuesOf]

/-- The values of a slot, part by part. -/
theorem valuesOf_cons : valuesOf slot (part :: parts) =
    if part.slot = slot then part.value :: valuesOf slot parts else valuesOf slot parts := by
  simp only [valuesOf, List.filter_cons, decide_eq_true_eq]
  split <;> rfl

/-- Where no files are, slots of files have no values. -/
theorem valuesOf_eq_nil (hfiles : fileSlots parts = []) (hslot : slot.isFile = true) :
    valuesOf slot parts = [] := by
  rw [valuesOf, List.map_eq_nil_iff, List.filter_eq_nil_iff]
  intro part hpart hpartSlot
  rw [decide_eq_true_eq] at hpartSlot
  have hoption := fileSlots_eq_nil_iff.mp hfiles part hpart
  simp [hpartSlot, hslot] at hoption

end

/-! ## 2. Levels -/

/-- What a slot is given: its value, if it has one already, and the values of parts. -/
def Values.given (values : Values) (parts : List Part) (slot : Slot) : List String :=
  (values.get? slot).toList ++ valuesOf slot parts

section

variable {values : Values} {part : Part} {parts : List Part} {level : Level} {files : List Slot}

/-- At first a slot is given what the parts have for it. -/
@[simp] theorem Values.given_empty (parts : List Part) (slot : Slot) :
    Values.empty.given parts slot = valuesOf slot parts := by
  cases slot <;> rfl

/-- A slot that is given one value at most has none when a part for it comes. -/
theorem Values.get?_eq_none (h : (values.given (part :: parts) part.slot).length ≤ 1) :
    values.get? part.slot = none := by
  rw [given, valuesOf_cons, if_pos rfl, List.length_append, List.length_cons] at h
  cases hvalue : values.get? part.slot with
  | none => rfl
  | some value =>
    rw [hvalue, Option.toList_some, List.length_singleton] at h
    omega

/-- Taking a part changes nothing in what the slots are given. -/
theorem Values.given_set (hunset : values.get? part.slot = none) (slot : Slot) :
    (values.set part.slot part.value).given parts slot = values.given (part :: parts) slot := by
  rw [given, given, get?_set, valuesOf_cons]
  by_cases hslot : slot = part.slot
  · subst hslot
    simp [hunset]
  · simp [hslot, Ne.symm hslot]

/-- A level that was given the value of a part. -/
def Level.taking (values : Values) (part : Part) (files : List Slot) : Level :=
  ⟨values, some (part.slot, some part.value), files⟩

/-- Once the slot named last is filled, the level has these values, and these files to come. -/
def Level.SettlesTo (level : Level) (values : Values) (files : List Slot) : Prop :=
  level.settle = .ok ⟨values, none, files⟩

namespace Level.SettlesTo

variable (h : level.SettlesTo values files)
include h

/-- A level that can be settled waits for nothing. -/
theorem isWaiting : level.isWaiting = false := by
  obtain ⟨values', pending, files'⟩ := level
  match pending, h with
  | none, _ => rfl
  | some (_, some _), _ => rfl

/-- Settling a level leaves the files to come as they are. -/
theorem files_eq : level.files = files := by
  unfold SettlesTo settle at h
  split at h
  · cases h
    rfl
  · cases h
  · obtain ⟨filled, -, hlevel⟩ := bind_eq_ok_iff.mp h
    cases hlevel
    rfl

/-- Naming a slot settles the level first. -/
theorem name (slot : Slot) (value : Option String) :
    level.name slot value = .ok ⟨values, some (slot, value), files⟩ := by
  rw [Level.name, show level.settle = _ from h]
  rfl

/-- An option without its value is named. -/
theorem option (slot : Slot) : level.option slot none = .ok ⟨values, some (slot, none), files⟩ := by
  rw [Level.option, h.name]
  rfl

end Level.SettlesTo

/-- A path is taken for the next file to come. -/
theorem Level.SettlesTo.file {slot : Slot} (h : level.SettlesTo values (slot :: files))
    (path : String) : level.file path = .ok (Level.taking values ⟨slot, path⟩ files) := by
  rw [Level.file, h.files_eq]
  simp only [h.name]
  rfl

/-- A part behind which the level is settled fills its slot, if that is empty. -/
theorem Level.settlesTo_taking (hfits : part.Fits) (hunset : values.get? part.slot = none) :
    (Level.taking values part files).SettlesTo (values.set part.slot part.value) files := by
  have hempty : (part.slot != .databaseUrl && part.value.isEmpty) = false := by
    rw [Bool.and_eq_false_iff]
    by_cases hslot : part.slot = .databaseUrl
    · exact .inl (by simp [hslot])
    · exact .inr (by simpa using hfits.nonempty hslot)
  have hfill : values.fill part.slot part.value = .ok (values.set part.slot part.value) := by
    simp [Values.fill, hunset, hempty]
  simp only [SettlesTo, settle, taking, hfill]
  rfl

end

/-! ## 3. Readers -/

section

variable {α : Type} {read : Level → List String → Except Fault α} {values : Values} {part : Part}
  {parts : List Part} {level : Level} {files : List Slot} {urlIsSet : Bool}

/-- A reader takes a part wherever it stands: it goes on from a level that was given the value. -/
def Takes (read : Level → List String → Except Fault α) (part : Part) : Prop :=
  ∀ {level : Level} {values : Values} {files : List Slot},
    level.SettlesTo values (fileSlots [part] ++ files) → ∀ rest : List String,
      read level (part.words ++ rest) = read (Level.taking values part files) rest

/-- A reader that takes all parts comes to a level with their values, by induction on them. -/
theorem exists_read_parts (htakes : ∀ part ∈ parts, Takes read part)
    (hfits : ∀ part ∈ parts, part.Fits)
    (hlevel : level.SettlesTo values (fileSlots parts ++ files))
    (honce : ∀ slot, (values.given parts slot).length ≤ 1) :
    ∃ last final, last.SettlesTo final files ∧
      (∀ slot, (final.get? slot).toList = values.given parts slot) ∧
      ∀ rest, read level (parts.flatMap Part.words ++ rest) = read last rest := by
  induction parts generalizing level values with
  | nil => exact ⟨level, values, hlevel, fun slot => by simp [Values.given, valuesOf], fun _ => rfl⟩
  | cons part parts ih =>
    obtain ⟨htakesPart, htakes⟩ := List.forall_mem_cons.mp htakes
    obtain ⟨hfitsPart, hfits⟩ := List.forall_mem_cons.mp hfits
    -- No slot is given twice, so the part meets an empty slot.
    have hunset := Values.get?_eq_none (honce part.slot)
    rw [← List.singleton_append, fileSlots_append, List.append_assoc] at hlevel
    obtain ⟨last, final, hlast, hfinal, hread⟩ := ih htakes hfits
      (Level.settlesTo_taking hfitsPart hunset)
      (by simpa only [Values.given_set hunset] using honce)
    refine ⟨last, final, hlast, ?given, ?read⟩
    case given => simpa only [Values.given_set hunset] using hfinal
    case read =>
      intro rest
      rw [List.flatMap_cons, List.append_assoc, htakesPart hlevel, hread]

/-! ## 4. The two levels -/

/-- After the command, an option and then its value. -/
theorem readInner_pair {arg name value : String} {slot : Slot}
    (harg : Token.ofText arg = .long name none)
    (hname : ∀ level : Level, level.long false name none = level.option slot none)
    (hlevel : level.SettlesTo values files) (hword : IsWord value) (rest : List String) :
    readInner false level (arg :: value :: rest) =
      readInner false (Level.taking values ⟨slot, value⟩ files) rest := by
  have hwaiting : Level.isWaiting ⟨values, some (slot, none), files⟩ = true := rfl
  rw [readInner_long harg, hname, hlevel.option]
  exact readInner_word hword hwaiting rest

/-- After the command, a file. -/
theorem readInner_file {path : String} {slot : Slot}
    (hlevel : level.SettlesTo values (slot :: files)) (hword : IsWord path) (rest : List String) :
    readInner false level (path :: rest) =
      readInner false (Level.taking values ⟨slot, path⟩ files) rest := by
  simp only [readInner, Bool.false_eq_true, if_false, ofText_word hword, hlevel.isWaiting,
    hlevel.file]
  rfl

/-- After the command, every part is taken. -/
theorem takes_readInner (hword : IsWord part.value) : Takes (readInner false) part := by
  intro level values files hlevel rest
  obtain ⟨slot, value⟩ := part
  cases slot with
  | config => exact readInner_pair rfl (fun _ => rfl) hlevel hword rest
  | databaseUrl => exact readInner_pair rfl (fun _ => rfl) hlevel hword rest
  | input => exact readInner_file hlevel hword rest
  | output => exact readInner_file hlevel hword rest

/-- Before the command, an option and then its value. -/
theorem readOuter_pair {arg name value : String} {slot : Slot}
    (hcommand : Command.ofName? arg = none) (harg : Token.ofText arg = .long name none)
    (hname : ∀ level : Level, level.long true name none = level.option slot none)
    (hlevel : level.SettlesTo values files) (hword : IsWord value) (rest : List String) :
    readOuter urlIsSet level (arg :: value :: rest) =
      readOuter urlIsSet (Level.taking values ⟨slot, value⟩ files) rest := by
  have hwaiting : Level.isWaiting ⟨values, some (slot, none), files⟩ = true := rfl
  rw [readOuter_long hcommand harg, hname, hlevel.option]
  exact readOuter_word hword hwaiting rest

/-- Before the command, every part is taken that is no file. -/
theorem takes_readOuter (hword : IsWord part.value) (hoption : part.slot.isFile = false) :
    Takes (readOuter urlIsSet) part := by
  intro level values files hlevel rest
  obtain ⟨slot, value⟩ := part
  cases slot with
  | config => exact readOuter_pair rfl rfl (fun _ => rfl) hlevel hword rest
  | databaseUrl => exact readOuter_pair rfl rfl (fun _ => rfl) hlevel hword rest
  | input => cases hoption
  | output => cases hoption

end

/-! ## 5. Command lines -/

def commandName : Mode → String
  | .search => "search"
  | .stat => "stat"

/-- The command line with parts before the command and after it. -/
def commandLine (mode : Mode) (before after : List Part) : List String :=
  before.flatMap Part.words ++ commandName mode :: after.flatMap Part.words

/-- At the command, the level after it begins. -/
theorem readOuter_command {values : Values} {level : Level} {urlIsSet : Bool}
    (hlevel : level.SettlesTo values []) (mode : Mode) (rest : List String) :
    readOuter urlIsSet level (commandName mode :: rest) = runCommand mode level rest := by
  have hcommand : Command.ofName? (commandName mode) = some (.run mode) := by cases mode <;> rfl
  simp only [readOuter, hlevel.isWaiting, Bool.false_eq_true, if_false, hcommand]

section

variable {parts : List Part} (hfits : ∀ part ∈ parts, part.Fits)
  (honce : ∀ slot, (valuesOf slot parts).length ≤ 1)
include hfits honce

/-- Before the command, all parts are read, and the command runs from a level with their values. -/
theorem exists_readOuter (hfiles : fileSlots parts = []) (urlIsSet : Bool) (mode : Mode) :
    ∃ level values, level.SettlesTo values [] ∧
      (∀ slot, (values.get? slot).toList = valuesOf slot parts) ∧
      ∀ rest, readOuter urlIsSet .outer (parts.flatMap Part.words ++ commandName mode :: rest) =
        runCommand mode level rest := by
  have htakes : ∀ part ∈ parts, Takes (readOuter urlIsSet) part := fun part hpart =>
    takes_readOuter (hfits part hpart).word (fileSlots_eq_nil_iff.mp hfiles part hpart)
  have hstart : Level.outer.SettlesTo .empty (fileSlots parts ++ []) := by
    rw [hfiles]
    rfl
  obtain ⟨level, values, hlevel, hvalues, hread⟩ := exists_read_parts htakes hfits hstart
    (by simpa only [Values.given_empty] using honce)
  refine ⟨level, values, hlevel, by simpa only [Values.given_empty] using hvalues, ?_⟩
  intro rest
  rw [hread, readOuter_command hlevel]

/-- After the command, all parts are read, and no file is left to come. -/
theorem exists_readInner (hfiles : fileSlots parts = [.input, .output]) :
    ∃ values, readInner false .inner (parts.flatMap Part.words) = .ok ⟨values, none, []⟩ ∧
      ∀ slot, (values.get? slot).toList = valuesOf slot parts := by
  have htakes : ∀ part ∈ parts, Takes (readInner false) part := fun part hpart =>
    takes_readInner (hfits part hpart).word
  have hstart : Level.inner.SettlesTo .empty (fileSlots parts ++ []) := by
    rw [hfiles]
    rfl
  obtain ⟨level, values, hlevel, hvalues, hread⟩ := exists_read_parts htakes hfits hstart
    (by simpa only [Values.given_empty] using honce)
  refine ⟨values, ?_, by simpa only [Values.given_empty] using hvalues⟩
  rw [← List.append_nil (parts.flatMap Part.words), hread]
  exact hlevel

end

/-- Between them, two levels have what was given to both. -/
theorem Values.get?_or {outer inner values : Values} {slot : Slot}
    (h : (outer.get? slot).toList ++ (inner.get? slot).toList = (values.get? slot).toList) :
    (inner.get? slot).or (outer.get? slot) = values.get? slot := by
  cases houter : outer.get? slot with
  | none =>
    rw [houter, Option.toList_none, List.nil_append] at h
    rw [Option.or_none]
    refine Option.ext fun value => ?_
    rw [← Option.mem_toList, h, Option.mem_toList]
  | some value =>
    cases hvalues : values.get? slot with
    | none => simp [houter, hvalues] at h
    | some other =>
      rw [houter, hvalues, Option.toList_some, Option.toList_some, List.singleton_append,
        List.cons.injEq, Option.toList_eq_nil_iff] at h
      rw [h.1, h.2, Option.none_or]

namespace Invocation

/-- What an invocation asks for, by slot. -/
def values (asked : Invocation) : Values :=
  ⟨asked.config, asked.databaseUrl, some asked.input, some asked.output⟩

/-- Parts before the command and after it that ask for an invocation. The files stand after the
command, the request file first. The options may stand anywhere, each once if it is asked for, and
not at all otherwise. -/
structure PlacedAs (asked : Invocation) (before after : List Part) : Prop where
  filesBefore : fileSlots before = []
  filesAfter : fileSlots after = [.input, .output]
  values : ∀ slot, valuesOf slot (before ++ after) = (asked.values.get? slot).toList

variable {asked : Invocation} {before after : List Part}

/-- The two levels of an invocation: what either has, and the files from after the command. -/
theorem runCommand_eq_ok {level : Level} {outer inner : Values} {args : List String}
    (hlevel : level.SettlesTo outer [])
    (hinner : readInner false .inner args = .ok ⟨inner, none, []⟩)
    (hvalues : ∀ slot, (inner.get? slot).or (outer.get? slot) = asked.values.get? slot)
    (hfiles : ∀ slot : Slot, slot.isFile = true → outer.get? slot = none) :
    runCommand asked.mode level args = .ok asked := by
  -- The files can be given after the command only.
  have hpaths : ∀ slot : Slot, slot.isFile = true → inner.get? slot = asked.values.get? slot := by
    intro slot hslot
    rw [← hvalues, hfiles slot hslot, Option.or_none]
  have hinput : inner.input = some asked.input := hpaths .input rfl
  have houtput : inner.output = some asked.output := hpaths .output rfl
  have hboth : bothFiles inner = .ok (asked.input, asked.output) := by
    rw [bothFiles, hinput, houtput]
  have hconfig : inner.config.or outer.config = asked.config := hvalues .config
  have hurl : inner.databaseUrl.or outer.databaseUrl = asked.databaseUrl := hvalues .databaseUrl
  refine bind_eq_ok_iff.mpr ⟨_, hinner, bind_eq_ok_iff.mpr ⟨_, hboth, bind_eq_ok_iff.mpr
    ⟨_, hlevel, ?_⟩⟩⟩
  dsimp only
  rw [hconfig, hurl]
  rfl

/-- Options are read as what they ask for, wherever they stand. The variable in the environment
stands for a url that is missing. -/
theorem ofArguments_commandLine (hplaced : asked.PlacedAs before after)
    (hfits : ∀ part ∈ before ++ after, part.Fits) (env : Environment) :
    ofArguments env (commandLine asked.mode before after) =
      .ok { asked with databaseUrl := asked.databaseUrl.or (env.get? urlVariable) } := by
  obtain ⟨hfitsBefore, hfitsAfter⟩ := List.forall_mem_append.mp hfits
  have hgiven : ∀ slot, valuesOf slot before ++ valuesOf slot after =
      (asked.values.get? slot).toList := by
    simpa only [valuesOf_append] using hplaced.values
  have honce : ∀ slot, (valuesOf slot before).length + (valuesOf slot after).length ≤ 1 := by
    intro slot
    rw [← List.length_append, hgiven]
    cases asked.values.get? slot <;> simp
  obtain ⟨level, outer, hlevel, houter, hreadOuter⟩ := exists_readOuter hfitsBefore
    (fun slot => by have := honce slot; omega) hplaced.filesBefore (env.get? urlVariable).isSome
    asked.mode
  obtain ⟨inner, hreadInner, hinner⟩ := exists_readInner hfitsAfter
    (fun slot => by have := honce slot; omega) hplaced.filesAfter
  have hvalues : ∀ slot, (inner.get? slot).or (outer.get? slot) = asked.values.get? slot := by
    intro slot
    apply Values.get?_or
    rw [houter, hinner, hgiven]
  have hfiles : ∀ slot : Slot, slot.isFile = true → outer.get? slot = none := by
    intro slot hslot
    rw [← Option.toList_eq_nil_iff, houter, valuesOf_eq_nil hplaced.filesBefore hslot]
  rw [ofArguments, commandLine, hreadOuter, runCommand_eq_ok hlevel hreadInner hvalues hfiles]
  rfl

/-- **Options mean the same wherever they stand.** However the options are placed around the
command and its files, what is read is what is asked for. A url that is given counts whatever the
environment has, and without one it is what the environment has. -/
theorem ofArguments_placement (hplaced : asked.PlacedAs before after)
    (hfits : ∀ part ∈ before ++ after, part.Fits) :
    (asked.databaseUrl.isSome → ∀ env,
      ofArguments env (commandLine asked.mode before after) = .ok asked) ∧
    (asked.databaseUrl = none → ∀ env,
      ofArguments env (commandLine asked.mode before after) =
        .ok { asked with databaseUrl := env.get? urlVariable }) := by
  have hread := ofArguments_commandLine hplaced hfits
  constructor
  · intro hurl env
    obtain ⟨url, hurl⟩ := Option.isSome_iff_exists.mp hurl
    rw [hread, hurl, Option.some_or, ← hurl]
  · intro hurl env
    rw [hread, hurl, Option.none_or]

/-- The config file stands before the command, the url between the files, and the words for them
could be commands. -/
theorem ofArguments_placement_betweenFiles :
    ofArguments ⟨[("DATABASE_URL", "postgres://other")]⟩ ["--config", "stat", "search",
      "search", "--database-url", "postgres://shop", "out.json"] =
      .ok ⟨.search, "search", "out.json", some "stat", some "postgres://shop"⟩ := by
  have hplaced : PlacedAs ⟨.search, "search", "out.json", some "stat", some "postgres://shop"⟩
      [⟨.config, "stat"⟩]
      [⟨.input, "search"⟩, ⟨.databaseUrl, "postgres://shop"⟩, ⟨.output, "out.json"⟩] :=
    { filesBefore := rfl
      filesAfter := rfl
      values := by
        intro slot
        cases slot <;> decide }
  exact (ofArguments_placement hplaced (by decide)).1 rfl _

end Invocation

end ShopQuery.CommandLine
