import EstateSearch.CommandLine.Parser
import EstateSearch.Proofs.CommandLine.Filter
import Mathlib.Data.List.Nodup

/-!
# Layouts of a command line

What is asked for on a command line can be laid out in many ways: its options may stand in any
order, those that concern every command on either side of the command, and each value attached to
its option or after it. All layouts are read alike and no value is changed (`parse_layout`).

The two sides are read by two loops. They take in an option in the same way
(`ReadsArguments`), so what one item adds to what has been given (`ReadsArguments.exists_given`) and
what all of them add (`ReadsArguments.exists_given_of_each`) is shown of both at once. The latest
option still waits after its item has been read; what has been given is therefore described by what
it settles to.
-/

set_option autoImplicit false

namespace EstateSearch.CommandLine

/-! ### Items and how they are written -/

/-- What is given on a command line besides the command. -/
inductive Item where
  /-- a value for an option -/
  | value (option : ValueOption) (text : String)
  /-- the flag for more events -/
  | verbose
  deriving DecidableEq, Repr

def ValueOption.name : ValueOption → String
  | config => "config"
  | query => "query"
  | criteria => "criteria"
  | records => "records"

/-- The arguments that give an item. A value is attached to its option, or it is the next argument
and must not start with a hyphen then. -/
inductive Writes : Item → List String → Prop
  | attached (option : ValueOption) (text : String) :
      Writes (.value option text) ["--" ++ option.name ++ "=" ++ text]
  | separate (option : ValueOption) {text : String} (plain : text.toList.head? ≠ some '-') :
      Writes (.value option text) ["--" ++ option.name, text]
  | verbose : Writes .verbose ["-v"]

/-- The arguments that give several items, one after the other. -/
inductive WritesEach : List Item → List String → Prop
  | nil : WritesEach [] []
  | cons {item : Item} {items : List Item} {first rest : List String} (writes : Writes item first)
      (others : WritesEach items rest) : WritesEach (item :: items) (first ++ rest)

/-- The option that an item is for; the flag is for none. -/
def Item.option? : Item → Option ValueOption
  | value option _ => some option
  | verbose => none

def Item.entry? : Item → Option (ValueOption × String)
  | value option text => some (option, text)
  | verbose => none

def Place.takes : Place → ValueOption → Bool
  | _, .config => true
  | .beforeCommand, _ => false
  | .afterExplain, option => option != .records
  | .afterFilter, _ => true

/-- May the item stand in the place? A path must not be empty. -/
def Item.Fits (place : Place) : Item → Prop
  | value option text => place.takes option = true ∧ (option.isPath = true → text ≠ "")
  | verbose => True

/-! ### What items give -/

/-- What the items give when all of them have been taken in. -/
def Given.ofItems (items : List Item) : Given :=
  ⟨items.filterMap Item.entry?, items.contains .verbose, none⟩

section

variable {items : List Item} {item : Item} {option : ValueOption} {text : String}

theorem mem_entries_iff :
    (option, text) ∈ items.filterMap Item.entry? ↔ .value option text ∈ items := by
  rw [List.mem_filterMap]
  constructor
  · rintro ⟨item, belongs, same⟩
    cases item with
    | value option' text' =>
      obtain ⟨rfl, rfl⟩ := Prod.mk.inj (Option.some.inj same)
      exact belongs
    | verbose => cases same
  · exact fun belongs => ⟨_, belongs, rfl⟩

/-- An option is among the items just if it is there with some value. -/
theorem mem_options_iff :
    some option ∈ items.map Item.option? ↔ ∃ text, .value option text ∈ items := by
  rw [List.mem_map]
  constructor
  · rintro ⟨item, belongs, same⟩
    cases item with
    | value option' text =>
      obtain rfl := Option.some.inj same
      exact ⟨text, belongs⟩
    | verbose => cases same
  · exact fun ⟨text, belongs⟩ => ⟨_, belongs, rfl⟩

/-- An option has no value just if it is not among the items. -/
theorem value?_ofItems_eq_none_iff :
    (Given.ofItems items).value? option = none ↔ some option ∉ items.map Item.option? := by
  simp only [Given.value?, Given.ofItems, Option.map_eq_none_iff, List.find?_eq_none,
    mem_options_iff, not_exists, Prod.forall, mem_entries_iff]
  constructor
  · intro h text belongs
    exact h option text belongs (by simp)
  · intro h option' text belongs same
    obtain rfl := LawfulBEq.eq_of_beq same
    exact h text belongs

theorem mem_of_value?_ofItems (found : (Given.ofItems items).value? option = some text) :
    .value option text ∈ items := by
  obtain ⟨⟨option', text'⟩, entry, rfl⟩ := Option.map_eq_some_iff.1 found
  obtain rfl : option' = option := by simpa using List.find?_some entry
  exact mem_entries_iff.1 (List.mem_of_find?_eq_some entry)

/-- Each option is given once, so its value is the one that it is given with. -/
theorem value?_ofItems_eq_some_iff (once : (items.map Item.option?).Nodup) :
    (Given.ofItems items).value? option = some text ↔ .value option text ∈ items := by
  refine ⟨mem_of_value?_ofItems, fun belongs => ?_⟩
  cases found : (Given.ofItems items).value? option with
  | none =>
    exact absurd (mem_options_iff.2 ⟨text, belongs⟩) (value?_ofItems_eq_none_iff.1 found)
  | some text' =>
    have same := List.inj_on_of_nodup_map once (mem_of_value?_ofItems found) belongs rfl
    rw [(Item.value.inj same).2]

/-- Of two lists of items the first that gives an option its value decides. -/
theorem value?_ofItems_append (first second : List Item) (option : ValueOption) :
    (Given.ofItems (first ++ second)).value? option =
      ((Given.ofItems first).value? option).or ((Given.ofItems second).value? option) := by
  simp [Given.value?, Given.ofItems, List.find?_append, Option.map_or]

/-! ### Taking in one item -/

variable {given : Given} {place : Place}

/-- An option that waits settles as the item it makes, if it is a new one. -/
theorem settle_waiting (fresh : some option ∉ items.map Item.option?)
    (path : option.isPath = true → text ≠ "") :
    Given.settle { Given.ofItems items with waiting := some (option, some text) } =
      .ok (.ofItems (items ++ [.value option text])) := by
  have unset :
      Given.value? { Given.ofItems items with waiting := some (option, some text) } option = none :=
    value?_ofItems_eq_none_iff.2 fresh
  have nonempty : (option.isPath && text.isEmpty) = false := by
    cases isPath : option.isPath with
    | true => simpa [String.isEmpty_iff] using path isPath
    | false => rfl
  simp only [Given.settle]
  rw [unset, nonempty]
  simp [Given.ofItems, Item.entry?]

/-- An option with its value attached first settles what waits, and is then taken in at once. -/
theorem addValue_attached (settles : given.settle = .ok (.ofItems items))
    (fresh : some option ∉ items.map Item.option?) (path : option.isPath = true → text ≠ "") :
    given.addValue option (some text) = .ok (.ofItems (items ++ [.value option text])) := by
  rw [Given.addValue, settles]
  exact settle_waiting fresh path

/-- An option without an attached value waits for the next argument. -/
theorem addValue_separate (settles : given.settle = .ok (.ofItems items)) :
    given.addValue option none =
      .ok { Given.ofItems items with waiting := some (option, none) } := by
  rw [Given.addValue, settles]
  rfl

theorem addVerbose_eq (settles : given.settle = .ok (.ofItems items))
    (fresh : none ∉ items.map Item.option?) :
    given.addVerbose = .ok (.ofItems (items ++ [.verbose])) := by
  have unset : .verbose ∉ items := fun belongs => fresh (List.mem_map_of_mem belongs)
  rw [Given.addVerbose, settles]
  simp [bind, Except.bind, pure, Except.pure, Given.ofItems, Item.entry?, unset]

/-! ### Reading arguments -/

theorem cutValue_eq {name : List Char} (h : '=' ∉ name) (rest : List Char) :
    cutValue (name ++ '=' :: rest) = (name, some rest) ∧ cutValue name = (name, none) := by
  induction name with
  | nil => exact ⟨by simp [cutValue], rfl⟩
  | cons c name ih =>
    rw [List.mem_cons, not_or] at h
    obtain ⟨attached, alone⟩ := ih h.2
    exact ⟨by simp [cutValue, Ne.symm h.1, attached], by simp [cutValue, Ne.symm h.1, alone]⟩

/-- Every option is known by its name wherever it may stand. -/
theorem longMeaning?_name (takes : place.takes option = true) :
    longMeaning? place option.name.toList = some (.value option) := by
  revert takes
  cases place <;> cases option <;> decide

theorem shape_long (option : ValueOption) (rest : List Char) :
    shape ('-' :: '-' :: (option.name.toList ++ rest)) = .long (option.name.toList ++ rest) := by
  cases option <;> rfl

/-- Whatever does not start with a hyphen is an ordinary word, also the empty text. -/
theorem shape_word {text : List Char} (plain : text.head? ≠ some '-') : shape text = .word := by
  cases text with
  | nil => rfl
  | cons c text =>
    have noHyphen : c ≠ '-' := by simpa using plain
    simp [shape, noHyphen]

/-- The function reads arguments in a place one by one and takes them in. -/
structure ReadsArguments {α : Type} (place : Place)
    (read : Given → List String → Except UsageError α) : Prop where
  long : ∀ {argument text}, shape argument.toList = .long text → ∀ given rest,
    read given (argument :: rest) = addLong place given text >>= fun given => read given rest
  short : ∀ {argument text}, shape argument.toList = .short text → ∀ given rest,
    read given (argument :: rest) = addShort place given text >>= fun given => read given rest
  word : ∀ {argument}, shape argument.toList = .word → ∀ given rest {option},
    given.waiting = some (option, none) → read given (argument :: rest) =
      read { given with waiting := some (option, some argument) } rest

/-- After a command the arguments are read one by one. -/
theorem readsArguments_after (place : Place) : ReadsArguments place (readAfterCommand place) where
  long shaped given rest := by rw [readAfterCommand, shaped]
  short shaped given rest := by rw [readAfterCommand, shaped]
  word shaped given rest _ waits := by simp only [readAfterCommand, shaped, waits]

theorem readsArguments_before : ReadsArguments .beforeCommand readFrom where
  long shaped given rest := by simp only [readFrom, shaped]
  short shaped given rest := by simp only [readFrom, shaped]
  word shaped given rest _ waits := by simp only [readFrom, shaped, waits]

variable {α : Type} {read : Given → List String → Except UsageError α}

/-- What an item adds to what has been given. -/
theorem ReadsArguments.exists_given (reads : ReadsArguments place read)
    (settles : given.settle = .ok (.ofItems items)) (fresh : item.option? ∉ items.map Item.option?)
    (fits : item.Fits place) {arguments : List String} (writes : Writes item arguments) :
    ∃ given', given'.settle = .ok (.ofItems (items ++ [item])) ∧
      ∀ rest, read given (arguments ++ rest) = read given' rest := by
  have settled (items : List Item) : (Given.ofItems items).settle = .ok (.ofItems items) := rfl
  -- An attached value is taken in at once. A separate one first makes its option wait.
  cases writes with
  | attached option text =>
    refine ⟨_, settled _, fun rest => ?_⟩
    have argument : ("--" ++ option.name ++ "=" ++ text).toList =
        '-' :: '-' :: (option.name.toList ++ '=' :: text.toList) := by
      simp [String.toList_append]
    have noSign : '=' ∉ option.name.toList := by cases option <;> decide
    have shaped : shape ("--" ++ option.name ++ "=" ++ text).toList =
        .long (option.name.toList ++ '=' :: text.toList) := by
      rw [argument, shape_long]
    rw [List.singleton_append, reads.long shaped, addLong, (cutValue_eq noSign _).1]
    simp only [longMeaning?_name fits.1, Option.map_some, String.ofList_toList,
      addValue_attached settles fresh fits.2]
    rfl
  | @separate option text plain =>
    refine ⟨_, settle_waiting fresh fits.2, fun rest => ?_⟩
    have argument : ("--" ++ option.name).toList = '-' :: '-' :: (option.name.toList ++ []) := by
      simp [String.toList_append]
    have noSign : '=' ∉ option.name.toList := by cases option <;> decide
    have shapedName : shape ("--" ++ option.name).toList = .long (option.name.toList ++ []) := by
      rw [argument, shape_long]
    have shapedValue : shape text.toList = .word := shape_word plain
    rw [List.cons_append, reads.long shapedName, addLong, List.append_nil,
      (cutValue_eq noSign []).2]
    simp only [longMeaning?_name fits.1, Option.map_none, addValue_separate settles]
    exact reads.word shapedValue _ rest rfl
  | verbose =>
    refine ⟨_, settled _, fun rest => ?_⟩
    have shaped : shape "-v".toList = .short ['v'] := by decide
    have flag : shortMeaning? place 'v' = some .verbose := rfl
    rw [List.singleton_append, reads.short shaped, addShort, flag]
    simp only [addVerbose_eq settles fresh]
    rfl

/-- What several items add to what has been given, if no option is given twice. -/
theorem ReadsArguments.exists_given_of_each (reads : ReadsArguments place read)
    {done items : List Item} (settles : given.settle = .ok (.ofItems done))
    (once : ((done ++ items).map Item.option?).Nodup) (fit : ∀ item ∈ items, item.Fits place)
    {arguments : List String} (writes : WritesEach items arguments) :
    ∃ given', given'.settle = .ok (.ofItems (done ++ items)) ∧
      ∀ rest, read given (arguments ++ rest) = read given' rest := by
  induction writes generalizing done given with
  | nil => exact ⟨given, by rwa [List.append_nil], fun _ => rfl⟩
  | @cons item items first others writes _ ih =>
    rw [List.forall_mem_cons] at fit
    have parts : done ++ item :: items = done ++ [item] ++ items := by simp
    rw [parts] at once
    have fresh : item.option? ∉ done.map Item.option? := by
      rw [List.map_append, List.map_append] at once
      have apart := List.disjoint_of_nodup_append once.of_append_left
      exact fun belongs => apart belongs (by simp)
    obtain ⟨next, settles', first'⟩ := reads.exists_given settles fresh fit.1 writes
    obtain ⟨last, settles'', others'⟩ := ih settles' once fit.2
    refine ⟨last, by rwa [parts], fun rest => ?_⟩
    rw [List.append_assoc, first', others']

end

/-! ### Layouts -/

namespace Command

def name : Command → String
  | explain _ => "explain"
  | filter _ _ => "filter"

def place : Command → Place
  | explain _ => .afterExplain
  | filter _ _ => .afterFilter

def search : Command → SearchArguments
  | explain search => search
  | filter search _ => search

def records? : Command → Option String
  | explain _ => none
  | filter _ records => some records

def items (command : Command) : List Item :=
  command.records?.toList.map (.value .records) ++ .value .query command.search.query ::
    command.search.criteria.toList.map (.value .criteria)

end Command

/-- The items that ask for what is to be done. -/
def Invocation.items (invocation : Invocation) : List Item :=
  (if invocation.verbose then [.verbose] else []) ++
    invocation.config.toList.map (.value .config) ++ invocation.command.items

/-- The items before the command and those after it ask for what is to be done. Before the command
there is only what concerns every command, and an empty query may be left out. -/
structure IsLayout (invocation : Invocation) (before after : List Item) : Prop where
  complete : (before ++ after).Perm invocation.items ∨
    (.value .query "" :: (before ++ after)).Perm invocation.items
  general : ∀ item ∈ before, item = .verbose ∨ item.option? = some .config

theorem sublist_options {option : Option String} (name : ValueOption) :
    ((option.toList.map (Item.value name)).map Item.option?).Sublist [some name] := by
  cases option <;> simp [Item.option?]

/-- No option is asked for twice. -/
theorem nodup_options (invocation : Invocation) : (invocation.items.map Item.option?).Nodup := by
  have known : ([none] ++ [some ValueOption.config] ++ ([some ValueOption.records] ++
      some ValueOption.query :: [some ValueOption.criteria])).Nodup := by
    decide
  have flag : ((if invocation.verbose then [Item.verbose] else []).map Item.option?).Sublist
      [none] := by
    cases invocation.verbose <;> decide
  rw [Invocation.items, Command.items]
  simp only [List.map_append, List.map_cons]
  rw [Item.option?]
  exact known.sublist ((flag.append (sublist_options .config)).append
    ((sublist_options .records).append ((sublist_options .criteria).cons_cons (some .query))))

/-- An option with its value is among the items that ask for a command line just if the command line
says so. -/
theorem mem_items_iff {invocation : Invocation} {option : ValueOption} {text : String} :
    .value option text ∈ invocation.items ↔
      (option = .config ∧ invocation.config = some text) ∨
        (option = .records ∧ invocation.command.records? = some text) ∨
        (option = .query ∧ invocation.command.search.query = text) ∨
        (option = .criteria ∧ invocation.command.search.criteria = some text) := by
  have flag : .value option text ∉ (if invocation.verbose then [Item.verbose] else []) := by
    cases invocation.verbose <;> simp
  simp only [Invocation.items, Command.items, List.mem_append, List.mem_cons, List.mem_map,
    Option.mem_toList, Item.value.injEq, flag, false_or]
  cases option <;> simp [eq_comm]

theorem verbose_mem_items_iff {invocation : Invocation} :
    .verbose ∈ invocation.items ↔ invocation.verbose = true := by
  simp [Invocation.items, Command.items]

section

variable {invocation : Invocation} {before after : List Item}

/-- In a layout no option is given twice, on whichever sides of the command. -/
theorem IsLayout.once (layout : IsLayout invocation before after) :
    ((after ++ before).map Item.option?).Nodup := by
  have swapped : ((after ++ before).map Item.option?).Perm ((before ++ after).map Item.option?) :=
    List.perm_append_comm.map _
  rw [swapped.nodup_iff]
  have asked := nodup_options invocation
  rcases layout.complete with whole | whole
  · exact (whole.map _).nodup_iff.2 asked
  · have once := (whole.map Item.option?).nodup_iff.2 asked
    exact (List.nodup_cons.1 once).2

/-- There is nothing but what is asked for. -/
theorem IsLayout.mem_items (layout : IsLayout invocation before after) {item : Item}
    (belongs : item ∈ before ++ after) : item ∈ invocation.items := by
  rcases layout.complete with whole | whole
  · exact whole.subset belongs
  · exact whole.subset (List.mem_cons_of_mem _ belongs)

/-- There is all that is asked for, but for an empty query. -/
theorem IsLayout.mem_iff (layout : IsLayout invocation before after) (item : Item)
    (needed : item ≠ .value .query "") : item ∈ after ++ before ↔ item ∈ invocation.items := by
  rw [List.perm_append_comm.mem_iff]
  rcases layout.complete with whole | whole
  · exact whole.mem_iff
  · rw [← whole.mem_iff, List.mem_cons, or_iff_right needed]

/-- What is asked for may stand after the command. -/
theorem fits_of_mem_items (paths : ∀ path ∈ invocation.paths, path ≠ "") {item : Item}
    (belongs : item ∈ invocation.items) : item.Fits invocation.command.place := by
  cases item with
  | verbose => trivial
  | value option text =>
    rw [mem_items_iff] at belongs
    rcases belongs with ⟨rfl, path⟩ | ⟨rfl, path⟩ | ⟨rfl, -⟩ | ⟨rfl, -⟩
    · exact ⟨by cases invocation.command <;> rfl,
        fun _ => paths text (by simp [Invocation.paths, path])⟩
    · cases command : invocation.command with
      | explain search =>
        rw [command] at path
        cases path
      | filter search records =>
        rw [command] at path
        obtain rfl := Option.some.inj path
        exact ⟨rfl, fun _ => paths records (by simp [Invocation.paths, command])⟩
    · exact ⟨by cases invocation.command <;> rfl, by simp [ValueOption.isPath]⟩
    · exact ⟨by cases invocation.command <;> rfl, by simp [ValueOption.isPath]⟩

theorem IsLayout.fits_of_mem_before (layout : IsLayout invocation before after)
    (paths : ∀ path ∈ invocation.paths, path ≠ "") {item : Item} (belongs : item ∈ before) :
    item.Fits .beforeCommand := by
  have fits := fits_of_mem_items paths (layout.mem_items (List.mem_append_left after belongs))
  cases item with
  | verbose => trivial
  | value option text =>
    obtain other | general := layout.general _ belongs
    · cases other
    · obtain rfl := Option.some.inj general
      exact ⟨rfl, fits.2⟩

/-! ### What a layout gives -/

/-- Only the settings file may be named before the command. -/
theorem IsLayout.value?_before (layout : IsLayout invocation before after) {option : ValueOption}
    (special : option ≠ .config) : (Given.ofItems before).value? option = none := by
  rw [value?_ofItems_eq_none_iff, mem_options_iff]
  rintro ⟨text, belongs⟩
  obtain other | general := layout.general _ belongs
  · cases other
  · exact special (Option.some.inj general)

/-- The values in both places together are those that are asked for. -/
theorem IsLayout.value?_eq_some_iff (layout : IsLayout invocation before after)
    (option : ValueOption) (text : String) (needed : Item.value option text ≠ .value .query "") :
    ((Given.ofItems after).value? option).or ((Given.ofItems before).value? option) = some text ↔
      .value option text ∈ invocation.items := by
  rw [← value?_ofItems_append, value?_ofItems_eq_some_iff layout.once, layout.mem_iff _ needed]

/-- The settings file is found on either side of the command. -/
theorem IsLayout.config_eq (layout : IsLayout invocation before after) :
    ((Given.ofItems after).value? .config).or ((Given.ofItems before).value? .config) =
      invocation.config := by
  refine Option.ext fun path => ?_
  rw [layout.value?_eq_some_iff .config path (by simp), mem_items_iff]
  simp

theorem IsLayout.verbose_eq (layout : IsLayout invocation before after) :
    ((Given.ofItems before).verbose || (Given.ofItems after).verbose) = invocation.verbose := by
  have asked := (layout.mem_iff .verbose (by simp)).trans verbose_mem_items_iff
  rw [Bool.eq_iff_iff, ← asked, List.mem_append, or_comm]
  simp [Given.ofItems]

theorem IsLayout.criteria_eq (layout : IsLayout invocation before after) :
    (Given.ofItems after).value? .criteria = invocation.command.search.criteria := by
  refine Option.ext fun text => ?_
  have given := layout.value?_eq_some_iff .criteria text (by simp)
  rw [layout.value?_before (by decide), Option.or_none, mem_items_iff] at given
  simpa using given

theorem IsLayout.records_eq (layout : IsLayout invocation before after) :
    (Given.ofItems after).value? .records = invocation.command.records? := by
  refine Option.ext fun path => ?_
  have given := layout.value?_eq_some_iff .records path (by simp)
  rw [layout.value?_before (by decide), Option.or_none, mem_items_iff] at given
  simpa using given

/-- A query that is not given is empty. -/
theorem IsLayout.query_eq (layout : IsLayout invocation before after) :
    ((Given.ofItems after).value? .query).getD "" = invocation.command.search.query := by
  cases found : (Given.ofItems after).value? .query with
  | some text =>
    have belongs := layout.mem_items (List.mem_append_right before (mem_of_value?_ofItems found))
    rw [mem_items_iff] at belongs
    simpa [eq_comm] using belongs
  | none =>
    -- Only an empty query may be left out, and that is also the value of one that is not given.
    by_contra given
    have needed : Item.value .query invocation.command.search.query ≠ .value .query "" :=
      fun same => given (Item.value.inj same).2.symm
    have asked : .value .query invocation.command.search.query ∈ invocation.items := by
      simp [mem_items_iff]
    rw [← layout.value?_eq_some_iff _ _ needed, found, layout.value?_before (by decide)] at asked
    cases asked

end

/-- At the word for a command the reader settles what came before and goes on with the command. -/
theorem readFrom_command {given settled : Given} (settles : given.settle = .ok settled)
    (command : Command) (rest : List String) :
    readFrom given (command.name :: rest) = readCommand given command.place rest := by
  have shaped : shape command.name.toList = .word := by
    cases command with
    | explain _ => exact shape_word (by decide : "explain".toList.head? ≠ some '-')
    | filter _ _ => exact shape_word (by decide : "filter".toList.head? ≠ some '-')
  have other : (command.name == "help") = false := by cases command <;> rfl
  have known : commandPlace? command.name = some command.place := by cases command <;> rfl
  simp only [readFrom, shaped]
  match waits : given.waiting with
  | some (option, none) =>
    rw [Given.settle, waits] at settles
    cases settles
  | some (option, some text) => simp [other, known]
  | none => simp [other, known]

/-- The values of the options make the command they were taken from. -/
theorem commandOf_eq {command : Command} {given : Given}
    (query : (given.value? .query).getD "" = command.search.query)
    (criteria : given.value? .criteria = command.search.criteria)
    (records : given.value? .records = command.records?) :
    commandOf command.place given = .ok command := by
  cases command with
  | explain search => simp [commandOf, Command.place, query, criteria, Command.search]
  | filter search file =>
    simp [commandOf, Command.place, query, criteria, records, Command.search, Command.records?]

/-- A command line is made of what was given on both sides of its command. -/
theorem readCommand_eq {before settled after : Given} {place : Place} {arguments : List String}
    {command : Command} (read : readAfterCommand place .nothing arguments = .ok after)
    (made : commandOf place after = .ok command) (settles : before.settle = .ok settled) :
    readCommand before place arguments =
      .ok ⟨(after.value? .config).or (settled.value? .config), settled.verbose || after.verbose,
        command⟩ := by
  simp only [readCommand, bind_eq_ok_iff]
  exact ⟨after, read, command, made, settled, settles, rfl⟩

/-- Every layout of what is asked for is read as that, with each value exactly as it is: an attached
one may be any text, and one that is the next argument any text that does not start with a hyphen.
Only paths must not be empty. -/
theorem parse_layout {invocation : Invocation} (paths : ∀ path ∈ invocation.paths, path ≠ "")
    {before after : List Item} (layout : IsLayout invocation before after)
    {first last : List String} (writesBefore : WritesEach before first)
    (writesAfter : WritesEach after last) :
    parse (first ++ invocation.command.name :: last) = .ok invocation := by
  have nothing : Given.nothing.settle = .ok (.ofItems []) := rfl
  have once := layout.once
  rw [List.map_append] at once
  obtain ⟨given, settles, reads⟩ := readsArguments_before.exists_given_of_each nothing
    once.of_append_right (fun _ => layout.fits_of_mem_before paths) writesBefore
  have fits : ∀ item ∈ after, item.Fits invocation.command.place := fun item belongs =>
    fits_of_mem_items paths (layout.mem_items (List.mem_append_right before belongs))
  obtain ⟨given', settles', reads'⟩ := (readsArguments_after
    invocation.command.place).exists_given_of_each nothing once.of_append_left fits writesAfter
  have readLast :
      readAfterCommand invocation.command.place .nothing last = .ok (.ofItems after) := by
    have whole := reads' []
    rw [List.append_nil] at whole
    rw [whole, readAfterCommand, settles', List.nil_append]
  have command := commandOf_eq layout.query_eq layout.criteria_eq layout.records_eq
  rw [parse, reads, readFrom_command settles, readCommand_eq readLast command settles,
    List.nil_append, layout.config_eq, layout.verbose_eq]

/-- The word for a command as a path, criteria that look like an option, and no query. -/
theorem parse_layout_homes :
    let invocation : Invocation :=
      ⟨some "filter", true, .filter ⟨"", some "--query=\"a=b\""⟩ "homes.json"⟩
    (∀ path ∈ invocation.paths, path ≠ "") ∧
      IsLayout invocation [.verbose] [.value .records "homes.json",
        .value .criteria "--query=\"a=b\"", .value .config "filter"] ∧
      parse ["-v", "filter", "--records", "homes.json", "--criteria=--query=\"a=b\"", "--config",
        "filter"] = .ok invocation := by
  intro invocation
  have paths : ∀ path ∈ invocation.paths, path ≠ "" := by decide
  have layout : IsLayout invocation [.verbose] [.value .records "homes.json",
      .value .criteria "--query=\"a=b\"", .value .config "filter"] :=
    ⟨.inr (by decide), by simp⟩
  have before : WritesEach [.verbose] ["-v"] := .cons .verbose .nil
  have after : WritesEach [.value .records "homes.json", .value .criteria "--query=\"a=b\"",
      .value .config "filter"] ["--records", "homes.json", "--criteria=--query=\"a=b\"", "--config",
        "filter"] :=
    .cons (.separate .records (by decide)) <| .cons (.attached .criteria "--query=\"a=b\"") <|
      .cons (.separate .config (by decide)) .nil
  exact ⟨paths, layout, parse_layout paths layout before after⟩

end EstateSearch.CommandLine
