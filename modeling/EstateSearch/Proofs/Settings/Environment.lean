import EstateSearch.Proofs.Decimal.Numeral
import EstateSearch.Proofs.Except
import EstateSearch.Proofs.Text.Words
import EstateSearch.Settings.Environment
import Mathlib.Logic.Function.Basic

/-!
# Settings from any environment

Whatever an environment holds, the settings that it makes can be used (`ofEnvironment_configures`).
Each variable settles one setting: its value if the text of the variable means something, and the
default otherwise. A text that means nothing is reported once (`Settles`).

What texts mean is said here without the readers: `listedWords`, `WritesPattern`, `NamesTermMatch`
and `WritesCount`. A pattern other than the default is read twice, first to be checked and then for
the policy, and the second reading relies on the first.
-/

set_option autoImplicit false

namespace EstateSearch.Settings

open Text

/-! ### What the variables mean -/

/-- The pieces of a text between commas, trimmed and in lowercase, without the empty ones. -/
def listedWords (text : String) : List String :=
  ((text.toList.splitOn ',').map fun piece => String.ofList (lowercase (trim piece))).filter
    (· != "")

/-- The text is a pattern that can be read. -/
def WritesPattern (text pattern : String) : Prop :=
  pattern = text ∧ (Pattern.ofString? text).isSome = true

/-- The text is a name of the way to match terms, in any letter case and with blanks around it. -/
def NamesTermMatch (text : String) : TermMatch → Prop
  | .any => lower (String.ofList (trim text.toList)) ∈ ["any", "or"]
  | .all => lower (String.ofList (trim text.toList)) ∈ ["all", "and"]

/-- The text is a decimal number of 64 bits, with or without a plus sign, with blanks around it. -/
def WritesCount (text : String) (n : Nat) : Prop :=
  ∃ digits : List Decimal.Digit, digits ≠ [] ∧ Decimal.valueOf digits = n ∧ n < UInt64.size ∧
    (trim text.toList = Decimal.spell digits ∨ trim text.toList = '+' :: Decimal.spell digits)

/-- The value that a variable gives a setting, and what is reported about the variable. -/
inductive Settles {α : Type} (means : String → α → Prop) (warning : String → Event → Prop)
    (initial : α) : Option String → α → List Event → Prop
  | unset : Settles means warning initial none initial []
  | valid {text : String} {value : α} (h : means text value) :
      Settles means warning initial (some text) value []
  | invalid {text : String} {event : Event} (h : ∀ value, ¬ means text value)
      (about : warning text event) : Settles means warning initial (some text) initial [event]

section

variable {α : Type} {means : String → α → Prop} {warning : String → Event → Prop} {initial : α}

/-- A reader that accepts what is meant, and warns as it should, settles its variable. -/
theorem settles_setting {read : String → Except Event α}
    (reads : ∀ text value, read text = .ok value ↔ means text value)
    (warns : ∀ text event, read text = .error event → warning text event)
    (given : Option String) :
    Settles means warning initial given (setting initial read given).1
      (setting initial read given).2 := by
  cases given with
  | none => exact .unset
  | some text =>
    rw [setting]
    cases outcome : read text with
    | ok value => exact .valid ((reads text value).1 outcome)
    | error event =>
      refine .invalid (fun value meant => ?_) (warns text event outcome)
      rw [← reads, outcome] at meant
      cases meant

/-- What holds of the default and of all meanings holds of the setting. -/
theorem Settles.value_holds (holds : α → Prop) {given : Option String} {value : α}
    {events : List Event} (h : Settles means warning initial given value events)
    (ofInitial : holds initial) (ofMeaning : ∀ text value, means text value → holds value) :
    holds value := by
  cases h with
  | unset => exact ofInitial
  | valid meant => exact ofMeaning _ _ meant
  | invalid => exact ofInitial

theorem Settles.events_hold (holds : Event → Prop) {given : Option String} {value : α}
    {events : List Event} (h : Settles means warning initial given value events)
    (ofWarning : ∀ text event, warning text event → holds event) :
    ∀ event ∈ events, holds event := by
  cases h with
  | unset => simp
  | valid => simp
  | invalid _ about => simpa using ofWarning _ _ about

end

/-! ### Reading the variables -/

theorem wordList_eq (text : String) : wordList text = listedWords text := by
  simp only [wordList, listedWords, pieces_eq_splitOnP, List.splitOn]
  rw [List.filter_map, List.filter_map, List.map_map]
  refine congrArg _ (List.filter_congr fun piece _ => ?_)
  rw [Function.comp_apply, Function.comp_apply, Bool.eq_iff_iff]
  simp

theorem readShortCode_eq_ok_iff (text pattern : String) :
    readShortCode text = .ok pattern ↔ WritesPattern text pattern := by
  rw [readShortCode]
  split
  · rename_i readable
    exact ⟨fun read => ⟨(Except.ok.inj read).symm, readable⟩, fun writes => by rw [writes.1]⟩
  · rename_i unreadable
    exact iff_of_false nofun fun writes => unreadable writes.2

theorem readTermMatch_eq_ok_iff (text : String) (termMatch : TermMatch) :
    readTermMatch text = .ok termMatch ↔ NamesTermMatch text termMatch := by
  rw [readTermMatch, mapError_eq_ok_iff, TermMatch.ofString]
  split <;> cases termMatch <;> simp_all [NamesTermMatch]

theorem le_foldl_digits (value : Nat) (digits : List Decimal.Digit) :
    value ≤ digits.foldl (fun acc d => acc * 10 + d.val) value := by
  induction digits generalizing value with
  | nil => exact Nat.le_refl _
  | cons d digits ih =>
    rw [List.foldl_cons]
    exact Nat.le_trans (by omega) (ih (value * 10 + d.val))

/-- The value only grows from digit to digit, so it is enough to look at the last one. -/
theorem countFrom_eq_ok_iff {value : Nat} (fits : value < UInt64.size) (text : List Char)
    (n : Nat) :
    countFrom value text = .ok n ↔
      ∃ digits : List Decimal.Digit, text = Decimal.spell digits ∧
        digits.foldl (fun acc d => acc * 10 + d.val) value = n ∧ n < UInt64.size := by
  induction text generalizing value with
  | nil =>
    rw [countFrom, Except.ok.injEq]
    constructor
    · rintro rfl
      exact ⟨[], rfl, rfl, fits⟩
    · rintro ⟨digits, empty, total, -⟩
      obtain rfl := List.map_eq_nil_iff.1 empty.symm
      exact total
  | cons c rest ih =>
    rw [countFrom]
    cases read : Decimal.digit? c with
    | none =>
      refine iff_of_false nofun ?_
      rintro ⟨digits, spelled, -⟩
      obtain ⟨d, ds, -, digit, -⟩ := Decimal.cons_eq_spell_iff.1 spelled
      rw [read] at digit
      cases digit
    | some d =>
      dsimp only
      split
      · rename_i next
        rw [ih next]
        constructor
        · rintro ⟨ds, spelled, total, bound⟩
          exact ⟨d :: ds, Decimal.cons_eq_spell_iff.2 ⟨d, ds, rfl, read, spelled⟩, total, bound⟩
        · rintro ⟨digits, spelled, total, bound⟩
          obtain ⟨d', ds, rfl, digit, others⟩ := Decimal.cons_eq_spell_iff.1 spelled
          obtain rfl : d = d' := Option.some.inj (read.symm.trans digit)
          exact ⟨ds, others, total, bound⟩
      · -- The value is too large already, and further digits do not make it smaller.
        rename_i above
        refine iff_of_false nofun ?_
        rintro ⟨digits, spelled, total, bound⟩
        obtain ⟨d', ds, rfl, digit, -⟩ := Decimal.cons_eq_spell_iff.1 spelled
        obtain rfl : d = d' := Option.some.inj (read.symm.trans digit)
        have grown := le_foldl_digits (value * 10 + d.val) ds
        rw [List.foldl_cons] at total
        omega

theorem plus_cons_ne_spell (rest : List Char) (digits : List Decimal.Digit) :
    '+' :: rest ≠ Decimal.spell digits := by
  intro spelled
  obtain ⟨d, ds, -, digit, -⟩ := Decimal.cons_eq_spell_iff.1 spelled
  cases digit

/-- A number that leaves 64 bits on the way does not come back, so only its value counts. -/
theorem count_eq_ok_iff (text : List Char) (n : Nat) :
    count text = .ok n ↔
      ∃ digits : List Decimal.Digit, digits ≠ [] ∧ Decimal.valueOf digits = n ∧ n < UInt64.size ∧
        (text = Decimal.spell digits ∨ text = '+' :: Decimal.spell digits) := by
  have fits : 0 < UInt64.size := by decide
  unfold count
  split
  · refine iff_of_false nofun ?_
    rintro ⟨digits, nonempty, -, -, spelled | spelled⟩
    · exact nonempty (List.map_eq_nil_iff.1 spelled.symm)
    · cases spelled
  · refine iff_of_false nofun ?_
    rintro ⟨digits, nonempty, -, -, spelled | spelled⟩
    · exact plus_cons_ne_spell [] digits spelled
    · exact nonempty (List.map_eq_nil_iff.1 (List.cons.inj spelled).2.symm)
  · rename_i rest more
    rw [countFrom_eq_ok_iff fits]
    constructor
    · rintro ⟨digits, rfl, total, bound⟩
      refine ⟨digits, ?_, total, bound, .inr rfl⟩
      rintro rfl
      exact more rfl
    · rintro ⟨digits, -, total, bound, spelled | spelled⟩
      · exact absurd spelled (plus_cons_ne_spell rest digits)
      · exact ⟨digits, (List.cons.inj spelled).2, total, bound⟩
  · rename_i nonempty noPlus plain
    rw [countFrom_eq_ok_iff fits]
    constructor
    · rintro ⟨digits, rfl, total, bound⟩
      refine ⟨digits, ?_, total, bound, .inl rfl⟩
      rintro rfl
      exact nonempty rfl
    · rintro ⟨digits, -, total, bound, spelled | spelled⟩
      · exact ⟨digits, spelled, total, bound⟩
      · exact absurd spelled (plain _)

/-- A limit is accepted just if it is written as a number of 64 bits. -/
theorem readMaxQueryChars_eq_ok_iff (text : String) (n : Nat) :
    readMaxQueryChars text = .ok n ↔ WritesCount text n := by
  rw [readMaxQueryChars, mapError_eq_ok_iff, count_eq_ok_iff]
  rfl

/-! ### Reporting the variables -/

section

variable {text : String} {event : Event}

theorem warning_of_readShortCode (failed : readShortCode text = .error event) :
    event = .shortCodeIgnored text := by
  rw [readShortCode] at failed
  split at failed
  · cases failed
  · exact (Except.error.inj failed).symm

theorem warning_of_readTermMatch (failed : readTermMatch text = .error event) :
    event = .termMatchIgnored ("Invalid term match policy: " ++ text) := by
  obtain ⟨problem, unknown, rfl⟩ := mapError_eq_error_iff.1 failed
  rw [TermMatch.ofString] at unknown
  split at unknown
  case h_5 =>
    obtain rfl := Except.error.inj unknown
    rfl
  all_goals cases unknown

theorem warning_of_readMaxQueryChars (failed : readMaxQueryChars text = .error event) :
    ∃ problem, event = .maxQueryCharsIgnored text problem := by
  obtain ⟨problem, -, rfl⟩ := mapError_eq_error_iff.1 failed
  exact ⟨problem, rfl⟩

end

/-! ### Usable settings -/

/-- The default pattern is not read again for a policy. The policy is the one that reading it again
would give. -/
theorem termPolicy_eq (settings : Settings) :
    settings.termPolicy = (Pattern.ofString? settings.shortCodePattern).elim
      (.error (.shortCodePattern settings.shortCodePattern))
      fun shortCode => .ok (.ofWords settings.shortWords shortCode) := by
  rw [termPolicy]
  split
  · rename_i default
    have read : Pattern.ofString? defaultShortCode = some defaultPattern :=
      (Option.some_get defaultShortCode_isSome).symm
    rw [default, read, Option.elim_some]
  · cases Pattern.ofString? settings.shortCodePattern <;> rfl

/-- Settings whose pattern can be read make a policy. -/
theorem exists_termPolicy {settings : Settings}
    (readable : (Pattern.ofString? settings.shortCodePattern).isSome = true) :
    ∃ policy, settings.termPolicy = .ok policy := by
  obtain ⟨shortCode, read⟩ := Option.isSome_iff_exists.1 readable
  exact ⟨.ofWords settings.shortWords shortCode, by rw [termPolicy_eq, read]; rfl⟩

/-- The environment makes these settings, and each variable that may be invalid is reported as
given. -/
structure Configures (env : Environment) (settings : Settings)
    (aboutPattern aboutMatch aboutLimit : List Event) : Prop where
  shortWords : settings.shortWords = (env.shortWords.map listedWords).getD initial.shortWords
  shortCodePattern : Settles WritesPattern (fun text event => event = .shortCodeIgnored text)
    initial.shortCodePattern env.shortCodePattern settings.shortCodePattern aboutPattern
  termMatch : Settles NamesTermMatch
    (fun text event => event = .termMatchIgnored ("Invalid term match policy: " ++ text))
    initial.termMatch env.termMatch settings.termMatch aboutMatch
  maxQueryChars : Settles WritesCount
    (fun text event => ∃ problem, event = .maxQueryCharsIgnored text problem)
    initial.maxQueryChars env.maxQueryChars settings.maxQueryChars aboutLimit

/-- Every setting is settled by its own variable. -/
theorem configures_settings (env : Environment) :
    Configures env (ofEnvironment env).1
      (setting initial.shortCodePattern readShortCode env.shortCodePattern).2
      (setting initial.termMatch readTermMatch env.termMatch).2
      (setting initial.maxQueryChars readMaxQueryChars env.maxQueryChars).2 where
  shortWords := by
    have read : wordList = listedWords := funext wordList_eq
    rw [← read]
    rfl
  shortCodePattern :=
    settles_setting readShortCode_eq_ok_iff (fun _ _ => warning_of_readShortCode) _
  termMatch := settles_setting readTermMatch_eq_ok_iff (fun _ _ => warning_of_readTermMatch) _
  maxQueryChars :=
    settles_setting readMaxQueryChars_eq_ok_iff (fun _ _ => warning_of_readMaxQueryChars) _

variable {env : Environment} {settings : Settings} {aboutPattern aboutMatch aboutLimit : List Event}

/-- A pattern that was settled can be read once more. -/
theorem Configures.readable (h : Configures env settings aboutPattern aboutMatch aboutLimit) :
    (Pattern.ofString? settings.shortCodePattern).isSome = true := by
  refine h.shortCodePattern.value_holds (fun pattern => (Pattern.ofString? pattern).isSome = true)
    defaultShortCode_isSome ?_
  rintro text pattern ⟨rfl, readable⟩
  exact readable

/-- All reports about the environment are warnings. -/
theorem Configures.level_eq (h : Configures env settings aboutPattern aboutMatch aboutLimit) :
    ∀ event ∈ aboutPattern ++ aboutMatch ++ aboutLimit, event.level = .warn := by
  intro event belongs
  rw [List.mem_append, List.mem_append] at belongs
  rcases belongs with (pattern | termMatch) | limit
  · exact h.shortCodePattern.events_hold (·.level = .warn) (by rintro _ _ rfl; rfl) event pattern
  · exact h.termMatch.events_hold (·.level = .warn) (by rintro _ _ rfl; rfl) event termMatch
  · exact h.maxQueryChars.events_hold (·.level = .warn) (by rintro _ _ ⟨_, rfl⟩; rfl) event limit

/-- Every environment makes settings, each from its own variable alone, and a policy can be made of
them. The events are warnings, one for each invalid variable and in the order of the variables. -/
theorem ofEnvironment_configures :
    (∀ env, ∃ aboutPattern aboutMatch aboutLimit,
      Configures env (ofEnvironment env).1 aboutPattern aboutMatch aboutLimit ∧
      (ofEnvironment env).2 = aboutPattern ++ aboutMatch ++ aboutLimit ∧
      (∀ event ∈ (ofEnvironment env).2, event.level = .warn) ∧
      ∃ policy, (ofEnvironment env).1.termPolicy = .ok policy) ∧
    Function.FactorsThrough (fun env => (ofEnvironment env).1.shortWords)
      Environment.shortWords ∧
    Function.FactorsThrough (fun env => (ofEnvironment env).1.shortCodePattern)
      Environment.shortCodePattern ∧
    Function.FactorsThrough (fun env => (ofEnvironment env).1.termMatch) Environment.termMatch ∧
    Function.FactorsThrough (fun env => (ofEnvironment env).1.maxQueryChars)
      Environment.maxQueryChars := by
  refine ⟨fun env => ?_, ?_, ?_, ?_, ?_⟩
  · have h := configures_settings env
    exact ⟨_, _, _, h, rfl, h.level_eq, exists_termPolicy h.readable⟩
  · intro env other same
    simp only [ofEnvironment, same]
  · intro env other same
    simp only [ofEnvironment, same]
  · intro env other same
    simp only [ofEnvironment, same]
  · intro env other same
    simp only [ofEnvironment, same]

/-- Three invalid variables, and another environment with the same limit. -/
theorem ofEnvironment_configures_defaults :
    let env : Environment := ⟨some "of, In ,,the", some "([", some "sometimes", some "lots"⟩
    let other : Environment := ⟨none, some "^t", some " OR ", some "lots"⟩
    (.shortCodeIgnored "([" ∈ (ofEnvironment env).2 ∧
        (Event.shortCodeIgnored "([").level = .warn) ∧
      (∃ policy, (ofEnvironment env).1.termPolicy = .ok policy) ∧
      env.maxQueryChars = other.maxQueryChars ∧
      (ofEnvironment env).1.maxQueryChars = (ofEnvironment other).1.maxQueryChars := by
  intro env other
  obtain ⟨aboutPattern, aboutMatch, aboutLimit, -, -, warns, usable⟩ :=
    ofEnvironment_configures.1 env
  have reported : .shortCodeIgnored "([" ∈ (ofEnvironment env).2 := by decide +kernel
  exact ⟨⟨reported, warns _ reported⟩, usable, rfl, ofEnvironment_configures.2.2.2.2 rfl⟩

end EstateSearch.Settings
