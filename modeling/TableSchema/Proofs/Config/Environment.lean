import Mathlib.Data.List.Induction
import Mathlib.Data.Nat.Digits.Defs
import Mathlib.Tactic.Common
import TableSchema.Config.Environment

/-!
# Which variables are understood

A variable that is not set gives the usual value, and one that is set gives what its text means.
For lengths this is a number in decimal digits, for truth values one of two words, for log levels
the text itself, and for output formats their name.  The settings are those that all variables give;
if one of the texts has no meaning there are none, and the first such variable decides why.

## Main definitions

* `WritesLength t n` — the text `t` is the length `n` in decimal digits.
* `Variables.Gives` — what a variable gives, when it is said what its text means.
* `Config.GivenBy`, `Config.RefusedFor` — the settings that the variables give, and why there are
  none.

## Main results

* `readDigits?_eq_some_iff`, `readLength?_eq_some_iff` — which texts are numbers, and which numbers.
* `Config.ofVariables_eq_ok_iff`, `Config.ofVariables_eq_error_iff` — what the variables give.
* `Config.reads_variables` — **which variables are understood, and what the others lead to.**
-/

namespace TableSchema

/-! ### Numbers -/

/-- The value of a decimal digit. -/
def digitValue (c : Char) : ℕ := c.toNat - '0'.toNat

/-- The number that decimal digits write, the last of them being the ones. -/
def digitsValue (digits : List Char) : ℕ := Nat.ofDigits 10 (digits.reverse.map digitValue)

theorem digitsValue_concat (digits : List Char) (c : Char) :
    digitsValue (digits ++ [c]) = digitsValue digits * 10 + digitValue c := by
  unfold digitsValue
  rw [List.reverse_concat, List.map_cons, Nat.ofDigits_cons, Nat.add_comm, Nat.mul_comm]

theorem readDigits?_concat (t : List Char) (c : Char) :
    readDigits? (t ++ [c]) = (readDigits? t).bind fun n =>
      if '0' ≤ c ∧ c ≤ '9' then some (n * 10 + digitValue c) else none := by
  unfold readDigits?
  rw [List.foldl_append]
  rfl

/-- **Which texts are numbers**: those of decimal digits alone. -/
theorem readDigits?_eq_some_iff {t : List Char} {n : ℕ} :
    readDigits? t = some n ↔ (∀ c ∈ t, '0' ≤ c ∧ c ≤ '9') ∧ digitsValue t = n := by
  -- the reading goes from the front, but a further digit at the end is what changes the number
  induction t using List.reverseRecOn generalizing n with
  | nil => simp [readDigits?, digitsValue]
  | append_singleton t c ih =>
    rw [readDigits?_concat, digitsValue_concat, Option.bind_eq_some_iff]
    simp only [ih, List.forall_mem_append, List.forall_mem_singleton]
    constructor
    · rintro ⟨m, ⟨ht, rfl⟩, hc⟩
      rw [Option.ite_none_right_eq_some, Option.some.injEq] at hc
      exact ⟨⟨ht, hc.1⟩, hc.2⟩
    · rintro ⟨⟨ht, hc⟩, hn⟩
      exact ⟨digitsValue t, ⟨ht, rfl⟩, by rw [if_pos hc, hn]⟩

/-- The text is this length in decimal digits.  Zeros may lead, and a plus sign before them. -/
def WritesLength (text : List Char) (n : UInt64) : Prop :=
  ∃ sign digits, text = sign ++ digits ∧ (sign = [] ∨ sign = ['+']) ∧ digits ≠ [] ∧
    (∀ c ∈ digits, '0' ≤ c ∧ c ≤ '9') ∧ digitsValue digits = n.toNat

/-- A plus sign is dropped, and nothing else. -/
theorem exists_eq_append_dropPlus (t : List Char) :
    ∃ sign, (sign = [] ∨ sign = ['+']) ∧ t = sign ++ dropPlus t := by
  rw [dropPlus.eq_def]
  split
  next => exact ⟨['+'], .inr rfl, rfl⟩
  next => exact ⟨[], .inl rfl, rfl⟩

theorem dropPlus_append {sign digits : List Char} (hsign : sign = [] ∨ sign = ['+'])
    (h : ∀ c ∈ digits, '0' ≤ c ∧ c ≤ '9') : dropPlus (sign ++ digits) = digits := by
  rcases hsign with rfl | rfl
  · rw [List.nil_append, dropPlus.eq_def]
    split
    next => exact absurd (h '+' List.mem_cons_self) (by decide)
    next => rfl
  · rfl

/-- **Which texts are lengths.** -/
theorem readLength?_eq_some_iff {t : List Char} {n : UInt64} :
    readLength? t = some n ↔ WritesLength t n := by
  unfold readLength?
  constructor
  · intro h
    split at h
    next => cases h
    next hne =>
      split at h
      next m hm =>
        obtain ⟨hdigits, hvalue⟩ := readDigits?_eq_some_iff.mp hm
        rw [Option.ite_none_right_eq_some, Option.some.injEq] at h
        obtain ⟨hsmall, rfl⟩ := h
        obtain ⟨sign, hsign, ht⟩ := exists_eq_append_dropPlus t
        refine ⟨sign, dropPlus t, ht, hsign, hne, hdigits, ?_⟩
        rw [hvalue, UInt64.toNat_ofNat_of_lt' hsmall]
      next => cases h
  · rintro ⟨sign, digits, rfl, hsign, hne, hdigits, hvalue⟩
    have hread : readDigits? digits = some n.toNat :=
      readDigits?_eq_some_iff.mpr ⟨hdigits, hvalue⟩
    rw [dropPlus_append hsign hdigits, if_neg hne, hread]
    simp only [n.toNat_lt_size, if_true, UInt64.ofNat_toNat]

/-- There is a length for a text of digits unless their number is too large. -/
theorem exists_writesLength_iff {t : List Char} :
    (∃ n, WritesLength t n) ↔ ∃ sign digits, t = sign ++ digits ∧
      (sign = [] ∨ sign = ['+']) ∧ digits ≠ [] ∧ (∀ c ∈ digits, '0' ≤ c ∧ c ≤ '9') ∧
      digitsValue digits < 2 ^ 64 := by
  constructor
  · rintro ⟨n, sign, digits, ht, hsign, hne, hdigits, hvalue⟩
    exact ⟨sign, digits, ht, hsign, hne, hdigits, hvalue ▸ n.toNat_lt⟩
  · rintro ⟨sign, digits, ht, hsign, hne, hdigits, hsmall⟩
    refine ⟨UInt64.ofNat (digitsValue digits), sign, digits, ht, hsign, hne, hdigits, ?_⟩
    rw [UInt64.toNat_ofNat_of_lt' hsmall]

/-! ### Truth values -/

theorem readTruth?_eq_some_iff {text : String} {b : Bool} :
    readTruth? text = some b ↔ text = "true" ∧ b = true ∨ text = "false" ∧ b = false := by
  unfold readTruth?
  by_cases htrue : text = "true"
  · simp [htrue, eq_comm]
  · by_cases hfalse : text = "false"
    · simp [hfalse, eq_comm]
    · simp [htrue, hfalse]

/-! ### Variables -/

namespace Variables

variable {α : Type} {vars : Variables} {name : String} {usual v : α}

/-- What a variable gives, where `Means` says what texts mean: the usual value if it is not set. -/
inductive Gives (vars : Variables) (name : String) (usual : α) (Means : String → α → Prop) :
    α → Prop
  /-- The variable is not set. -/
  | unset (none : vars name = none) : Gives vars name usual Means usual
  /-- The variable has a text with a meaning. -/
  | set {text : String} {v : α} (some : vars name = some text) (means : Means text v) :
    Gives vars name usual Means v

/-- **A variable is read as what it gives**, if its texts are read as what they mean. -/
theorem get_eq_ok_iff {Means : String → α → Prop} {read : String → Except Misconfiguration α}
    (h : ∀ text v, read text = .ok v ↔ Means text v) :
    vars.get name usual read = .ok v ↔ vars.Gives name usual Means v := by
  unfold get
  cases hname : vars name with
  | none =>
    constructor
    · intro hv
      rw [← Except.ok.inj hv]
      exact .unset hname
    · rintro (_ | ⟨htext, -⟩)
      · rfl
      · exact absurd (hname.symm.trans htext) (by simp)
  | some text =>
    constructor
    · intro hv
      exact .set hname ((h text v).mp hv)
    · rintro (hnone | ⟨htext, hmeans⟩)
      · exact absurd (hname.symm.trans hnone) (by simp)
      · obtain rfl := Option.some.inj (hname.symm.trans htext)
        exact (h text v).mpr hmeans

/-- A variable is refused for its text. -/
theorem get_eq_error_iff {read : String → Except Misconfiguration α} {cause : Misconfiguration} :
    vars.get name usual read = .error cause ↔
      ∃ text, vars name = some text ∧ read text = .error cause := by
  unfold get
  cases vars name with
  | none => simp
  | some text => simp

/-- A variable gives something unless it has a text without a meaning. -/
theorem exists_gives_iff {Means : String → α → Prop} :
    (∃ v, vars.Gives name usual Means v) ↔ ∀ text, vars name = some text → ∃ v, Means text v := by
  constructor
  · rintro ⟨v, hnone | ⟨hsome, hmeans⟩⟩ text htext
    · exact absurd (hnone.symm.trans htext) (by simp)
    · obtain rfl := Option.some.inj (hsome.symm.trans htext)
      exact ⟨v, hmeans⟩
  · intro h
    cases hname : vars name with
    | none => exact ⟨usual, .unset hname⟩
    | some text =>
      obtain ⟨v, hmeans⟩ := h text hname
      exact ⟨v, .set hname hmeans⟩

/-- What the variable for the abbreviation length gives. -/
def GivesLength (vars : Variables) : UInt64 → Prop :=
  vars.Gives "DDLSCHEMA_ABBREVIATION_LENGTH" Config.default.abbreviationLength
    fun text n => WritesLength text.toList n

/-- What the variable for strict types gives. -/
def GivesStrictness (vars : Variables) : Bool → Prop :=
  vars.Gives "DDLSCHEMA_STRICT_TYPES" Config.default.strictTypes
    fun text b => text = "true" ∧ b = true ∨ text = "false" ∧ b = false

/-- What the variable for the log level gives; its text is not looked at. -/
def GivesLevel (vars : Variables) : String → Prop :=
  vars.Gives "DDLSCHEMA_LOG_LEVEL" Config.default.logLevel fun text level => level = text

/-- What the variable for the output format gives. -/
def GivesFormat (vars : Variables) : OutputFormat → Prop :=
  vars.Gives "DDLSCHEMA_OUTPUT_FORMAT" Config.default.outputFormat
    fun text format => OutputFormat.ofName text = .ok format

end Variables

theorem lengthOfVariable_eq_ok_iff (text : String) (n : UInt64) :
    lengthOfVariable text = .ok n ↔ WritesLength text.toList n := by
  rw [lengthOfVariable, ← readLength?_eq_some_iff]
  cases readLength? text.toList <;> simp

theorem lengthOfVariable_eq_error_iff {text : String} {cause : Misconfiguration} :
    lengthOfVariable text = .error cause ↔
      (¬ ∃ n, WritesLength text.toList n) ∧ cause = .badLength text := by
  simp only [lengthOfVariable, ← readLength?_eq_some_iff]
  cases readLength? text.toList <;> simp [eq_comm]

theorem strictnessOfVariable_eq_ok_iff (text : String) (b : Bool) :
    strictnessOfVariable text = .ok b ↔ text = "true" ∧ b = true ∨ text = "false" ∧ b = false := by
  rw [strictnessOfVariable, ← readTruth?_eq_some_iff]
  cases readTruth? text <;> simp

theorem strictnessOfVariable_eq_error_iff {text : String} {cause : Misconfiguration} :
    strictnessOfVariable text = .error cause ↔
      text ≠ "true" ∧ text ≠ "false" ∧ cause = .badStrictness text := by
  unfold strictnessOfVariable readTruth?
  by_cases htrue : text = "true"
  · simp [htrue]
  · by_cases hfalse : text = "false"
    · simp [hfalse]
    · simp [htrue, hfalse, eq_comm]

theorem OutputFormat.ofName_eq_error_iff {name : String} {cause : Misconfiguration} :
    ofName name = .error cause ↔ (¬ ∃ format, ofName name = .ok format) ∧
      cause = .unknownFormat (String.ofList (Text.lowerCase name.toList)) := by
  cases hname : ofExactName? (String.ofList (Text.lowerCase name.toList)) with
  | none => simp [ofName, hname, eq_comm]
  | some format => simp [ofName, hname]

/-! ### All variables -/

namespace Config

variable {vars : Variables} {c : Config} {cause : Misconfiguration}

/-- These are the settings that the variables give. -/
structure GivenBy (vars : Variables) (c : Config) : Prop where
  /-- The abbreviation length. -/
  length : vars.GivesLength c.abbreviationLength
  /-- Whether a column of an unlisted type is a fault. -/
  strictness : vars.GivesStrictness c.strictTypes
  /-- The name of the log level. -/
  level : vars.GivesLevel c.logLevel
  /-- How tables are printed. -/
  format : vars.GivesFormat c.outputFormat

/-- Why the variables give no settings: the first whose text has no meaning decides, whatever the
others are. -/
inductive RefusedFor (vars : Variables) : Misconfiguration → Prop
  /-- The text for the abbreviation length is no length. -/
  | length {text : String} (some : vars "DDLSCHEMA_ABBREVIATION_LENGTH" = some text)
    (bad : ¬ ∃ n, WritesLength text.toList n) : RefusedFor vars (.badLength text)
  /-- The text for strict types is no truth value. -/
  | strictness {text : String} {n : UInt64} (length : vars.GivesLength n)
    (some : vars "DDLSCHEMA_STRICT_TYPES" = some text)
    (bad : text ≠ "true" ∧ text ≠ "false") : RefusedFor vars (.badStrictness text)
  /-- The text for the output format is the name of none. -/
  | format {text : String} {n : UInt64} {b : Bool} (length : vars.GivesLength n)
    (strictness : vars.GivesStrictness b)
    (some : vars "DDLSCHEMA_OUTPUT_FORMAT" = some text)
    (bad : ¬ ∃ format, OutputFormat.ofName text = .ok format) :
    RefusedFor vars (.unknownFormat (String.ofList (Text.lowerCase text.toList)))

theorem getLength_eq_ok_iff {n : UInt64} :
    vars.get "DDLSCHEMA_ABBREVIATION_LENGTH" default.abbreviationLength lengthOfVariable = .ok n ↔
      vars.GivesLength n :=
  Variables.get_eq_ok_iff lengthOfVariable_eq_ok_iff

theorem getStrictness_eq_ok_iff {b : Bool} :
    vars.get "DDLSCHEMA_STRICT_TYPES" default.strictTypes strictnessOfVariable = .ok b ↔
      vars.GivesStrictness b :=
  Variables.get_eq_ok_iff strictnessOfVariable_eq_ok_iff

theorem getLevel_eq_ok_iff {level : String} :
    vars.get "DDLSCHEMA_LOG_LEVEL" default.logLevel .ok = .ok level ↔ vars.GivesLevel level := by
  apply Variables.get_eq_ok_iff
  intro text found
  rw [Except.ok.injEq, eq_comm]

theorem getFormat_eq_ok_iff {format : OutputFormat} :
    vars.get "DDLSCHEMA_OUTPUT_FORMAT" default.outputFormat OutputFormat.ofName = .ok format ↔
      vars.GivesFormat format := by
  apply Variables.get_eq_ok_iff
  intro text found
  rfl

/-- The variable for the log level is never refused. -/
theorem getLevel_ne_error :
    vars.get "DDLSCHEMA_LOG_LEVEL" default.logLevel .ok ≠ .error cause := by
  intro h
  obtain ⟨text, -, htext⟩ := Variables.get_eq_error_iff.mp h
  cases htext

/-- **The settings are those that all variables give.** -/
theorem ofVariables_eq_ok_iff : ofVariables vars = .ok c ↔ c.GivenBy vars := by
  have hall : c.GivenBy vars ↔ vars.GivesLength c.abbreviationLength ∧
      vars.GivesStrictness c.strictTypes ∧ vars.GivesLevel c.logLevel ∧
      vars.GivesFormat c.outputFormat :=
    ⟨fun h => ⟨h.length, h.strictness, h.level, h.format⟩,
      fun h => ⟨h.1, h.2.1, h.2.2.1, h.2.2.2⟩⟩
  rw [hall, ← getLength_eq_ok_iff, ← getStrictness_eq_ok_iff, ← getLevel_eq_ok_iff,
    ← getFormat_eq_ok_iff, ofVariables]
  -- the variables are read one after the other, and there are settings where none is refused
  cases vars.get "DDLSCHEMA_ABBREVIATION_LENGTH" default.abbreviationLength lengthOfVariable with
  | error cause => simp
  | ok length =>
    cases vars.get "DDLSCHEMA_STRICT_TYPES" default.strictTypes strictnessOfVariable with
    | error cause => simp
    | ok strict =>
      cases vars.get "DDLSCHEMA_LOG_LEVEL" default.logLevel .ok with
      | error cause => simp
      | ok level =>
        cases vars.get "DDLSCHEMA_OUTPUT_FORMAT" default.outputFormat OutputFormat.ofName with
        | error cause => simp
        | ok format =>
          obtain ⟨length', strict', level', format'⟩ := c
          simp

/-- **The first variable whose text has no meaning decides** why there are no settings. -/
theorem ofVariables_eq_error_iff : ofVariables vars = .error cause ↔ RefusedFor vars cause := by
  have hall : RefusedFor vars cause ↔
      vars.get "DDLSCHEMA_ABBREVIATION_LENGTH" default.abbreviationLength lengthOfVariable
        = .error cause ∨
      (∃ n, vars.GivesLength n) ∧
        (vars.get "DDLSCHEMA_STRICT_TYPES" default.strictTypes strictnessOfVariable
          = .error cause ∨
        (∃ b, vars.GivesStrictness b) ∧
          vars.get "DDLSCHEMA_OUTPUT_FORMAT" default.outputFormat OutputFormat.ofName
            = .error cause) := by
    simp only [Variables.get_eq_error_iff, lengthOfVariable_eq_error_iff,
      strictnessOfVariable_eq_error_iff, OutputFormat.ofName_eq_error_iff]
    constructor
    · rintro (⟨htext, hbad⟩ | ⟨hlength, htext, hbad⟩ | ⟨hlength, hstrictness, htext, hbad⟩)
      · exact .inl ⟨_, htext, hbad, rfl⟩
      · exact .inr ⟨⟨_, hlength⟩, .inl ⟨_, htext, hbad.1, hbad.2, rfl⟩⟩
      · exact .inr ⟨⟨_, hlength⟩, .inr ⟨⟨_, hstrictness⟩, _, htext, hbad, rfl⟩⟩
    · rintro (⟨text, htext, hbad, rfl⟩ | ⟨⟨n, hlength⟩,
        ⟨text, htext, htrue, hfalse, rfl⟩ | ⟨⟨b, hstrictness⟩, text, htext, hbad, rfl⟩⟩)
      · exact .length htext hbad
      · exact .strictness hlength htext ⟨htrue, hfalse⟩
      · exact .format hlength hstrictness htext hbad
  simp only [hall, ← getLength_eq_ok_iff, ← getStrictness_eq_ok_iff]
  rw [ofVariables]
  cases vars.get "DDLSCHEMA_ABBREVIATION_LENGTH" default.abbreviationLength lengthOfVariable with
  | error cause' => simp
  | ok length =>
    cases vars.get "DDLSCHEMA_STRICT_TYPES" default.strictTypes strictnessOfVariable with
    | error cause' => simp
    | ok strict =>
      cases hget : vars.get "DDLSCHEMA_LOG_LEVEL" default.logLevel .ok with
      | error cause' => exact absurd hget getLevel_ne_error
      | ok level =>
        cases vars.get "DDLSCHEMA_OUTPUT_FORMAT" default.outputFormat OutputFormat.ofName with
        | error cause' => simp
        | ok format => simp

/-- The variables give settings if each of them gives something; that for the log level does. -/
theorem exists_givenBy_iff : (∃ c : Config, c.GivenBy vars) ↔ (∃ n, vars.GivesLength n) ∧
    (∃ b, vars.GivesStrictness b) ∧ ∃ format, vars.GivesFormat format := by
  constructor
  · rintro ⟨c, hlength, hstrictness, -, hformat⟩
    exact ⟨⟨_, hlength⟩, ⟨_, hstrictness⟩, ⟨_, hformat⟩⟩
  · rintro ⟨⟨n, hlength⟩, ⟨b, hstrictness⟩, ⟨format, hformat⟩⟩
    obtain ⟨level, hlevel⟩ : ∃ level, vars.GivesLevel level := by
      apply Variables.exists_gives_iff.mpr
      intro text _
      exact ⟨text, rfl⟩
    exact ⟨⟨n, b, level, format⟩, hlength, hstrictness, hlevel, hformat⟩

/-- **Which variables are understood, and what the others lead to.**  There are settings if the text
for the abbreviation length, where there is one, is decimal digits, perhaps behind a plus sign, for
a number below `2 ^ 64`; that for strict types is one of two words; and that for the output format
is the name of a format.  The settings are then those that the variables give, the log level
whatever its text is; otherwise the first of the three that is not understood decides the refusal,
whatever the others are. -/
theorem reads_variables (vars : Variables) :
    ((∃ c, ofVariables vars = .ok c) ↔
      (∀ text, vars "DDLSCHEMA_ABBREVIATION_LENGTH" = some text → ∃ sign digits,
        text.toList = sign ++ digits ∧ (sign = [] ∨ sign = ['+']) ∧ digits ≠ [] ∧
          (∀ c ∈ digits, '0' ≤ c ∧ c ≤ '9') ∧ digitsValue digits < 2 ^ 64) ∧
      (∀ text, vars "DDLSCHEMA_STRICT_TYPES" = some text → text = "true" ∨ text = "false") ∧
      ∀ text, vars "DDLSCHEMA_OUTPUT_FORMAT" = some text →
        ∃ format, OutputFormat.ofName text = .ok format) ∧
    (∀ c, ofVariables vars = .ok c ↔ c.GivenBy vars) ∧
    ∀ cause, ofVariables vars = .error cause ↔ RefusedFor vars cause := by
  refine ⟨?_, fun c => ofVariables_eq_ok_iff, fun cause => ofVariables_eq_error_iff⟩
  have htruth : ∀ text : String,
      (∃ b, text = "true" ∧ b = true ∨ text = "false" ∧ b = false) ↔
        text = "true" ∨ text = "false" := by
    intro text
    simp [or_comm]
  simp only [ofVariables_eq_ok_iff, exists_givenBy_iff, Variables.GivesLength,
    Variables.GivesStrictness, Variables.GivesFormat, Variables.exists_gives_iff,
    exists_writesLength_iff, htruth]

/-- A length with leading zeros, and a log level that does not exist. -/
theorem reads_variables_with_leading_zeros :
    let vars : Variables := fun name =>
      if name = "DDLSCHEMA_ABBREVIATION_LENGTH" then some "+0012"
      else if name = "DDLSCHEMA_LOG_LEVEL" then some "LOUD" else none
    GivenBy vars ⟨12, false, "LOUD", .text⟩ ∧
      ofVariables vars = .ok ⟨12, false, "LOUD", .text⟩ := by
  intro vars
  have hdigits : WritesLength "+0012".toList 12 :=
    ⟨['+'], "0012".toList, by decide, .inr rfl, by decide, by simp, by decide⟩
  have hgiven : GivenBy vars ⟨12, false, "LOUD", .text⟩ :=
    ⟨.set rfl hdigits, .unset rfl, .set rfl rfl, .unset rfl⟩
  obtain ⟨-, hok, -⟩ := reads_variables vars
  exact ⟨hgiven, (hok _).mpr hgiven⟩

end Config

end TableSchema
