import TableSchema.Config.Basic
import TableSchema.Proofs.Log.Level
import TableSchema.Proofs.Text.LetterCase

/-!
# Names of formats and levels

The output format and the log level are given by name, in any letter case.  No name of either has a
`k`, so the texts that are accepted are the spellings of the names with ASCII letters, and no other
text of Unicode.

## Main results

* `OutputFormat.ofName_eq_ok_iff` — which texts give which format.
* `isLevel_iff_spells` — which texts give a level.
* `Config.check_eq_ok_iff` — which settings pass the check.
* `Config.accepts_spellings` — **which names are accepted.**
-/

namespace TableSchema

open Text

/-! ### Output formats -/

namespace OutputFormat

theorem ofExactName?_eq_some_iff {name : String} {format : OutputFormat} :
    ofExactName? name = some format ↔ name = format.name := by
  constructor
  · intro h
    rw [ofExactName?] at h
    split at h
    next htext =>
      obtain rfl := Option.some.inj h
      exact htext
    next =>
      split at h
      next hjson =>
        obtain rfl := Option.some.inj h
        exact hjson
      next => cases h
  · rintro rfl
    exact ofExactName?_name format

/-- **A format is given by the spellings of its name.** -/
theorem ofName_eq_ok_iff {text : String} {format : OutputFormat} :
    ofName text = .ok format ↔ Spells format.name.toList text.toList := by
  have hsmall : AllSmall format.name.toList := by cases format <;> decide
  have hkelvin : 'k' ∉ format.name.toList := by cases format <;> decide
  have hexact : ofName text = .ok format ↔
      ofExactName? (String.ofList (lowerCase text.toList)) = some format := by
    cases h : ofExactName? (String.ofList (lowerCase text.toList)) <;> simp [ofName, h]
  rw [hexact, ofExactName?_eq_some_iff, ← String.toList_inj, String.toList_ofList,
    lowerCase_eq_iff_spells hsmall hkelvin]

end OutputFormat

/-! ### Levels -/

/-- The names of the levels, from the least to the most talkative. -/
def levelNames : List String := ["off", "error", "warn", "info", "debug", "trace"]

theorem isLevel_iff_spells {text : String} :
    IsLevel text ↔ ∃ name ∈ levelNames, Spells name.toList text.toList := by
  have hnames : levelNames = Verbosity.named.map Prod.fst := rfl
  simp only [IsLevel, Verbosity.namedBy_iff, hnames, List.mem_map]
  constructor
  · rintro ⟨v, name, hname, htext⟩
    exact ⟨name, ⟨(name, v), hname, rfl⟩, htext⟩
  · rintro ⟨name, ⟨⟨_, v⟩, hname, rfl⟩, htext⟩
    exact ⟨v, _, hname, htext⟩

/-! ### The check -/

namespace Config

theorem check_eq_ok_iff {c : Config} :
    c.check = .ok () ↔ c.abbreviationLength ≠ 0 ∧ IsLevel c.logLevel := by
  unfold check
  rw [isLevel_iff]
  by_cases hlength : c.abbreviationLength = 0
  · simp [hlength]
  · cases Verbosity.ofName? c.logLevel.toList <;> simp [hlength]

/-- The check of a log level is that it spells the name of one. -/
theorem check_eq_ok_iff_spells {c : Config} : c.check = .ok () ↔
    0 < c.abbreviationLength ∧ ∃ name ∈ levelNames, Spells name.toList c.logLevel.toList := by
  rw [check_eq_ok_iff, isLevel_iff_spells, UInt64.pos_iff_ne_zero]

end Config

/-! ### What is never accepted -/

/-- A spelling of small letters has ASCII letters only, no blanks at its ends, and the length of the
name. -/
theorem plain_of_spells {name text : String} (hname : AllSmall name.toList)
    (h : Spells name.toList text.toList) :
    (∀ x ∈ text.toList, x.toNat < 128) ∧ trim text.toList = text.toList ∧
      text.length = name.toList.length := by
  have hletters : ∀ x ∈ text.toList, x.isAlpha = true := fun x hx => h.isAlpha_of_mem hname hx
  have hsolid : Solid text.toList := fun x hx => isBlank_of_isAlpha (hletters x hx)
  refine ⟨fun x hx => ascii_of_isAlpha (hletters x hx), hsolid.trimmed.trim_eq, ?_⟩
  rw [← String.length_toList, h.length_eq]

theorem OutputFormat.plain_of_ofName {text : String} {format : OutputFormat}
    (h : ofName text = .ok format) :
    (∀ x ∈ text.toList, x.toNat < 128) ∧ trim text.toList = text.toList ∧ text.length = 4 := by
  have hname : AllSmall format.name.toList ∧ format.name.toList.length = 4 := by
    cases format <;> decide
  obtain ⟨hascii, htrim, hlength⟩ := plain_of_spells hname.1 (ofName_eq_ok_iff.mp h)
  exact ⟨hascii, htrim, hlength.trans hname.2⟩

theorem Config.plain_of_check {c : Config} (h : c.check = .ok ()) :
    (∀ x ∈ c.logLevel.toList, x.toNat < 128) ∧ trim c.logLevel.toList = c.logLevel.toList ∧
      c.logLevel.length ∈ [3, 4, 5] := by
  have hall : ∀ name ∈ levelNames,
      AllSmall name.toList ∧ name.toList.length ∈ [3, 4, 5] := by
    decide
  obtain ⟨-, name, hname, hspells⟩ := check_eq_ok_iff_spells.mp h
  obtain ⟨hsmall, hlengths⟩ := hall name hname
  obtain ⟨hascii, htrim, hlength⟩ := plain_of_spells hsmall hspells
  exact ⟨hascii, htrim, hlength ▸ hlengths⟩

namespace Config

/-- **Which names are accepted.**  A text gives an output format if it spells `text` or `json`, and
passes the check as a log level if it spells the name of one of the six, always with ASCII letters,
small or capital.  A text with a character outside ASCII, with blanks at its ends or of another
length is refused. -/
theorem accepts_spellings (text : String) (c : Config) :
    (∀ format, OutputFormat.ofName text = .ok format ↔
      format = .text ∧ Spells "text".toList text.toList ∨
        format = .json ∧ Spells "json".toList text.toList) ∧
    (0 < c.abbreviationLength → ({ c with logLevel := text }.check = .ok () ↔
      ∃ name ∈ ["off", "error", "warn", "info", "debug", "trace"],
        Spells name.toList text.toList)) ∧
    ((∃ x ∈ text.toList, 128 ≤ x.toNat) ∨ trim text.toList ≠ text.toList →
      (∀ format, OutputFormat.ofName text ≠ .ok format) ∧
        { c with logLevel := text }.check ≠ .ok ()) ∧
    (text.length ≠ 4 → ∀ format, OutputFormat.ofName text ≠ .ok format) ∧
    (text.length ∉ [3, 4, 5] → { c with logLevel := text }.check ≠ .ok ()) := by
  refine ⟨fun format => ?_, fun hlength => ?_, fun hodd => ⟨fun format h => ?_, fun h => ?_⟩,
    fun hlength format h => ?_, fun hlength h => ?_⟩
  · rw [OutputFormat.ofName_eq_ok_iff]
    cases format <;> simp [OutputFormat.name]
  · rw [check_eq_ok_iff_spells]
    exact and_iff_right hlength
  · obtain ⟨hascii, htrim, -⟩ := OutputFormat.plain_of_ofName h
    rcases hodd with ⟨x, hx, hfar⟩ | hblank
    · exact Nat.not_lt.mpr hfar (hascii x hx)
    · exact hblank htrim
  · obtain ⟨hascii, htrim, -⟩ := plain_of_check h
    rcases hodd with ⟨x, hx, hfar⟩ | hblank
    · exact Nat.not_lt.mpr hfar (hascii x hx)
    · exact hblank htrim
  · exact hlength (OutputFormat.plain_of_ofName h).2.2
  · exact hlength (plain_of_check h).2.2

/-- Small letters and capitals are mixed.  The dotted capital of `i` is refused, although its
lower-case form starts with that letter, and so is a longer word for a level. -/
theorem accepts_mixed_letters :
    (0 < default.abbreviationLength ∧ { default with logLevel := "deBUG" }.check = .ok ()) ∧
      OutputFormat.ofName "jSoN" = .ok .json ∧
      ((∃ x ∈ "İnfo".toList, 128 ≤ x.toNat) ∧
        { default with logLevel := "İnfo" }.check ≠ .ok ()) ∧
      (trim " text".toList ≠ " text".toList ∧ OutputFormat.ofName " text" ≠ .ok .text) ∧
      "warning".length ≠ 4 ∧ OutputFormat.ofName "warning" ≠ .ok .text ∧
      "warning".length ∉ [3, 4, 5] ∧ { default with logLevel := "warning" }.check ≠ .ok () := by
  have hpositive : 0 < default.abbreviationLength := by decide
  have hfar : ∃ x ∈ "İnfo".toList, 128 ≤ x.toNat := ⟨'İ', by decide, by decide⟩
  have hblank : trim " text".toList ≠ " text".toList := by decide
  have hshort : "warning".length ≠ 4 := by decide
  have hlong : "warning".length ∉ [3, 4, 5] := by decide
  obtain ⟨-, hlevel, -⟩ := accepts_spellings "deBUG" default
  obtain ⟨hformat, -⟩ := accepts_spellings "jSoN" default
  obtain ⟨-, -, hdotted, -⟩ := accepts_spellings "İnfo" default
  obtain ⟨-, -, hpadded, -⟩ := accepts_spellings " text" default
  obtain ⟨-, -, -, hformats, hlevels⟩ := accepts_spellings "warning" default
  refine ⟨⟨hpositive, (hlevel hpositive).mpr ⟨"debug", by decide, by decide⟩⟩, ?_,
    ⟨hfar, (hdotted (.inl hfar)).2⟩, ⟨hblank, (hpadded (.inr hblank)).1 .text⟩,
    hshort, hformats hshort .text, hlong, hlevels hlong⟩
  exact (hformat .json).mpr (.inr ⟨rfl, by decide⟩)

end Config

end TableSchema
