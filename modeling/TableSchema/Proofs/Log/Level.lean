import Mathlib.Tactic.Common
import TableSchema.Log.Filter
import TableSchema.Proofs.Text.Blank
import TableSchema.Proofs.Text.Cut
import TableSchema.Proofs.Text.LetterCase

/-!
# Levels of the log

A text gives the level whose name is its lower-case form.  These are the spellings of the name,
which consist of letters.  Such a text is also a list of directives, and means the same there:
neither blanks nor the characters with a meaning in lists are letters, so the whole text is one
directive about all records.

## Main definitions

* `Verbosity.NamedBy`, `IsLevel` — which text gives which level, and which texts give one.

## Main results

* `Verbosity.ofName?_eq_some_iff` — levels are found by their names.
* `Verbosity.namedBy_iff` — which texts give which level.
* `FilterSpec.ofText_of_namedBy` — the list that consists of a level.
* `LogFilter.admits_of_namedBy` — **a filter from a level admits the records down to it.**
-/

namespace TableSchema

open Text

/-! ### Names of levels -/

namespace Verbosity

/-- The text is the name of this level, in any letter case. -/
def NamedBy (v : Verbosity) (text : String) : Prop :=
  ∃ name, (name, v) ∈ named ∧ lowerCase text.toList = name.toList

theorem lookup_named_eq_some_iff {name : String} {v : Verbosity} :
    named.lookup name = some v ↔ (name, v) ∈ named := by
  constructor
  · intro h
    obtain ⟨before, after, hnamed, -⟩ := List.lookup_eq_some_iff.mp h
    rw [hnamed]
    exact List.mem_append_right before List.mem_cons_self
  · intro h
    have hall : ∀ p ∈ named, named.lookup p.1 = some p.2 := by decide
    exact hall (name, v) h

/-- **Levels are found by their names.** -/
theorem ofName?_eq_some_iff {text : String} {v : Verbosity} :
    ofName? text.toList = some v ↔ v.NamedBy text := by
  rw [ofName?, lookup_named_eq_some_iff]
  constructor
  · intro h
    exact ⟨_, h, String.toList_ofList.symm⟩
  · rintro ⟨name, hname, htext⟩
    rw [htext, String.ofList_toList]
    exact hname

theorem allSmall_of_named {name : String} {v : Verbosity} (h : (name, v) ∈ named) :
    AllSmall name.toList ∧ 'k' ∉ name.toList := by
  have hall : ∀ p ∈ named, AllSmall p.1.toList ∧ 'k' ∉ p.1.toList := by decide
  exact hall (name, v) h

variable {v : Verbosity} {text : String}

/-- **A level is given by the spellings of its name.** -/
theorem namedBy_iff :
    v.NamedBy text ↔ ∃ name, (name, v) ∈ named ∧ Spells name.toList text.toList := by
  apply exists_congr
  intro name
  apply and_congr_right
  intro hname
  obtain ⟨hsmall, hkelvin⟩ := allSmall_of_named hname
  exact lowerCase_eq_iff_spells hsmall hkelvin

/-- A text with the name of a level consists of letters. -/
theorem NamedBy.isAlpha_of_mem (h : v.NamedBy text) {c : Char} (hc : c ∈ text.toList) :
    c.isAlpha = true := by
  obtain ⟨name, hname, hspells⟩ := namedBy_iff.mp h
  exact hspells.isAlpha_of_mem (allSmall_of_named hname).1 hc

theorem NamedBy.notMem (h : v.NamedBy text) {c : Char} (hletter : c.isAlpha = false) :
    c ∉ text.toList := by
  intro hc
  exact Bool.false_ne_true (hletter.symm.trans (h.isAlpha_of_mem hc))

theorem NamedBy.solid (h : v.NamedBy text) : Solid text.toList :=
  fun _ hc => isBlank_of_isAlpha (h.isAlpha_of_mem hc)

theorem NamedBy.ne_nil (h : v.NamedBy text) : text.toList ≠ [] := by
  obtain ⟨name, hname, htext⟩ := h
  intro hnil
  rw [hnil] at htext
  have hall : ∀ p ∈ named, p.1.toList ≠ [] := by decide
  exact hall (name, v) hname htext.symm

end Verbosity

/-- The text is the name of a level, in any letter case. -/
def IsLevel (text : String) : Prop := ∃ v : Verbosity, v.NamedBy text

theorem isLevel_iff {text : String} :
    IsLevel text ↔ (Verbosity.ofName? text.toList).isSome = true := by
  rw [Option.isSome_iff_exists]
  simp only [IsLevel, Verbosity.ofName?_eq_some_iff]

instance : DecidablePred IsLevel := fun _ => decidable_of_iff _ isLevel_iff.symm

/-- No name of a level could be an option. -/
theorem IsLevel.head?_ne_dash {text : String} (h : IsLevel text) :
    text.toList.head? ≠ some '-' := by
  obtain ⟨v, hv⟩ := h
  intro hhead
  exact hv.notMem (by decide) (List.mem_of_mem_head? hhead)

/-! ### Levels as filters -/

variable {v : Verbosity} {text : String}

/-- **The list that consists of a level** has one directive, which is about all records. -/
theorem FilterSpec.ofText_of_namedBy (h : v.NamedBy text) :
    ofText text.toList = { directives := [⟨none, v⟩] } := by
  have hslash : splitAt '/' text.toList = [text.toList] :=
    splitAt_of_notMem (h.notMem (by decide))
  have hcomma : splitAt ',' text.toList = [text.toList] :=
    splitAt_of_notMem (h.notMem (by decide))
  have hequals : splitAt '=' text.toList = [text.toList] :=
    splitAt_of_notMem (h.notMem (by decide))
  have hdirective : readDirective text.toList = .ok ⟨none, v⟩ := by
    unfold readDirective
    rw [hequals]
    simp only [Verbosity.ofName?_eq_some_iff.mpr h]
  unfold ofText ofList
  rw [hslash]
  simp only [hcomma, List.map_cons, List.map_nil, h.solid.trimmed.trim_eq, List.foldl_cons,
    List.foldl_nil]
  unfold addPart
  rw [if_neg h.ne_nil, hdirective]
  rfl

/-- **A filter from a level admits the records down to it**, whatever their targets. -/
theorem LogFilter.admits_of_namedBy (h : v.NamedBy text) (r : LogRecord) :
    (LogFilter.extend {} (FilterSpec.ofText text.toList)).admits r = v.admits r.severity := by
  rw [FilterSpec.ofText_of_namedBy h]
  have hdirectives : (LogFilter.extend {} { directives := [⟨none, v⟩] }).directives
      = [⟨none, v⟩] := rfl
  have hverbosity : (LogFilter.extend {} { directives := [⟨none, v⟩] }).verbosity r.origin.target
      = v := by
    unfold verbosity
    rw [hdirectives, List.mergeSort_singleton]
    rfl
  unfold admits
  rw [hverbosity]
  exact Bool.and_true _

end TableSchema
