import Mathlib.Tactic.Common
import TableSchema.Config.Basic

/-!
# Any number of sources

Merging looks at one setting after the other, and the usual values stand in for "nothing is said".
So what is left of several sources is, setting by setting, the last value that is not the usual one,
and it does not matter in which order neighbouring sources are merged.

## Main definitions

* `LastUnusual usual vs v` — `v` is the last of the values `vs` that is not the usual one.
* `Config.overlay` — merging in the form of guards, each with a usual value of its own.
* `Config.MergesTo cs r` — neighbouring sources are merged until `r` is left of `cs`.
* `Config.LastSaid cs r` — each setting of `r` is the last unusual one of `cs`.

## Main results

* `Config.merge_eq_overlay` — the usual values of the guards are the defaults.
* `Config.merge_assoc`, `Config.merge_default`, `Config.default_merge`, `Config.merge_self` —
  merging is an idempotent monoid.
* `Config.mergesTo_iff` — what is left of several sources is what they last say.
* `Config.merges_to_last_said` — **the laws of merging.**
-/

namespace TableSchema

/-! ### One setting -/

section Setting

variable {α : Type} {usual v w : α} {vs ws : List α}

/-- Among values in order, `v` is the last that is not the usual one, and the usual one if there is
no other. -/
def LastUnusual (usual : α) (vs : List α) (v : α) : Prop :=
  (∃ before after, vs = before ++ v :: after ∧ v ≠ usual ∧ ∀ w ∈ after, w = usual) ∨
    (∀ w ∈ vs, w = usual) ∧ v = usual

theorem lastUnusual_nil (usual : α) : LastUnusual usual [] usual :=
  .inr ⟨fun _ h => absurd h List.not_mem_nil, rfl⟩

theorem lastUnusual_singleton (usual v : α) : LastUnusual usual [v] v := by
  by_cases hv : v = usual
  · exact .inr ⟨fun _ h => (List.mem_singleton.mp h).trans hv, hv⟩
  · exact .inl ⟨[], [], rfl, hv, fun _ h => absurd h List.not_mem_nil⟩

variable [DecidableEq α]

/-- **What two lists of values last say** is what the second says, unless it says nothing. -/
theorem LastUnusual.append (hv : LastUnusual usual vs v) (hw : LastUnusual usual ws w) :
    LastUnusual usual (vs ++ ws) (Config.prevail usual v w) := by
  rw [Config.prevail]
  rcases hw with ⟨before, after, rfl, hne, hafter⟩ | ⟨hws, rfl⟩
  · rw [if_neg hne]
    exact .inl ⟨vs ++ before, after, (List.append_assoc ..).symm, hne, hafter⟩
  · rw [if_pos rfl]
    rcases hv with ⟨before, after, rfl, hne, hafter⟩ | ⟨hvs, rfl⟩
    · refine .inl ⟨before, after ++ ws, by simp, hne, ?_⟩
      exact List.forall_mem_append.mpr ⟨hafter, hws⟩
    · exact .inr ⟨List.forall_mem_append.mpr ⟨hvs, hws⟩, rfl⟩

namespace Config

theorem prevail_usual (usual v : α) : prevail usual v usual = v := if_pos rfl

theorem prevail_of_ne (h : w ≠ usual) (v : α) : prevail usual v w = w := if_neg h

theorem usual_prevail (usual v : α) : prevail usual usual v = v := by
  rw [prevail]
  split
  next h => exact h.symm
  next => rfl

theorem prevail_self (usual v : α) : prevail usual v v = v := ite_self v

theorem prevail_assoc (usual u v w : α) :
    prevail usual (prevail usual u v) w = prevail usual u (prevail usual v w) := by
  by_cases hw : w = usual
  · rw [hw, prevail_usual, prevail_usual]
  · rw [prevail_of_ne hw, prevail_of_ne hw, prevail_of_ne hw]

/-- Usual values change nothing. -/
theorem foldl_prevail_of_usual (h : ∀ w ∈ vs, w = usual) (v : α) :
    vs.foldl (prevail usual) v = v := by
  induction vs with
  | nil => rfl
  | cons w vs ih =>
    obtain ⟨rfl, hvs⟩ := List.forall_mem_cons.mp h
    rw [List.foldl_cons, prevail_usual]
    exact ih hvs

end Config

theorem LastUnusual.foldl_eq (h : LastUnusual usual vs v) :
    vs.foldl (Config.prevail usual) usual = v := by
  rcases h with ⟨before, after, rfl, hne, hafter⟩ | ⟨hvs, rfl⟩
  · rw [List.foldl_append, List.foldl_cons, Config.prevail_of_ne hne]
    exact Config.foldl_prevail_of_usual hafter v
  · exact Config.foldl_prevail_of_usual hvs v

theorem LastUnusual.unique (hv : LastUnusual usual vs v) (hw : LastUnusual usual vs w) : v = w :=
  hv.foldl_eq.symm.trans hw.foldl_eq

end Setting

/-! ### Two sources -/

namespace Config

/-- Merging in the form of guards: one setting after the other is taken over from the later source
where that has another value than the one that is written here. -/
def overlay (earlier later : Config) : Config :=
  let c := earlier
  let c :=
    if later.abbreviationLength ≠ 30 then { c with abbreviationLength := later.abbreviationLength }
    else c
  let c := if later.strictTypes then { c with strictTypes := true } else c
  let c := if later.logLevel ≠ "info" then { c with logLevel := later.logLevel } else c
  if later.outputFormat ≠ .text then { c with outputFormat := later.outputFormat } else c

/-- **The values in the guards are the defaults**, so merging is the later value wherever it is not
the default. -/
theorem merge_eq_overlay (earlier later : Config) :
    earlier.merge later = earlier.overlay later := by
  obtain ⟨length, strict, level, format⟩ := later
  -- a setting is taken over or not, and either way its guard leaves the others as they are
  by_cases hlength : length = 30 <;> cases strict <;> by_cases hlevel : level = "info" <;>
    by_cases hformat : format = .text <;>
    simp [merge, overlay, prevail, default, hlength, hlevel, hformat]

theorem merge_assoc (a b c : Config) : (a.merge b).merge c = a.merge (b.merge c) := by
  simp only [merge, prevail_assoc]

theorem merge_default (a : Config) : a.merge default = a := by
  simp only [merge, prevail_usual]

theorem default_merge (a : Config) : default.merge a = a := by
  simp only [merge, usual_prevail]

theorem merge_self (a : Config) : a.merge a = a := by
  simp only [merge, prevail_self]

/-! ### Any number of sources -/

/-- Neighbouring sources are merged, in whichever order, until one is left.  Of no source, the
default is left. -/
inductive MergesTo : List Config → Config → Prop
  /-- There is no source. -/
  | none : MergesTo [] default
  /-- There is one source. -/
  | one (c : Config) : MergesTo [c] c
  /-- What is left of two neighbouring parts is merged. -/
  | merge {cs ds : List Config} {c d : Config} (left : MergesTo cs c) (right : MergesTo ds d) :
    MergesTo (cs ++ ds) (c.merge d)

/-- Each setting is the last of the sources that is not the default, and the default if there is no
other. -/
structure LastSaid (cs : List Config) (r : Config) : Prop where
  /-- The abbreviation length. -/
  abbreviationLength :
    LastUnusual default.abbreviationLength (cs.map (·.abbreviationLength)) r.abbreviationLength
  /-- Whether a column of an unlisted type is a fault. -/
  strictTypes : LastUnusual default.strictTypes (cs.map (·.strictTypes)) r.strictTypes
  /-- The name of the log level. -/
  logLevel : LastUnusual default.logLevel (cs.map (·.logLevel)) r.logLevel
  /-- How tables are printed. -/
  outputFormat : LastUnusual default.outputFormat (cs.map (·.outputFormat)) r.outputFormat

variable {cs ds : List Config} {c d r : Config}

theorem lastSaid_nil : LastSaid [] default :=
  ⟨lastUnusual_nil _, lastUnusual_nil _, lastUnusual_nil _, lastUnusual_nil _⟩

theorem lastSaid_singleton (c : Config) : LastSaid [c] c :=
  ⟨lastUnusual_singleton _ _, lastUnusual_singleton _ _, lastUnusual_singleton _ _,
    lastUnusual_singleton _ _⟩

/-- **Merging keeps track of what was last said.** -/
theorem LastSaid.merge (hc : LastSaid cs c) (hd : LastSaid ds d) :
    LastSaid (cs ++ ds) (c.merge d) where
  abbreviationLength := List.map_append ▸ hc.abbreviationLength.append hd.abbreviationLength
  strictTypes := List.map_append ▸ hc.strictTypes.append hd.strictTypes
  logLevel := List.map_append ▸ hc.logLevel.append hd.logLevel
  outputFormat := List.map_append ▸ hc.outputFormat.append hd.outputFormat

theorem LastSaid.unique (hc : LastSaid cs c) (hd : LastSaid cs d) : c = d := by
  obtain ⟨length, strict, level, format⟩ := c
  obtain ⟨length', strict', level', format'⟩ := d
  rw [mk.injEq]
  exact ⟨hc.abbreviationLength.unique hd.abbreviationLength, hc.strictTypes.unique hd.strictTypes,
    hc.logLevel.unique hd.logLevel, hc.outputFormat.unique hd.outputFormat⟩

theorem MergesTo.lastSaid (h : MergesTo cs r) : LastSaid cs r := by
  induction h with
  | none => exact lastSaid_nil
  | one c => exact lastSaid_singleton c
  | merge _ _ ihc ihd => exact ihc.merge ihd

/-- Each further source may be merged into what is left of those before it. -/
theorem MergesTo.foldl (h : MergesTo cs c) (ds : List Config) :
    MergesTo (cs ++ ds) (ds.foldl Config.merge c) := by
  induction ds generalizing cs c with
  | nil => rwa [List.append_nil]
  | cons d ds ih =>
    rw [List.append_cons]
    exact ih (h.merge (.one d))

theorem mergesTo_foldl (cs : List Config) : MergesTo cs (cs.foldl Config.merge default) :=
  MergesTo.none.foldl cs

/-- **What is left of several sources is what they last say**, in whichever order neighbours are
merged. -/
theorem mergesTo_iff : MergesTo cs r ↔ LastSaid cs r := by
  constructor
  · exact MergesTo.lastSaid
  · intro h
    rw [h.unique (mergesTo_foldl cs).lastSaid]
    exact mergesTo_foldl cs

/-- **The laws of merging.**  It is an idempotent monoid with the default as its unit, where what
counts as "nothing is said" in each guard is the default.  Merging any sources in order gives, for
each setting, the last value that is not the default, or the default if there is none; any other
order of merging neighbours gives the same. -/
theorem merges_to_last_said (a b c : Config) (cs : List Config) :
    a.merge b = a.overlay b ∧
    (a.merge b).merge c = a.merge (b.merge c) ∧
    a.merge default = a ∧ default.merge a = a ∧ a.merge a = a ∧
    LastSaid cs (cs.foldl merge default) ∧
    ∀ r, MergesTo cs r ↔ r = cs.foldl merge default := by
  refine ⟨merge_eq_overlay a b, merge_assoc a b c, merge_default a, default_merge a, merge_self a,
    (mergesTo_foldl cs).lastSaid, fun r => ?_⟩
  rw [mergesTo_iff]
  constructor
  · intro h
    exact h.unique (mergesTo_foldl cs).lastSaid
  · rintro rfl
    exact (mergesTo_foldl cs).lastSaid

/-- The last source asks against strict types, for the usual length and for a nameless level. -/
example : [⟨12, true, "debug", .json⟩, ⟨30, false, "", .text⟩].foldl merge default
    = ⟨12, true, "", .json⟩ := by decide

end Config

end TableSchema
