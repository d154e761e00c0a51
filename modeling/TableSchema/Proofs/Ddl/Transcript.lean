import TableSchema.Ddl.Transcript

/-!
# What a run of several parts yields

The outcome, the fault and the events of a run are put together from those of its parts, up to the
first part with a fault.

## Main results

* `Transcript.outcome_append_eq_ok_iff` — two runs, one after the other, both have to succeed.
* `Transcript.outcome_append_of_outcome_eq_ok`, `Transcript.notices_append_of_outcome_eq_ok` — what
  a run adds to one that has succeeded.
* `Transcript.fault_concat_ne` — what is no fault of any part is none of the whole.
* `Transcript.forall_mem_events_concat` — what holds of the events of every part.
-/

namespace TableSchema.Transcript

@[simp] theorem events_event (e : Event) : (event e).events = [e] := rfl

@[simp] theorem events_failed (f : Fault) : (failed f).events = [] := rfl

@[simp] theorem outcome_empty : empty.outcome = .ok [] := rfl

@[simp] theorem outcome_failed (f : Fault) : (failed f).outcome = .error f := rfl

@[simp] theorem outcome_event (e : Event) : (event e).outcome = .ok e.table?.toList := by
  cases e <;> rfl

/-- Both of two runs, one after the other, have to succeed. -/
theorem outcome_append_eq_ok_iff {a b : Transcript} {tables : List TableDraft} :
    (a ++ b).outcome = .ok tables ↔
      ∃ xs ys, a.outcome = .ok xs ∧ b.outcome = .ok ys ∧ tables = xs ++ ys := by
  cases a with
  | mk es f =>
    cases b with
    | mk es' f' =>
      cases f <;> cases f' <;>
        simp [append_def, append, outcome, Transcript.tables, eq_comm]

/-- A run with a fault hides what follows. -/
theorem append_of_outcome_eq_error {a : Transcript} {f : Fault} (h : a.outcome = .error f)
    (b : Transcript) : a ++ b = a := by
  cases a with
  | mk es g =>
    cases g with
    | none => simp [outcome] at h
    | some g => rfl

theorem append_of_outcome_eq_ok {a : Transcript} {tables : List TableDraft}
    (h : a.outcome = .ok tables) (b : Transcript) :
    a.tables = tables ∧ a ++ b = ⟨a.events ++ b.events, b.fault⟩ := by
  cases a with
  | mk es g =>
    cases g with
    | none => exact ⟨Except.ok.inj h, rfl⟩
    | some g => simp [outcome] at h

/-- Behind a run without a fault, the tables of the next follow unless that has one. -/
theorem outcome_append_of_outcome_eq_ok {a : Transcript} {tables : List TableDraft}
    (h : a.outcome = .ok tables) (b : Transcript) :
    (a ++ b).outcome = b.outcome.map (tables ++ ·) := by
  obtain ⟨rfl, hab⟩ := append_of_outcome_eq_ok h b
  cases b with
  | mk es f => cases f <;> simp [hab, outcome, Transcript.tables, Except.map]

/-- Of the second of two runs, only the outcome matters for that of both. -/
theorem outcome_append_congr (a : Transcript) {b c : Transcript} (h : b.outcome = c.outcome) :
    (a ++ b).outcome = (a ++ c).outcome := by
  cases ha : a.outcome with
  | error f => rw [append_of_outcome_eq_error ha, append_of_outcome_eq_error ha]
  | ok tables =>
    rw [outcome_append_of_outcome_eq_ok ha, outcome_append_of_outcome_eq_ok ha, h]

/-- Behind a run without a fault, the notices of the next follow. -/
theorem notices_append_of_outcome_eq_ok {a : Transcript} {tables : List TableDraft}
    (h : a.outcome = .ok tables) (b : Transcript) : (a ++ b).notices = a.notices ++ b.notices := by
  obtain ⟨-, hab⟩ := append_of_outcome_eq_ok h b
  rw [hab, notices, List.filterMap_append, ← notices, ← notices]

/-- Steps that declare no table leave the outcome to what follows. -/
theorem outcome_mk_append {es : List Event} (h : ∀ e ∈ es, e.table? = none) (t : Transcript) :
    (Transcript.mk es none ++ t).outcome = t.outcome := by
  have htables : es.filterMap Event.table? = [] := List.filterMap_eq_nil_iff.mpr h
  cases t with
  | mk es' f => cases f <;> simp [append_def, append, outcome, tables, htables]

/-- The first of two runs with a fault decides what the fault is. -/
theorem fault_append (a b : Transcript) : (a ++ b).fault = a.fault.or b.fault := by
  cases a with
  | mk es f => cases f <;> rfl

/-- What is not a fault of any part is no fault of the whole. -/
theorem fault_concat_ne {f : Fault} {ts : List Transcript} (h : ∀ t ∈ ts, t.fault ≠ some f) :
    (concat ts).fault ≠ some f := by
  induction ts with
  | nil => simp [empty]
  | cons t ts ih =>
    obtain ⟨ht, hts⟩ := List.forall_mem_cons.mp h
    rw [concat_cons, fault_append]
    cases hf : t.fault with
    | none => exact ih hts
    | some g =>
      rw [hf] at ht
      exact ht

/-! ### Events -/

theorem mem_events_append {a b : Transcript} {e : Event} (h : e ∈ (a ++ b).events) :
    e ∈ a.events ∨ e ∈ b.events := by
  cases a with
  | mk es f =>
    cases f with
    | none => exact List.mem_append.mp h
    | some f => exact .inl h

/-- What holds of the events of every part holds of all events. -/
theorem forall_mem_events_concat {P : Event → Prop} {ts : List Transcript}
    (h : ∀ t ∈ ts, ∀ e ∈ t.events, P e) : ∀ e ∈ (concat ts).events, P e := by
  induction ts with
  | nil => simp [empty]
  | cons t ts ih =>
    obtain ⟨ht, hts⟩ := List.forall_mem_cons.mp h
    intro e he
    rcases mem_events_append he with he | he
    · exact ht e he
    · exact ih hts e he

end TableSchema.Transcript
