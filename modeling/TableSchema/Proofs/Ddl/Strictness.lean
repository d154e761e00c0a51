import TableSchema.Proofs.Ddl.Script
import TableSchema.Proofs.Schema.SqlType

/-!
# Strict settings refine lenient ones

Under strict settings the run over a script is the lenient run, stopped where a type is first found
unlisted.  So strict settings never accept anything else than lenient ones, and where they refuse
more, the lenient log says why.

## Main definitions

* `Transcript.cut` — a run stopped at its first unlisted type.
* `LogRecord.unlistedType?` — the type that a record reports as unlisted.

## Main results

* `Transcript.cut_append` — stopping one run after the other.
* `Script.transcript_strict` — the strict run is the lenient one, stopped at its first unlisted
  type.
* `strict_refines_lenient` — **what two fresh sessions answer to the same script.**
-/

namespace TableSchema

open Text

/-- The type that is found unlisted, if that is what happens. -/
def Event.unlisted? : Event → Option String
  | .unrecognized sqlType _ => some sqlType
  | _ => none

/-! ### Stopping at an unlisted type -/

namespace Transcript

/-- The run stopped at its first unlisted type, which becomes its fault. -/
def cut (t : Transcript) : Transcript :=
  match t.events.findSome? Event.unlisted? with
  | none => t
  | some type => ⟨t.events.takeWhile (·.unlisted?.isNone), some (.unknownType type)⟩

theorem cut_of_none {t : Transcript} (h : t.events.findSome? Event.unlisted? = none) :
    t.cut = t := by
  rw [cut, h]

@[simp] theorem cut_empty : empty.cut = empty := rfl

@[simp] theorem cut_failed (f : Fault) : (failed f).cut = failed f := rfl

theorem cut_event {e : Event} (h : e.unlisted? = none) : (event e).cut = event e :=
  cut_of_none (by simp [h])

/-- **Stopping one run after the other**: the second is reached exactly if nothing stops the
first. -/
theorem cut_append (a b : Transcript) : (a ++ b).cut = a.cut ++ b.cut := by
  cases a with
  | mk es f =>
    cases f with
    | some f =>
      -- a fault of the first run hides the second, stopped or not
      have hself : ∀ c : Transcript, Transcript.mk es (some f) ++ c = ⟨es, some f⟩ := fun _ => rfl
      rw [hself, cut]
      cases hfind : es.findSome? Event.unlisted? <;> rfl
    | none =>
      have happ : Transcript.mk es none ++ b = ⟨es ++ b.events, b.fault⟩ := rfl
      rw [happ, cut, cut, cut, List.findSome?_append]
      cases hfind : es.findSome? Event.unlisted? with
      | some type =>
        -- the first run is stopped, and the second not reached
        have htake : (es ++ b.events).takeWhile (·.unlisted?.isNone)
            = es.takeWhile (·.unlisted?.isNone) := by
          obtain ⟨before, e, after, rfl, he, hbefore⟩ := List.findSome?_eq_some_iff.mp hfind
          have hall : ∀ x ∈ before, x.unlisted?.isNone = true := by simpa using hbefore
          rw [List.append_assoc, List.cons_append, List.takeWhile_append_of_pos hall,
            List.takeWhile_append_of_pos hall]
          simp [he]
        simp only [Option.some_or, htake]
        rfl
      | none =>
        have hall : ∀ e ∈ es, e.unlisted?.isNone = true := by
          simpa [List.findSome?_eq_none_iff] using hfind
        simp only [Option.none_or]
        cases b.events.findSome? Event.unlisted? with
        | none => rfl
        | some type =>
          rw [List.takeWhile_append_of_pos hall]
          rfl

theorem cut_concat (ts : List Transcript) : (concat ts).cut = concat (ts.map cut) := by
  induction ts with
  | nil => rfl
  | cons t ts ih => rw [concat_cons, cut_append, ih, List.map_cons, concat_cons]

end Transcript

/-! ### The two runs in step -/

/-- **A column is resolved strictly**, and lenient settings take what is refused for `text`. -/
theorem TableDraft.absorb_column (s : ParseSettings) (d : TableDraft) (name sqlType : List Char) :
    d.absorb s (.column name sqlType) = match SqlType.resolveStrictly sqlType with
      | .ok type => ([], .ok (d.addField (String.ofList name) type))
      | .error fault =>
        if s.strictTypes then ([], .error fault)
        else
          ([.unrecognized (String.ofList sqlType) (String.ofList name)],
            .ok (d.addField (String.ofList name) .text)) := by
  rw [absorb, SqlType.resolveStrictly]
  cases SqlType.lookup sqlType <;> rfl

/-- **Adding a clause under both settings**: either both do the same and no type is found unlisted,
or the lenient settings go on where the strict ones refuse the type. -/
theorem TableDraft.absorb_strict (n : ℕ) (d : TableDraft) (c : Clause) :
    (∃ r, d.absorb ⟨n, true⟩ c = ([], r) ∧ d.absorb ⟨n, false⟩ c = ([], r) ∧
      ∀ type, r ≠ .error (.unknownType type)) ∨
    ∃ type name d', d.absorb ⟨n, true⟩ c = ([], .error (.unknownType type)) ∧
      d.absorb ⟨n, false⟩ c = ([.unrecognized type name], .ok d') := by
  cases c with
  | column name sqlType =>
    rw [absorb_column, absorb_column]
    cases hr : SqlType.resolveStrictly sqlType with
    | ok type => exact .inl ⟨.ok (d.addField (String.ofList name) type), rfl, rfl, by simp⟩
    | error fault =>
      -- only here the settings make a difference
      obtain ⟨-, rfl⟩ := SqlType.resolveStrictly_eq_error_iff.mp hr
      exact .inr ⟨String.ofList sqlType, String.ofList name,
        d.addField (String.ofList name) .text, rfl, rfl⟩
  | key column =>
    cases hk : d.key with
    | none =>
      refine .inl ⟨.ok (d.setKey (String.ofList column)), ?_, ?_, by simp⟩
      · simp [absorb, hk]
      · simp [absorb, hk]
    | some key =>
      refine .inl ⟨.error (.unsupportedKey d.name [key, String.ofList column]), ?_, ?_, by simp⟩
      · simp [absorb, hk]
      · simp [absorb, hk]

namespace Statement

/-- The run over the clauses of a table under strict settings. -/
theorem clausesTranscript_strict (n : ℕ) (table : List Char) (d : TableDraft)
    (ts : List (List Char)) :
    clausesTranscript ⟨n, true⟩ table d ts = (clausesTranscript ⟨n, false⟩ table d ts).cut := by
  induction ts generalizing d with
  | nil => exact (Transcript.cut_event rfl).symm
  | cons t ts ih =>
    rw [clausesTranscript, clausesTranscript]
    cases Clause.read table t with
    | error f => rfl
    | ok c =>
      rcases d.absorb_strict n c with
        ⟨r, hstrict, hlenient, -⟩ | ⟨type, name, d', hstrict, hlenient⟩
      · -- both runs fail here, or go on with the same draft
        simp only [hstrict, hlenient]
        cases r with
        | error f => rfl
        | ok d' =>
          simp only [Transcript.cut_append, ih]
          rfl
      · -- the strict run stops, and what the lenient one does further on is cut off
        simp only [hstrict, hlenient, Transcript.cut_append]
        rfl

theorem createTranscript_strict (n : ℕ) (rest : List Char) :
    createTranscript ⟨n, true⟩ rest = (createTranscript ⟨n, false⟩ rest).cut := by
  rw [createTranscript, createTranscript]
  by_cases hname : word rest = []
  · simp only [hname, if_pos, Transcript.cut_failed]
  · simp only [if_neg hname]
    cases Brackets.round.inside? (afterWord rest) with
    | none => rfl
    | some list => exact clausesTranscript_strict n _ _ _

theorem transcript_strict (n : ℕ) (st : Statement) :
    st.transcript ⟨n, true⟩ = (st.transcript ⟨n, false⟩).cut := by
  cases st with
  | createTable rest => exact createTranscript_strict n rest
  | alterTable rest => rfl
  | other t => rfl

end Statement

/-- **The strict run over a script is the lenient one, stopped at its first unlisted type.** -/
theorem Script.transcript_strict (n : ℕ) (t : List Char) :
    Script.transcript ⟨n, true⟩ t = (Script.transcript ⟨n, false⟩ t).cut := by
  have hmap : (statements t).map (Statement.transcript ⟨n, true⟩)
      = ((statements t).map (Statement.transcript ⟨n, false⟩)).map Transcript.cut := by
    rw [List.map_map]
    exact List.map_congr_left fun st _ => Statement.transcript_strict n st
  rw [Script.transcript, Script.transcript, hmap, Transcript.cut_concat]

/-! ### Faults of a lenient run -/

/-- Reading a clause never finds a type unknown. -/
theorem Clause.read_ne_unknownType (table t : List Char) (type : String) :
    Clause.read table t ≠ .error (.unknownType type) := by
  intro h
  rw [Clause.read] at h
  split at h
  · simp at h
  · split at h
    · rw [Clause.readKey] at h
      split at h
      · simp at h
      · split_ifs at h <;> simp at h
    · simp at h

namespace Statement

theorem clausesTranscript_fault_ne (n : ℕ) (table : List Char) (d : TableDraft)
    (ts : List (List Char)) (type : String) :
    (clausesTranscript ⟨n, false⟩ table d ts).fault ≠ some (.unknownType type) := by
  induction ts generalizing d with
  | nil => simp [clausesTranscript, Transcript.event]
  | cons t ts ih =>
    rw [clausesTranscript]
    cases hread : Clause.read table t with
    | error f =>
      intro h
      obtain rfl := Option.some.inj h
      exact Clause.read_ne_unknownType table t type hread
    | ok c =>
      rcases d.absorb_strict n c with ⟨r, -, hlenient, hr⟩ | ⟨_, _, d', -, hlenient⟩
      · simp only [hlenient]
        cases r with
        | error f =>
          intro h
          obtain rfl := Option.some.inj h
          exact hr type rfl
        | ok d' => exact ih d'
      · simp only [hlenient]
        exact ih d'

/-- A lenient run over a statement never finds a type unknown. -/
theorem transcript_fault_ne (n : ℕ) (st : Statement) (type : String) :
    (st.transcript ⟨n, false⟩).fault ≠ some (.unknownType type) := by
  cases st with
  | alterTable rest => simp [transcript, Transcript.event]
  | other t => simp [transcript, Transcript.event]
  | createTable rest =>
    rw [transcript, createTranscript]
    by_cases hname : word rest = []
    · simp [hname, Transcript.failed]
    · simp only [if_neg hname]
      cases Brackets.round.inside? (afterWord rest) with
      | none => simp [Transcript.failed]
      | some list => exact clausesTranscript_fault_ne n _ _ _ type

end Statement

theorem Script.transcript_fault_ne (n : ℕ) (t : List Char) (type : String) :
    (Script.transcript ⟨n, false⟩ t).fault ≠ some (.unknownType type) := by
  refine Transcript.fault_concat_ne fun r hr => ?_
  obtain ⟨st, -, rfl⟩ := List.mem_map.mp hr
  exact Statement.transcript_fault_ne n st type

/-! ### What the log tells -/

/-- The words in front of the type in a record of an unlisted type. -/
def LogRecord.unlistedWords : List Char := "Unrecognized SQL type '".toList

/-- The type that the record reports as unlisted, read off its message: what follows the words up to
the first blank, without the closing quote. -/
def LogRecord.unlistedType? (r : LogRecord) : Option String :=
  (afterLiteral? LogRecord.unlistedWords r.message.toList).map fun t =>
    String.ofList (word t).dropLast

theorem LogRecord.unlistedType?_of_start {r : LogRecord} {t t' : String}
    (h : r.message = t ++ t') (ht : ∀ l, afterLiteral? unlistedWords (t.toList ++ l) = none) :
    r.unlistedType? = none := by
  rw [unlistedType?, h, String.toList_append, ht, Option.map_none]

/-- The type is read off whatever is said behind it, as long as it has no blanks. -/
theorem LogRecord.unlistedType?_of_words {r : LogRecord} {type behind : String}
    (hsolid : Solid type.toList)
    (h : r.message = "Unrecognized SQL type '" ++ (type ++ ("' for field '" ++ behind))) :
    r.unlistedType? = some type := by
  have hmessage : r.message.toList = unlistedWords ++
      ((type.toList ++ "'".toList) ++ (" for field '".toList ++ behind.toList)) := by
    rw [h, String.toList_append, String.toList_append, String.toList_append, List.append_assoc]
    rfl
  -- the type goes up to the quote, and the quote up to the first blank
  have hquoted : Solid (type.toList ++ "'".toList) := solid_append.mpr ⟨hsolid, by decide⟩
  have hblank : ∀ c ∈ (" for field '".toList ++ behind.toList).head?, isBlank c = true := by
    intro c hc
    obtain rfl := Option.some.inj hc
    rfl
  have hlast : (type.toList ++ "'".toList).dropLast = type.toList := by
    rw [List.dropLast_append_of_ne_nil (by decide)]
    exact List.append_nil _
  rw [unlistedType?, hmessage, afterLiteral?_append, Option.map_some, word_append hquoted hblank,
    hlast, String.ofList_toList]

/-- **The log tells of unlisted types, and of nothing else in these words.** -/
theorem Event.unlistedType?_record {e : Event}
    (h : ∀ type, e.unlisted? = some type → Solid type.toList) :
    e.record?.bind LogRecord.unlistedType? = e.unlisted? := by
  cases e with
  | declared d => rfl
  | noticed notice =>
    cases notice with
    | alterSkipped table =>
      have hm : (Notice.alterSkipped table).message
          = "Ignoring ALTER TABLE for '" ++ (table ++ "'") := String.append_assoc
      exact LogRecord.unlistedType?_of_start hm fun _ => rfl
    | unsupported preview =>
      have hm : (Notice.unsupported preview).message
          = "Unsupported statement skipped: [" ++ (preview ++ "]") := String.append_assoc
      exact LogRecord.unlistedType?_of_start hm fun _ => rfl
  | unrecognized sqlType field =>
    have hm : "Unrecognized SQL type '" ++ sqlType ++ "' for field '" ++ field ++ "', using " ++
        FieldType.text.name = "Unrecognized SQL type '" ++ (sqlType ++ ("' for field '" ++
          (field ++ ("', using " ++ FieldType.text.name)))) := by
      rw [String.append_assoc, String.append_assoc, String.append_assoc, String.append_assoc]
    exact LogRecord.unlistedType?_of_words (h sqlType rfl) hm

/-- Unlisted types are words. -/
theorem Script.solid_of_unlisted {s : ParseSettings} {t : List Char} :
    ∀ e ∈ (Script.transcript s t).events, ∀ type, e.unlisted? = some type → Solid type.toList := by
  refine Transcript.forall_mem_events_concat fun r hr e he type htype => ?_
  obtain ⟨st, -, rfl⟩ := List.mem_map.mp hr
  cases st with
  | createTable rest =>
    rcases mem_events_createTranscript he with ⟨d, rfl⟩ | ⟨w, name, rfl⟩
    · simp [Event.unlisted?] at htype
    · obtain rfl := Option.some.inj htype
      rw [String.toList_ofList]
      exact solid_word w
  | alterTable rest =>
    obtain rfl := List.mem_singleton.mp he
    simp [Event.unlisted?] at htype
  | other w =>
    obtain rfl := List.mem_singleton.mp he
    simp [Event.unlisted?] at htype

theorem Transcript.findSome?_filterMap_record {es : List Event}
    (h : ∀ e ∈ es, ∀ type, e.unlisted? = some type → Solid type.toList) :
    (es.filterMap Event.record?).findSome? LogRecord.unlistedType?
      = es.findSome? Event.unlisted? := by
  induction es with
  | nil => rfl
  | cons e es ih =>
    obtain ⟨he, hes⟩ := List.forall_mem_cons.mp h
    have hrecord := Event.unlistedType?_record he
    rw [List.filterMap_cons, List.findSome?_cons, ← hrecord, ← ih hes]
    cases e.record? with
    | none => rfl
    | some r => rfl

/-- **The first type that the log reports as unlisted is the first that is found so.** -/
theorem Transcript.findSome?_records {t : Transcript}
    (h : ∀ e ∈ t.events, ∀ type, e.unlisted? = some type → Solid type.toList) :
    t.records.findSome? LogRecord.unlistedType? = t.events.findSome? Event.unlisted? := by
  rw [records, List.findSome?_append, findSome?_filterMap_record h]
  cases t.fault with
  | some f => exact Option.or_none
  | none =>
    have hm : t.closing.message
        = "Parsed " ++ (toString t.tables.length ++ " table declaration(s)") := String.append_assoc
    have hclosing : t.closing.unlistedType? = none :=
      LogRecord.unlistedType?_of_start hm fun _ => rfl
    rw [List.findSome?_singleton, hclosing, Option.or_none]

/-! ### Sessions -/

/-- What a fresh session answers to a script. -/
def freshReading (limit : ℕ) (strict : Bool) (script : String) : ReadingReport :=
  ((Session.mk ⟨limit, strict⟩ []).read script).1

/-- The strict answer is that of the lenient run, stopped at its first unlisted type. -/
theorem freshReading_strict (limit : ℕ) (script : String) :
    freshReading limit true script =
      let run := (Script.transcript ⟨limit, false⟩ script.toList).cut
      ⟨run.outcome, run.notices, run.records⟩ := by
  rw [freshReading, Session.read, Script.transcript_strict]

/-- **Strict settings refine lenient ones.**  Two fresh sessions read the same script.  If the
lenient one logs no unlisted type, the strict one answers the same; otherwise the strict one refuses
the first type that is logged, and its notices are the first ones of the other.  No type is unknown
to the lenient session. -/
theorem strict_refines_lenient (limit : ℕ) (script : String) :
    (match (freshReading limit false script).log.findSome? LogRecord.unlistedType? with
      | none => freshReading limit true script = freshReading limit false script
      | some type =>
        (freshReading limit true script).outcome = .error (.unknownType type) ∧
          (freshReading limit true script).notices <+: (freshReading limit false script).notices) ∧
    ∀ type, (freshReading limit false script).outcome ≠ .error (.unknownType type) := by
  have hlenient : freshReading limit false script =
      let run := Script.transcript ⟨limit, false⟩ script.toList
      ⟨run.outcome, run.notices, run.records⟩ := rfl
  have hfirst : (Script.transcript ⟨limit, false⟩ script.toList).records.findSome?
      LogRecord.unlistedType? = _ :=
    Transcript.findSome?_records Script.solid_of_unlisted
  have hfault := Script.transcript_fault_ne limit script.toList
  rw [freshReading_strict, hlenient]
  generalize Script.transcript ⟨limit, false⟩ script.toList = run at hfirst hfault ⊢
  refine ⟨?_, fun type h => ?_⟩
  · simp only [hfirst, Transcript.cut]
    cases run.events.findSome? Event.unlisted? with
    | none => rfl
    | some type => exact ⟨rfl, (List.takeWhile_prefix _).filterMap _⟩
  · simp only [Transcript.outcome] at h
    cases hf : run.fault with
    | none => simp [hf] at h
    | some f =>
      simp only [hf, Except.error.injEq] at h
      exact hfault type (hf.trans (congrArg some h))

end TableSchema
