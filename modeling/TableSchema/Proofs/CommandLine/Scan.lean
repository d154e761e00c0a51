import Mathlib.Tactic.Common
import TableSchema.CommandLine.Arguments

/-!
# Reading arguments step by step

Arguments are read from the front, and what stands behind a command is left to it.  The log level is
only passed on: no step looks at its value, so another value in its place gives the same reading up
to that value.  Options may stand until two dashes have been read.

## Main definitions

* `Scan.relevel` — what has been read, with other log levels.

## Main results

* `Scan.run_append` — reading in two parts.
* `Scan.run_relevel` — **reading does not look at log levels.**
* `Scan.trailing_of_run` — only two dashes that stand alone end the options.
-/

namespace TableSchema

/-! ### Other log levels -/

/-- The value of an option if log levels are replaced; other values stay. -/
def Param.relevel (f : String → String) : Param → String → String
  | .logLevel, v => f v
  | _, v => v

/-- Two results that a function makes equal are the same refusal, or values that it makes equal. -/
theorem alike_of_map_eq {ε α β : Type} {r r' : Except ε α} {g : α → β} (h : r.map g = r'.map g) :
    (∃ e, r = .error e ∧ r' = .error e) ∨ ∃ a a', r = .ok a ∧ r' = .ok a' ∧ g a = g a' := by
  cases r with
  | error e =>
    cases r' with
    | error e' =>
      cases h
      exact .inl ⟨e, rfl, rfl⟩
    | ok a' => cases h
  | ok a =>
    cases r' with
    | error e' => cases h
    | ok a' => exact .inr ⟨a, a', rfl, rfl, Except.ok.inj h⟩

namespace Scan

/-- What has been read, with other log levels. -/
def relevel (f : String → String) (s : Scan) : Scan :=
  { s with
    settled := s.settled.map fun q => (q.1, q.1.relevel f q.2)
    pending := s.pending.map fun q => (q.1, q.2.map (q.1.relevel f)) }

variable {f : String → String}

@[simp] theorem trailing_relevel (s : Scan) : (s.relevel f).trailing = s.trailing := rfl

@[simp] theorem awaiting_relevel (s : Scan) : (s.relevel f).awaiting = s.awaiting := rfl

@[simp] theorem operandRead_relevel (s : Scan) : (s.relevel f).operandRead = s.operandRead := rfl

theorem value?_relevel (s : Scan) (p : Param) :
    (s.relevel f).value? p = (s.value? p).map (p.relevel f) := by
  have hlookup : ∀ l : List (Param × String),
      (l.map fun q => (q.1, q.1.relevel f q.2)).lookup p = (l.lookup p).map (p.relevel f) := by
    intro l
    induction l with
    | nil => rfl
    | cons q l ih =>
      rw [List.map_cons, List.lookup_cons, List.lookup_cons, ih]
      by_cases hq : p = q.1
      · rw [hq, beq_self_eq_true]
        rfl
      · rw [beq_false_of_ne hq]
  exact hlookup s.settled

theorem settleWith_relevel (s : Scan) (p : Param) (value : Option String) :
    (s.relevel f).settleWith p (value.map (p.relevel f))
      = (s.settleWith p value).map (relevel f) := by
  cases value with
  | none => rfl
  | some v =>
    -- only paths are looked at, and they are no log levels
    have hpath : (p.isPath && decide (p.relevel f v = "")) = (p.isPath && decide (v = "")) := by
      cases p <;> rfl
    simp only [settleWith, Option.map_some, value?_relevel, Option.isSome_map, hpath]
    split
    next => rfl
    next =>
      split
      next => rfl
      next => simp [Except.map, relevel]

theorem settle_relevel (s : Scan) : (s.relevel f).settle = s.settle.map (relevel f) := by
  obtain ⟨settled, pending, awaiting, trailing, operandRead⟩ := s
  cases pending with
  | none => rfl
  | some q => exact settleWith_relevel ⟨settled, none, awaiting, trailing, operandRead⟩ q.1 q.2

/-- Settling an option ends the wait for a value. -/
theorem settleWith_awaiting_relevel (s : Scan) (p : Param) (value : Option String) :
    ((s.relevel f).settleWith p (value.map (p.relevel f))).map
        (fun s => { s with awaiting := false })
      = ((s.settleWith p value).map fun s => { s with awaiting := false }).map (relevel f) := by
  rw [settleWith_relevel]
  cases s.settleWith p value with
  | error e => rfl
  | ok s => rfl

/-- An option without a value is not that for the log level. -/
theorem takeFlag_relevel (s : Scan) {p : Param} (hp : p.takesValue = false) :
    (s.relevel f).takeFlag p = (s.takeFlag p).map (relevel f) := by
  unfold takeFlag
  rw [settle_relevel]
  cases s.settle with
  | error e => rfl
  | ok s =>
    cases p with
    | help => rfl
    | version => rfl
    | strict => exact settleWith_awaiting_relevel s .strict (some "")
    | config => cases hp
    | logLevel => cases hp
    | format => cases hp
    | file => cases hp

theorem takeOpen_relevel (s : Scan) (p : Param) :
    (s.relevel f).takeOpen p = (s.takeOpen p).map (relevel f) := by
  unfold takeOpen
  rw [settle_relevel]
  cases s.settle with
  | error e => rfl
  | ok s => rfl

/-- What follows a step of the reading. -/
def runOn (l : Level) (r : Except Refusal Scan) (args : List String) :
    Except Refusal (Scan × Option (String × List String)) :=
  match r with
  | .error e => .error e
  | .ok s => run l s args

theorem run_cons (l : Level) (s : Scan) (arg : String) (args : List String) :
    run l s (arg :: args) =
      if s.namesCommand l arg then .ok (s, some (arg, args)) else runOn l (s.take l arg) args := rfl

/-- What has been read up to the command, with other log levels. -/
def relevelRead (f : String → String) (q : Scan × Option (String × List String)) :
    Scan × Option (String × List String) :=
  (q.1.relevel f, q.2)

/-- Where two steps read the same up to log levels, so does what follows. -/
theorem runOn_eq_of_map_eq {l : Level} {args : List String} {r r' : Except Refusal Scan}
    (hrun : ∀ s, (run l (s.relevel f) args).map (relevelRead f)
      = (run l s args).map (relevelRead f))
    (h : r.map (relevel f) = r'.map (relevel f)) :
    (runOn l r args).map (relevelRead f) = (runOn l r' args).map (relevelRead f) := by
  rcases alike_of_map_eq h with ⟨e, rfl, rfl⟩ | ⟨s, s', rfl, rfl, hs⟩
  · rfl
  · show (run l s args).map _ = (run l s' args).map _
    rw [← hrun s, ← hrun s', hs]

/-! ### Reading does not look at log levels

A value that is read only now is not replaced yet, so the equations hold once more log levels have
been replaced behind the step: the replacement must not change anything when it is done again. -/

section Idempotent

variable (hf : ∀ v, f (f v) = f v)
include hf

theorem relevel_relevel (s : Scan) : (s.relevel f).relevel f = s.relevel f := by
  have hvalue : ∀ (p : Param) (v : String), p.relevel f (p.relevel f v) = p.relevel f v := by
    intro p v
    cases p with
    | logLevel => exact hf v
    | _ => rfl
  simp only [relevel, List.map_map, Option.map_map, Function.comp_def, hvalue]

theorem map_relevel_relevel (r : Except Refusal Scan) :
    (r.map (relevel f)).map (relevel f) = r.map (relevel f) := by
  cases r with
  | error e => rfl
  | ok s => exact congrArg Except.ok (relevel_relevel hf s)

theorem takeAttached_relevel (s : Scan) (p : Param) (value : List Char) :
    ((s.relevel f).takeAttached p value).map (relevel f)
      = (s.takeAttached p value).map (relevel f) := by
  unfold takeAttached
  rw [settle_relevel]
  cases s.settle with
  | error e => rfl
  | ok s =>
    show (((s.relevel f).settleWith p _).map _).map (relevel f) = _
    rw [← settleWith_awaiting_relevel, ← settleWith_awaiting_relevel, relevel_relevel hf]

theorem takeValue_relevel (s : Scan) (value : String) :
    ((s.relevel f).takeValue value).relevel f = (s.takeValue value).relevel f := by
  have hsettled := congrArg settled (relevel_relevel hf s)
  simp only [relevel] at hsettled
  simp only [takeValue, relevel, hsettled, Option.map_map, Function.comp_def, Option.map_some]

theorem takeLong_relevel (l : Level) (s : Scan) (t : List Char) :
    ((s.relevel f).takeLong l t).map (relevel f) = (s.takeLong l t).map (relevel f) := by
  unfold takeLong
  cases l.withName? (t.takeWhile (· ≠ '=')) with
  | none => rfl
  | some p =>
    cases hp : p.takesValue with
    | true =>
      cases t.dropWhile (· ≠ '=') with
      | nil => simp only [hp, takeOpen_relevel, map_relevel_relevel hf]
      | cons c value => simp only [hp, takeAttached_relevel hf]
    | false =>
      cases t.dropWhile (· ≠ '=') with
      | nil => simp only [hp, takeFlag_relevel s hp, map_relevel_relevel hf]
      | cons c value => simp only [hp]

theorem takeShort_relevel (l : Level) (s : Scan) (t : List Char) :
    ((s.relevel f).takeShort l t).map (relevel f) = (s.takeShort l t).map (relevel f) := by
  induction t generalizing s with
  | nil => exact congrArg Except.ok (relevel_relevel hf s)
  | cons c t ih =>
    unfold takeShort
    cases l.withLetter? c with
    | none => rfl
    | some p =>
      cases hp : p.takesValue with
      | true =>
        cases t with
        | nil => simp only [hp, if_true, takeOpen_relevel, map_relevel_relevel hf]
        | cons d t => simp only [hp, if_true, takeAttached_relevel hf]
      | false =>
        simp only [hp, Bool.false_eq_true, if_false, takeFlag_relevel s hp]
        cases s.takeFlag p with
        | error e => rfl
        | ok s => exact ih s

theorem takeOperand_relevel (l : Level) (s : Scan) (arg : String) :
    ((s.relevel f).takeOperand l arg).map (relevel f) = (s.takeOperand l arg).map (relevel f) := by
  unfold takeOperand
  rw [operandRead_relevel, settle_relevel]
  split
  next p _ _ =>
    cases s.settle with
    | error e => rfl
    | ok s =>
      have hsettled := congrArg settled (relevel_relevel hf s)
      simp only [relevel] at hsettled
      simp only [Except.map, relevel, hsettled]
  next => rfl

theorem take_relevel (l : Level) (s : Scan) (arg : String) :
    ((s.relevel f).take l arg).map (relevel f) = (s.take l arg).map (relevel f) := by
  unfold take
  rw [trailing_relevel, awaiting_relevel]
  split
  next => exact takeOperand_relevel hf l s arg
  next =>
    split
    next => exact congrArg Except.ok (relevel_relevel hf { s with trailing := true })
    next => exact takeLong_relevel hf l s _
    next => exact takeShort_relevel hf l s _
    next =>
      split
      next => exact congrArg Except.ok (takeValue_relevel hf s arg)
      next => exact takeOperand_relevel hf l s arg

/-- **Reading does not look at log levels.** -/
theorem run_relevel (l : Level) (s : Scan) (args : List String) :
    (run l (s.relevel f) args).map (relevelRead f) = (run l s args).map (relevelRead f) := by
  induction args generalizing s with
  | nil => exact congrArg (fun s => Except.ok (s, none)) (relevel_relevel hf s)
  | cons arg args ih =>
    have hcommand : (s.relevel f).namesCommand l arg = s.namesCommand l arg := rfl
    rw [run_cons, run_cons, hcommand]
    split
    next => exact congrArg (fun s => Except.ok (s, some (arg, args))) (relevel_relevel hf s)
    next => exact runOn_eq_of_map_eq ih (take_relevel hf l s arg)

end Idempotent

/-! ### Reading in two parts -/

/-- Arguments are read from the front; what stands behind a command is left to it. -/
theorem run_append (l : Level) (s : Scan) (args more : List String) :
    run l s (args ++ more) =
      match run l s args with
      | .error e => .error e
      | .ok (s, none) => run l s more
      | .ok (s, some (name, rest)) => .ok (s, some (name, rest ++ more)) := by
  induction args generalizing s with
  | nil => rfl
  | cons arg args ih =>
    rw [List.cons_append, run, run]
    split
    next => rfl
    next =>
      cases s.take l arg with
      | error e => rfl
      | ok s => exact ih s

/-- What is left to a command stands at the end of the arguments. -/
theorem subset_of_run_eq_ok {l : Level} {s s' : Scan} {args rest : List String} {name : String}
    (h : run l s args = .ok (s', some (name, rest))) : rest ⊆ args := by
  induction args generalizing s with
  | nil => cases h
  | cons arg args ih =>
    unfold run at h
    split at h
    next =>
      cases h
      exact List.subset_cons_self name rest
    next =>
      split at h
      next => cases h
      next s₁ _ => exact List.subset_cons_of_subset arg (ih h)

/-! ### Two dashes -/

section Trailing

variable {l : Level} {s s' : Scan} {p : Param}

theorem trailing_of_settleWith {value : Option String} (h : s.settleWith p value = .ok s') :
    s'.trailing = s.trailing := by
  unfold settleWith at h
  split at h
  next => cases h
  next =>
    split at h
    next => cases h
    next =>
      split at h
      next => cases h
      next =>
        cases h
        rfl

theorem trailing_of_settle (h : s.settle = .ok s') : s'.trailing = s.trailing := by
  unfold settle at h
  split at h
  next =>
    cases h
    rfl
  next => exact (trailing_of_settleWith h).trans rfl

theorem trailing_of_map_settleWith {value : Option String}
    (h : (s.settleWith p value).map (fun s => { s with awaiting := false }) = .ok s') :
    s'.trailing = s.trailing := by
  cases hsettle : s.settleWith p value with
  | error e =>
    rw [hsettle] at h
    cases h
  | ok s₁ =>
    rw [hsettle] at h
    cases h
    show s₁.trailing = s.trailing
    exact trailing_of_settleWith hsettle

theorem trailing_of_takeFlag (h : s.takeFlag p = .ok s') : s'.trailing = s.trailing := by
  unfold takeFlag at h
  split at h
  next => cases h
  next s₁ hsettle =>
    rw [← trailing_of_settle hsettle]
    split at h
    next => cases h
    next => cases h
    next => exact trailing_of_map_settleWith h

theorem trailing_of_takeAttached {value : List Char} (h : s.takeAttached p value = .ok s') :
    s'.trailing = s.trailing := by
  unfold takeAttached at h
  split at h
  next => cases h
  next s₁ hsettle =>
    rw [← trailing_of_settle hsettle]
    exact trailing_of_map_settleWith h

theorem trailing_of_takeOpen (h : s.takeOpen p = .ok s') : s'.trailing = s.trailing := by
  unfold takeOpen at h
  split at h
  next => cases h
  next s₁ hsettle =>
    cases h
    show s₁.trailing = s.trailing
    exact trailing_of_settle hsettle

theorem trailing_of_takeLong {t : List Char} (h : s.takeLong l t = .ok s') :
    s'.trailing = s.trailing := by
  unfold takeLong at h
  split at h
  next => cases h
  next =>
    split at h
    next => exact trailing_of_takeOpen h
    next => exact trailing_of_takeAttached h
    next => exact trailing_of_takeFlag h
    next => cases h

theorem trailing_of_takeShort {t : List Char} (h : s.takeShort l t = .ok s') :
    s'.trailing = s.trailing := by
  induction t generalizing s with
  | nil =>
    cases h
    rfl
  | cons c t ih =>
    unfold takeShort at h
    split at h
    next => cases h
    next =>
      split at h
      next =>
        split at h
        next => exact trailing_of_takeOpen h
        next => exact trailing_of_takeAttached h
      next =>
        split at h
        next => cases h
        next s₁ hflag => exact (ih h).trans (trailing_of_takeFlag hflag)

theorem trailing_of_takeOperand {arg : String} (h : s.takeOperand l arg = .ok s') :
    s'.trailing = s.trailing := by
  unfold takeOperand at h
  split at h
  next =>
    split at h
    next => cases h
    next s₁ hsettle =>
      cases h
      show s₁.trailing = s.trailing
      exact trailing_of_settle hsettle
  next =>
    split at h
    next => cases h
    next =>
      split at h
      next => cases h
      next => cases h

/-- Only two dashes that stand alone end the options. -/
theorem trailing_of_take {arg : String} (harg : arg ≠ "--") (h : s.take l arg = .ok s') :
    s'.trailing = s.trailing := by
  unfold take at h
  split at h
  next => exact trailing_of_takeOperand h
  next =>
    split at h
    next hdashes => exact absurd (String.toList_inj.mp hdashes) harg
    next => exact trailing_of_takeLong h
    next => exact trailing_of_takeShort h
    next =>
      split at h
      next =>
        cases h
        rfl
      next => exact trailing_of_takeOperand h

theorem trailing_of_run {args : List String} {c : Option (String × List String)}
    (hargs : "--" ∉ args) (h : run l s args = .ok (s', c)) : s'.trailing = s.trailing := by
  induction args generalizing s with
  | nil =>
    cases h
    rfl
  | cons arg args ih =>
    rw [List.mem_cons, not_or] at hargs
    unfold run at h
    split at h
    next =>
      cases h
      rfl
    next =>
      split at h
      next => cases h
      next s₁ htake => exact (ih hargs.2 h).trans (trailing_of_take (Ne.symm hargs.1) htake)

end Trailing

end Scan

end TableSchema
