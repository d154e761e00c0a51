import TableSchema.Proofs.CommandLine.Scan

/-!
# Another log level among the arguments

If another value stands in the place of a log level, the arguments are refused for the same reason
or ask for the same, up to that value.  Behind a command the option does not exist, so there it is
refused whatever its value.

## Main definitions

* `SwapsLevel` — arguments with another value for the log level.
* `Invocation.relevel` — what arguments ask for, with another log level.

## Main results

* `Command.ofName_of_swaps` — behind a command the value makes no difference.
* `Invocation.ofArguments_of_swaps` — **another log level changes nothing else.**
-/

namespace TableSchema

/-! ### Another log level -/

/-- Arguments in which the log level is `v`, and the same arguments with `v'`.  The value follows
its option or is attached to it; behind two dashes there are no options. -/
inductive SwapsLevel (v v' : String) : List String → List String → Prop
  /-- The value is an argument of its own. -/
  | apart (before after : List String) :
    SwapsLevel v v' (before ++ "--log-level" :: v :: after) (before ++ "--log-level" :: v' :: after)
  /-- The value is attached to its option. -/
  | attached {before : List String} (options : "--" ∉ before) (after : List String) :
    SwapsLevel v v' (before ++ ("--log-level=" ++ v) :: after)
      (before ++ ("--log-level=" ++ v') :: after)

theorem toList_attachedLevel (v : String) :
    ("--log-level=" ++ v).toList = '-' :: '-' :: ("log-level=".toList ++ v.toList) := by
  rw [String.toList_append]
  rfl

namespace Scan

/-- What starts with a dash names no command. -/
theorem contains_commands_of_dash {l : Level} {arg : String} {t : List Char}
    (h : arg.toList = '-' :: t) : l.commands.contains arg = false := by
  have hall : ∀ l : Level, ∀ c ∈ l.commands, c.toList.head? ≠ some '-' := by
    intro l
    cases l <;> decide
  have harg : arg ∉ l.commands := by
    intro hmem
    apply hall l arg hmem
    rw [h]
    rfl
  simp [harg]

theorem namesCommand_of_dash {l : Level} {arg : String} {t : List Char} (h : arg.toList = '-' :: t)
    (s : Scan) : s.namesCommand l arg = false := by
  unfold namesCommand
  rw [contains_commands_of_dash h, Bool.and_false]

/-! #### Behind a command

There is no option for the log level there, and at most one operand. -/

theorem takeOperand_plain (s : Scan) (arg : String) :
    s.takeOperand .plain arg = .error .unknownArgument := by
  simp [takeOperand, Level.operand?, Level.commands]

theorem takeOperand_of_operandRead {s : Scan} (h : s.operandRead = true) (arg : String) :
    s.takeOperand .parse arg = .error .unknownArgument := by
  simp [takeOperand, Level.commands, h]

theorem takeLong_level_of_command {l : Level} (hl : l ≠ .top) (s : Scan) (v : List Char) :
    s.takeLong l ("log-level".toList) = .error .unknownArgument ∧
      s.takeLong l ("log-level=".toList ++ v) = .error .unknownArgument := by
  cases l with
  | top => exact absurd rfl hl
  | parse => exact ⟨rfl, rfl⟩
  | plain => exact ⟨rfl, rfl⟩

theorem run_of_operandRead {s : Scan} (htrailing : s.trailing = true) (hread : s.operandRead = true)
    (arg : String) (args : List String) :
    run .parse s (arg :: args) = .error .unknownArgument := by
  have htake : s.take .parse arg = .error .unknownArgument := by
    unfold take
    rw [htrailing]
    exact takeOperand_of_operandRead hread arg
  have hcommand : s.namesCommand .parse arg = false := by
    simp [namesCommand, Level.commands]
  rw [run_cons, hcommand, htake]
  rfl

/-- The option is refused, and where it could be an operand its value is one too many. -/
theorem run_level_of_command {l : Level} (hl : l ≠ .top) (s : Scan) (after : List String) :
    ∃ e, ∀ v, run l s ("--log-level" :: v :: after) = .error e := by
  have hdash : s.namesCommand l "--log-level" = false := namesCommand_of_dash rfl s
  simp only [run_cons, hdash, Bool.false_eq_true, if_false]
  cases htrailing : s.trailing with
  | false =>
    have htake : s.take l "--log-level" = .error .unknownArgument := by
      unfold take
      rw [htrailing]
      exact (takeLong_level_of_command hl s []).1
    rw [htake]
    exact ⟨_, fun v => rfl⟩
  | true =>
    have htake : s.take l "--log-level" = s.takeOperand l "--log-level" := by
      unfold take
      rw [htrailing]
      rfl
    rw [htake]
    cases l with
    | top => exact absurd rfl hl
    | plain =>
      rw [takeOperand_plain]
      exact ⟨_, fun v => rfl⟩
    | parse =>
      cases hread : s.operandRead with
      | true =>
        rw [takeOperand_of_operandRead hread]
        exact ⟨_, fun v => rfl⟩
      | false =>
        unfold takeOperand
        rw [hread]
        simp only [Level.operand?]
        cases hsettle : s.settle with
        | error e => exact ⟨e, fun v => rfl⟩
        | ok s₁ =>
          have htrailing₁ : s₁.trailing = true := (trailing_of_settle hsettle).trans htrailing
          refine ⟨.unknownArgument, fun v => ?_⟩
          show run .parse
            { s₁ with pending := some (.file, some "--log-level"), operandRead := true }
            (v :: after) = _
          apply run_of_operandRead
          · exact htrailing₁
          · rfl

/-- The option with its value is refused where options may stand. -/
theorem run_attachedLevel_of_command {l : Level} (hl : l ≠ .top) {s : Scan}
    (hs : s.trailing = false) (v : String) (after : List String) :
    run l s (("--log-level=" ++ v) :: after) = .error .unknownArgument := by
  have htake : s.take l ("--log-level=" ++ v) = .error .unknownArgument := by
    unfold take
    rw [hs, toList_attachedLevel]
    exact (takeLong_level_of_command hl s v.toList).2
  rw [run_cons, namesCommand_of_dash (toList_attachedLevel v), htake]
  rfl

/-- **Behind a command the value makes no difference**: wherever the option stands, the arguments
are refused for the same reason. -/
theorem ofCommand_of_swaps {l : Level} (hl : l ≠ .top) {v v' : String} {args args' : List String}
    (h : SwapsLevel v v' args args') : ofCommand l args = ofCommand l args' := by
  unfold ofCommand
  cases h with
  | apart before after =>
    rw [run_append, run_append]
    cases run l {} before with
    | error e => rfl
    | ok q =>
      obtain ⟨s, _ | ⟨name, rest⟩⟩ := q
      · obtain ⟨e, he⟩ := run_level_of_command hl s after
        simp only [he]
      · -- what stands behind a further command would not be read
        rfl
  | attached options after =>
    rw [run_append, run_append]
    cases hrun : run l {} _ with
    | error e => rfl
    | ok q =>
      obtain ⟨s, _ | ⟨name, rest⟩⟩ := q
      · have hs : s.trailing = false := trailing_of_run options hrun
        simp only [run_attachedLevel_of_command hl hs]
      · rfl

/-! #### Before the command -/

variable {f : String → String}

/-- A value that is awaited is taken unless it could be an option. -/
theorem run_of_awaiting {l : Level} {s : Scan} (htrailing : s.trailing = false)
    (hawaiting : s.awaiting = true) {v : String} (hv : v.toList.head? ≠ some '-')
    (args : List String) : run l s (v :: args) = run l (s.takeValue v) args := by
  have htake : s.take l v = .ok (s.takeValue v) := by
    unfold take
    rw [htrailing, hawaiting]
    split
    next => contradiction
    next =>
      split
      next h => exact absurd (by rw [h]; rfl) hv
      next h => exact absurd (by rw [h]; rfl) hv
      next h => exact absurd (by rw [h]; rfl) hv
      next => rfl
  have hcommand : s.namesCommand l v = false := by
    unfold namesCommand
    rw [hawaiting, Bool.not_true, Bool.and_false, Bool.false_and]
  rw [run_cons, hcommand, htake]
  rfl

/-- Behind two dashes the option and its value are no options, and no operand is allowed. -/
theorem run_top_of_trailing {s : Scan} (hs : s.trailing = true) {arg : String} {t : List Char}
    (harg : arg.toList = '-' :: t) (args : List String) :
    run .top s (arg :: args) = .error .unknownCommand := by
  have htake : s.take .top arg = .error .unknownCommand := by
    unfold take takeOperand
    rw [hs]
    simp only [Level.operand?, contains_commands_of_dash harg]
    rfl
  rw [run_cons, namesCommand_of_dash harg, htake]
  rfl

theorem takeAttached_eq_of_eq {v v' : String} (heq : f v = f v') (s : Scan) :
    (s.takeAttached .logLevel v.toList).map (relevel f)
      = (s.takeAttached .logLevel v'.toList).map (relevel f) := by
  have hvalue : (some v).map (Param.logLevel.relevel f)
      = (some v').map (Param.logLevel.relevel f) := congrArg some heq
  unfold takeAttached
  cases s.settle with
  | error e => rfl
  | ok s =>
    rw [String.ofList_toList, String.ofList_toList]
    show ((s.settleWith _ _).map _).map _ = ((s.settleWith _ _).map _).map _
    rw [← settleWith_awaiting_relevel, ← settleWith_awaiting_relevel, hvalue]

/-- **Before the command the value is passed on.** -/
theorem run_level_of_top (hf : ∀ v, f (f v) = f v) {v v' : String}
    (hv : v.toList.head? ≠ some '-') (hv' : v'.toList.head? ≠ some '-') (heq : f v = f v')
    (s : Scan) (after : List String) :
    (run .top s ("--log-level" :: v :: after)).map (relevelRead f)
      = (run .top s ("--log-level" :: v' :: after)).map (relevelRead f) := by
  cases htrailing : s.trailing with
  | true => rw [run_top_of_trailing htrailing rfl, run_top_of_trailing htrailing rfl]
  | false =>
    have htake : s.take .top "--log-level" = s.takeOpen .logLevel := by
      unfold take
      rw [htrailing]
      rfl
    rw [run_cons, run_cons, namesCommand_of_dash rfl, htake]
    simp only [Bool.false_eq_true, if_false, takeOpen]
    cases hsettle : s.settle with
    | error e => rfl
    | ok s₁ =>
      have htrailing₁ : s₁.trailing = false := (trailing_of_settle hsettle).trans htrailing
      -- the option awaits its value, which is then pending
      let s₂ : Scan := { s₁ with pending := some (.logLevel, none), awaiting := true }
      have hrun : ∀ v : String, v.toList.head? ≠ some '-' →
          run .top s₂ (v :: after) = run .top (s₂.takeValue v) after := by
        intro v hv
        apply run_of_awaiting
        · exact htrailing₁
        · rfl
        · exact hv
      have hvalue : (s₂.takeValue v).relevel f = (s₂.takeValue v').relevel f := by
        simp only [takeValue, relevel, s₂, Option.map_some, Param.relevel, heq]
      show (run .top s₂ (v :: after)).map _ = (run .top s₂ (v' :: after)).map _
      rw [hrun v hv, hrun v' hv', ← run_relevel hf .top (s₂.takeValue v),
        ← run_relevel hf .top (s₂.takeValue v'), hvalue]

theorem run_attachedLevel_of_top (hf : ∀ v, f (f v) = f v) {v v' : String} (heq : f v = f v')
    (s : Scan) (after : List String) :
    (run .top s (("--log-level=" ++ v) :: after)).map (relevelRead f)
      = (run .top s (("--log-level=" ++ v') :: after)).map (relevelRead f) := by
  cases htrailing : s.trailing with
  | true =>
    rw [run_top_of_trailing htrailing (toList_attachedLevel v),
      run_top_of_trailing htrailing (toList_attachedLevel v')]
  | false =>
    have htake : ∀ v, s.take .top ("--log-level=" ++ v) = s.takeAttached .logLevel v.toList := by
      intro v
      unfold take
      rw [htrailing, toList_attachedLevel]
      rfl
    rw [run_cons, run_cons, namesCommand_of_dash (toList_attachedLevel v),
      namesCommand_of_dash (toList_attachedLevel v'), htake, htake]
    exact runOn_eq_of_map_eq (fun s => run_relevel hf .top s after) (takeAttached_eq_of_eq heq s)

end Scan

/-! ### The invocation -/

/-- Behind a command the value makes no difference, not even to the explanation of commands: what
stands there is no name of one. -/
theorem helpRefusal_of_swaps {v v' : String} {args args' : List String}
    (h : SwapsLevel v v' args args') : helpRefusal args = helpRefusal args' := by
  -- two names are too many, and an option is none
  have hseveral : ∀ (x y : String) (args : List String),
      helpRefusal (x :: y :: args) = .unknownCommand := fun x y args => rfl
  have hattached : ∀ v : String, helpRefusal ["--log-level=" ++ v] = .unknownCommand := by
    intro v
    have hname : Level.top.commands.contains ("--log-level=" ++ v) = false :=
      Scan.contains_commands_of_dash (toList_attachedLevel v)
    simp only [helpRefusal, hname, Bool.false_eq_true, if_false]
  cases h with
  | apart before after =>
    cases before with
    | nil => rw [List.nil_append, List.nil_append, hseveral, hseveral]
    | cons x before =>
      cases before with
      | nil => rfl
      | cons y before => rfl
  | attached options after =>
    rename_i before
    cases before with
    | nil =>
      cases after with
      | nil => exact (hattached v).trans (hattached v').symm
      | cons y after => rfl
    | cons x before =>
      cases before with
      | nil => rfl
      | cons y before => rfl

theorem Command.ofName_of_swaps {v v' : String} {args args' : List String}
    (h : SwapsLevel v v' args args') (name : String) : ofName name args = ofName name args' := by
  have hparse : Scan.ofCommand .parse args = Scan.ofCommand .parse args' :=
    Scan.ofCommand_of_swaps (by decide) h
  have hplain : Scan.ofCommand .plain args = Scan.ofCommand .plain args' :=
    Scan.ofCommand_of_swaps (by decide) h
  unfold ofName ofParse
  rw [hparse, hplain, helpRefusal_of_swaps h]

namespace Invocation

/-- What the arguments ask for, with another log level. -/
def relevel (f : String → String) (inv : Invocation) : Invocation :=
  { inv with logLevel := inv.logLevel.map f }

variable {f : String → String}

theorem ofScan_relevel (s : Scan) (command : Option Command) :
    ofScan (s.relevel f) command = (ofScan s command).map (relevel f) := by
  unfold ofScan
  rw [Scan.settle_relevel]
  cases s.settle with
  | error e => rfl
  | ok s =>
    have hconfig : (s.value? .config).map (Param.config.relevel f) = s.value? .config := by
      cases s.value? .config <;> rfl
    simp only [Except.map, Scan.value?_relevel, hconfig]
    rfl

/-- What the arguments ask for, once they have been read up to the command. -/
def ofRead (r : Except Refusal (Scan × Option (String × List String))) :
    Except Refusal Invocation :=
  match r with
  | .error e => .error e
  | .ok (s, none) => ofScan s none
  | .ok (s, some (name, rest)) =>
    match Command.ofName name rest with
    | .error e => .error e
    | .ok command => ofScan s (some command)

theorem ofArguments_eq_ofRead (args : List String) :
    ofArguments args = ofRead (Scan.run .top {} args) := rfl

theorem ofRead_relevel (r : Except Refusal (Scan × Option (String × List String))) :
    ofRead (r.map (Scan.relevelRead f)) = (ofRead r).map (relevel f) := by
  rcases r with e | ⟨s, _ | ⟨name, rest⟩⟩
  · rfl
  · exact ofScan_relevel s none
  · show ofRead (.ok (s.relevel f, some (name, rest))) = _
    unfold ofRead
    cases hname : Command.ofName name rest with
    | error e => simp only [hname]; rfl
    | ok command =>
      simp only [hname]
      exact ofScan_relevel s (some command)

/-- **Another log level changes nothing else**: the arguments are refused for the same reason, or
ask for the same up to the level. -/
theorem ofArguments_of_swaps (hf : ∀ v, f (f v) = f v) {v v' : String}
    (hv : v.toList.head? ≠ some '-') (hv' : v'.toList.head? ≠ some '-') (heq : f v = f v')
    {args args' : List String} (h : SwapsLevel v v' args args') :
    (ofArguments args).map (relevel f) = (ofArguments args').map (relevel f) := by
  rw [ofArguments_eq_ofRead, ofArguments_eq_ofRead]
  cases h with
  | apart before after =>
    rw [Scan.run_append, Scan.run_append]
    rcases Scan.run .top {} before with e | ⟨s, _ | ⟨name, rest⟩⟩
    · rfl
    · simp only
      rw [← ofRead_relevel, ← ofRead_relevel, Scan.run_level_of_top hf hv hv' heq]
    · have hswaps : SwapsLevel v v' _ _ := .apart rest after
      simp only [ofRead, Command.ofName_of_swaps hswaps name]
  | attached options after =>
    rw [Scan.run_append, Scan.run_append]
    rcases hrun : Scan.run .top {} _ with e | ⟨s, _ | ⟨name, rest⟩⟩
    · rfl
    · simp only
      rw [← ofRead_relevel, ← ofRead_relevel, Scan.run_attachedLevel_of_top hf heq]
    · have hrest : "--" ∉ rest := fun hmem => options (Scan.subset_of_run_eq_ok hrun hmem)
      have hswaps : SwapsLevel v v' _ _ := .attached hrest after
      simp only [ofRead, Command.ofName_of_swaps hswaps name]

end Invocation

end TableSchema
