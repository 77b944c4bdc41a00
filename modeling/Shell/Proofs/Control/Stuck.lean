import Shell.Proofs.Control.Jump
import Shell.Proofs.Control.Numbering

/-!
# Where a run gets stuck

A fault is no signal: nothing that encloses a statement deals with it, and it ends the
whole run. Besides commands of the host, statements have reasons of three kinds for one.
What they do with variables fails: the words of a loop cannot be read, the word of a
round cannot be assigned, or the frame of a call cannot be closed. A signal is to be
raised, and a number in its text has too many digits. Or the host's stack is full. A run
ends with a fault if and only if it gets to such a place.
-/

namespace Shell

open Running

section Weight

variable {κ σ : Type}

/-- The size of a piece. What a piece leads to is smaller, the next round of a loop apart. -/
noncomputable def Code.size : Code κ → Nat
  | statement present => 3 * sizeOf present
  | list statements _ | script statements _ => 3 * sizeOf statements
  | condition statements => 3 * sizeOf statements + 1
  | words _ body _ _ _ => 3 * sizeOf body + 1
  | checks _ checked body _ _ => 3 * sizeOf checked + 3 * sizeOf body + 2
  | run _ | test _ | exec _ => 0

/-- How many more rounds the rest of a loop may have. -/
def Code.roundsLeft : Code κ → Nat
  | words _ _ _ remaining _ => remaining.length
  | checks _ _ _ left _ => left
  | _ => 0

/-- The piece is a whole script, before it has started. -/
def Code.isStart : Code κ → Bool
  | run _ | test _ | exec _ => true
  | _ => false

/-- What is ahead at a place: calls, pieces of the script, and rounds. -/
noncomputable def Place.ahead (place : Place κ σ) : Nat × Nat × Nat :=
  (place.depth, place.code.size, place.code.roundsLeft)

/-- Less is ahead at the first place. -/
def Place.Later (first second : Place κ σ) : Prop :=
  Prod.Lex (· < ·) (Prod.Lex (· < ·) (· < ·)) first.ahead second.ahead

theorem Place.wellFounded_later : WellFounded (Place.Later : Place κ σ → Place κ σ → Prop) :=
  InvImage.wf Place.ahead (Prod.lex Nat.lt_wfRel (Prod.lex Nat.lt_wfRel Nat.lt_wfRel)).wf

theorem Place.later_of_size {depth : Nat} {input stdin : String} {code inner : Code κ}
    {machine next : Machine (Function κ) σ} (smaller : inner.size < code.size) :
    Place.Later ⟨depth, input, inner, next⟩ ⟨depth, stdin, code, machine⟩ :=
  .right _ (.left _ _ smaller)

theorem Place.later_of_rounds {depth : Nat} {input stdin : String} {code inner : Code κ}
    {machine next : Machine (Function κ) σ} (same : inner.size = code.size)
    (fewer : inner.roundsLeft < code.roundsLeft) :
    Place.Later ⟨depth, input, inner, next⟩ ⟨depth, stdin, code, machine⟩ := by
  unfold Place.Later Place.ahead
  rw [same]
  exact .right _ (.right _ fewer)

variable {context : Context κ σ} {place next : Place κ σ} {enclosures : List (Enclosure κ σ)}

theorem Advance.isStart_next (step : Advance context place enclosures next) :
    next.code.isStart = false := by
  cases step <;> rfl

/-- Every step leaves less ahead. -/
theorem Advance.leads_later (step : Advance context place enclosures next)
    (started : place.code.isStart = false) : next.Later place := by
  cases step with
  | run => exact Bool.noConfusion started
  | test => exact Bool.noConfusion started
  | exec => exact Bool.noConfusion started
  | firstOfScript =>
    exact Place.later_of_size (by simp only [Code.size, List.cons.sizeOf_spec]; omega)
  | laterInScript =>
    exact Place.later_of_size (by simp only [Code.size, List.cons.sizeOf_spec]; omega)
  | first => exact Place.later_of_size (by simp only [Code.size, List.cons.sizeOf_spec]; omega)
  | later => exact Place.later_of_size (by simp only [Code.size, List.cons.sizeOf_spec]; omega)
  | condition => exact Place.later_of_size (Nat.lt_succ_self _)
  | group =>
    exact Place.later_of_size (by simp only [Code.size, Statement.group.sizeOf_spec]; omega)
  | branchCondition =>
    exact Place.later_of_size (by simp only [Code.size, Statement.branch.sizeOf_spec]; omega)
  | branchBody =>
    refine Place.later_of_size ?_
    simp only [Code.size, Statement.branch.sizeOf_spec]
    split <;> omega
  | forEach =>
    exact Place.later_of_size (by simp only [Code.size, Statement.forEach.sizeOf_spec]; omega)
  | word => exact Place.later_of_size (Nat.lt_succ_self _)
  | nextWord => exact Place.later_of_rounds rfl (Nat.lt_succ_self _)
  | whileLoop =>
    exact Place.later_of_size (by simp only [Code.size, Statement.whileLoop.sizeOf_spec]; omega)
  | check => exact Place.later_of_size (by simp only [Code.size]; omega)
  | checked => exact Place.later_of_size (by simp only [Code.size]; omega)
  | nextCheck => exact Place.later_of_rounds rfl (Nat.lt_succ_self _)
  | call => exact .left _ _ (Nat.lt_succ_self _)

end Weight

section Faults

variable {φ σ α β : Type} {limits : Limits} {fault : Fault}

/-- The action ends with the fault. -/
def EndsWith (fault : Fault) (action : Action φ σ α) (machine : Machine φ σ) : Prop :=
  (execute action machine).1 = .error (.fault fault)

theorem EndsWith.bind {action : Action φ σ α} {next : α → Action φ σ β} {machine : Machine φ σ}
    (ends : EndsWith fault (action >>= next) machine) :
    EndsWith fault action machine ∨ ∃ value middle, execute action machine = (.ok value, middle) ∧
      EndsWith fault (next value) middle := by
  unfold EndsWith at ends ⊢
  rw [execute_bind] at ends
  rcases ran : execute action machine with ⟨stop | value, middle⟩
  · rw [ran] at ends
    exact .inl (congrArg Except.error (Except.error.inj ends))
  · rw [ran] at ends
    exact .inr ⟨value, middle, rfl, ends⟩

theorem EndsWith.bind_of_ok {action : Action φ σ α} {next : α → Action φ σ β}
    {machine middle : Machine φ σ} {value : α} (ends : EndsWith fault (action >>= next) machine)
    (ran : execute action machine = (.ok value, middle)) : EndsWith fault (next value) middle := by
  unfold EndsWith at ends
  rwa [execute_bind_of_ok ran] at ends

theorem EndsWith.bind_left {action : Action φ σ α} {machine : Machine φ σ}
    (ends : EndsWith fault action machine) (next : α → Action φ σ β) :
    EndsWith fault (action >>= next) machine := by
  have ran : execute action machine = (.error (.fault fault), after action machine) :=
    Prod.ext ends rfl
  unfold EndsWith
  rw [execute_bind_of_error ran]

theorem endsWith_bind_iff {action : Action φ σ α} {next : α → Action φ σ β}
    {machine : Machine φ σ} :
    EndsWith fault (action >>= next) machine ↔ EndsWith fault action machine ∨
      ∃ value middle, execute action machine = (.ok value, middle) ∧
        EndsWith fault (next value) middle := by
  refine ⟨EndsWith.bind, ?_⟩
  rintro (first | ⟨value, middle, ran, rest⟩)
  · exact first.bind_left next
  · unfold EndsWith
    rwa [execute_bind_of_ok ran]

theorem not_endsWith_pure (value : α) (machine : Machine φ σ) :
    ¬ EndsWith fault (pure value : Action φ σ α) machine := by
  intro ends
  cases ends

theorem not_endsWith_signal (signal : Signal) (machine : Machine φ σ) :
    ¬ EndsWith fault (Action.signal signal : Action φ σ α) machine := by
  intro ends
  exact Stop.noConfusion (Except.error.inj ends)

theorem EndsWith.preceded {stdout stderr : String} {action : Action φ σ α} {machine : Machine φ σ}
    (ends : EndsWith fault (Action.preceded stdout stderr action) machine) :
    EndsWith fault action machine := by
  unfold EndsWith at ends ⊢
  rw [execute_preceded] at ends
  rcases ran : execute action machine with ⟨(other | signal) | value, next⟩ <;> rw [ran] at ends
  · exact ends
  · exact absurd (Except.error.inj ends) Stop.noConfusion
  · exact ends

theorem not_endsWith_settle (soFar : Outcome) (signal : Signal) (machine : Machine φ σ) :
    ¬ EndsWith fault (Action.settle soFar signal) machine := by
  obtain ⟨cause, stdout, stderr⟩ := signal
  unfold Action.settle EndsWith
  cases cause with
  | leaveLoop levels =>
    dsimp only
    rw [execute_state_bind]
    split
    · exact not_endsWith_signal _ _
    · exact not_endsWith_pure _ _
  | nextRound levels =>
    dsimp only
    rw [execute_state_bind]
    split
    · exact not_endsWith_signal _ _
    · exact not_endsWith_pure _ _
  | _ => exact not_endsWith_signal _ _

/-- A part of a round has a fault only from what it does. -/
theorem EndsWith.part {soFar : Outcome} {action : Action φ σ Outcome}
    {rest : Outcome → Action φ σ Round} {machine : Machine φ σ}
    (ends : EndsWith fault (Action.part soFar action rest) machine) :
    EndsWith fault action machine ∨ ∃ outcome middle,
      execute action machine = (.ok outcome, middle) ∧ EndsWith fault (rest outcome) middle := by
  unfold EndsWith at ends ⊢
  rw [execute_part] at ends
  rcases ran : execute action machine with ⟨(other | signal) | outcome, middle⟩ <;>
    rw [ran] at ends
  · exact .inl (congrArg Except.error (Except.error.inj ends))
  · exact absurd ends (not_endsWith_settle soFar signal middle)
  · exact .inr ⟨outcome, middle, rfl, ends⟩

theorem endsWith_raise {made : Except Fault Signal} {machine : Machine φ σ} :
    EndsWith fault (Action.raise made : Action φ σ α) machine ↔ made = .error fault := by
  refine Iff.trans ?_ Stop.ofMade_eq_fault
  exact ⟨Except.error.inj, congrArg Except.error⟩

theorem endsWith_raise_bind {made : Except Fault Signal} {next : α → Action φ σ β}
    {machine : Machine φ σ} :
    EndsWith fault (Action.raise made >>= next) machine ↔ made = .error fault := by
  refine endsWith_bind_iff.trans (Iff.trans (or_iff_left ?_) endsWith_raise)
  rintro ⟨_, _, ran, -⟩
  exact nomatch (Prod.mk.inj ran).1

/-- Whether a failure is fatal is checked without a fault, unless it is and its status has too many
digits. -/
theorem endsWith_checkFailure {outcome : Outcome} {machine : Machine φ σ} :
    EndsWith fault (Action.checkFailure outcome) machine ↔
      Action.isFatal machine.state outcome.status = true ∧ spell outcome.status = .error fault := by
  unfold Action.checkFailure EndsWith
  rw [execute_state_bind]
  split
  · rename_i fatal
    rw [and_iff_right fatal]
    exact endsWith_raise.trans (Signal.make_eq_error_iff.trans Signal.map_eq_error_iff)
  · rename_i harmless
    exact iff_of_false (not_endsWith_pure _ _) fun failed => harmless failed.1

theorem endsWith_countCommand {machine : Machine φ σ} :
    EndsWith fault (Action.countCommand limits) machine ↔
      limits.commands < machine.state.commandCount + 1 ∧ spell limits.commands = .error fault := by
  unfold EndsWith
  rw [execute_countCommand]
  split
  · rename_i refused
    rw [and_iff_right refused, ← Signal.ofLimit_eq_error_iff]
    exact Iff.trans ⟨Except.error.inj, congrArg Except.error⟩ Stop.ofMade_eq_fault
  · rename_i allowed
    exact iff_of_false nofun fun refused => allowed refused.1

/-- A statement ends with a fault if it cannot be counted, by itself, or because it fails. -/
theorem endsWith_runOne {statement : Action φ σ Outcome} {machine : Machine φ σ} :
    EndsWith fault (Action.runOne limits statement) machine ↔
      EndsWith fault (Action.countCommand limits) machine ∨
      ∃ ready, execute (Action.countCommand limits) machine = (.ok (), ready) ∧
        (EndsWith fault statement ready ∨ ∃ outcome next,
          execute statement ready = (.ok outcome, next) ∧
          Action.isFatal next.state outcome.status = true ∧
          spell outcome.status = .error fault) := by
  constructor
  · intro ends
    rcases EndsWith.bind ends with refused | ⟨_, ready, counted, noting⟩
    · exact .inl refused
    · refine .inr ⟨ready, counted, ?_⟩
      rcases noting.bind with inside | ⟨outcome, next, ran, checking⟩
      · exact .inl inside
      · rcases (checking.bind_of_ok rfl).bind with failed | ⟨_, _, -, done⟩
        · obtain ⟨fatal, unspelled⟩ := endsWith_checkFailure.mp failed
          exact .inr ⟨outcome, next, ran, fatal, unspelled⟩
        · exact absurd done (not_endsWith_pure _ _)
  · unfold EndsWith Action.runOne
    rintro (refused | ⟨ready, counted, inside | ⟨outcome, next, ran, fatal, unspelled⟩⟩)
    · exact EndsWith.bind_left refused _
    · rw [execute_bind_of_ok counted]
      exact EndsWith.bind_left inside _
    · have failed : EndsWith fault (Action.checkFailure outcome)
          { next with state := { next.state with lastStatus := outcome.status } } :=
        endsWith_checkFailure.mpr ⟨fatal, unspelled⟩
      rw [execute_bind_of_ok counted, execute_bind_of_ok ran, execute_changeState_bind]
      exact failed.bind_left _

/-- A builtin ends with a fault only if it is `exit` with the last status, and that has too many
digits. -/
theorem endsWith_builtin {which : Builtin} {args : List String} {machine : Machine φ σ} :
    EndsWith fault (which.action args) machine ↔
      which = .exit ∧ args = [] ∧ spell machine.state.lastStatus = .error fault := by
  have unfaulted : ∀ result : Except Signal Outcome,
      result.mapError Stop.signal ≠ .error (.fault fault) := by
    rintro (signal | outcome) <;> exact nofun
  have exits : ∀ status : Int, (.error (.ofMade (Signal.make (.exit status) "" "")) :
      Except Stop Outcome) = .error (.fault fault) ↔ spell status = .error fault := fun status =>
    Iff.trans ⟨Except.error.inj, congrArg Except.error⟩
      (Stop.ofMade_eq_fault.trans (Signal.make_eq_error_iff.trans Signal.map_eq_error_iff))
  unfold Builtin.action EndsWith
  rw [execute_state_bind, execute_ofExcept]
  cases which with
  | «break» => exact iff_of_false (unfaulted _) fun exit => nomatch exit.1
  | «continue» => exact iff_of_false (unfaulted _) fun exit => nomatch exit.1
  | «return» =>
    refine iff_of_false ?_ fun exit => nomatch exit.1
    unfold Builtin.apply
    dsimp only
    cases Builtin.status? machine.state args <;> exact nofun
  | exit =>
    cases args with
    | nil => exact (exits _).trans ⟨fun long => ⟨rfl, rfl, long⟩, fun long => long.2.2⟩
    | cons first rest =>
      refine iff_of_false ?_ fun exit => nomatch exit.2.1
      unfold Builtin.apply Builtin.status?
      dsimp only
      cases Text.readInt? first.toList with
      | none => exact nofun
      | some status =>
        -- Only the last digits of an argument count, and those can be spelled.
        have small : (status % 256).natAbs < Text.numberLimit :=
          Text.lt_numberLimit 3 (by decide) (by simp only [Nat.pow_eq]; omega)
        intro failed
        have unspelled := (exits _).mp failed
        rw [spell_of_lt small] at unspelled
        exact nomatch unspelled

end Faults

section Places

variable {κ σ : Type} {context : Context κ σ} {fault : Fault}

/-- A definition ends with a fault only if it is refused, and the line it stands on has too many
digits. -/
theorem endsWith_define {name : String} {body : List (Statement κ)}
    {source reading : Option String} {machine : Machine (Function κ) σ} :
    EndsWith fault (Function.define name body source reading) machine ↔
      (machine.state.options.posix && specialBuiltins.contains name) = true ∧
        spell machine.state.line = .error fault := by
  unfold Function.define EndsWith
  rw [execute_state_bind]
  split
  · rename_i special
    rw [and_iff_right special]
    refine endsWith_raise_bind.trans ?_
    cases spelled : spell machine.state.line with
    | error other => exact ⟨fun same => congrArg Except.error (Except.error.inj same), fun same =>
        congrArg Except.error (Except.error.inj same)⟩
    | ok line =>
      -- The status of the signal has one digit.
      have digit : spell 2 = .ok "2" := spell_of_lt (Text.lt_numberLimit 1 (by decide) (by decide))
      refine iff_of_false (fun unmade => ?_) nofun
      have unspelled := Signal.map_eq_error_iff.mp (Signal.make_eq_error_iff.mp unmade)
      exact nomatch digit.symm.trans unspelled
  · rename_i allowed
    exact iff_of_false (not_endsWith_pure _ _) fun refused => allowed refused.1

theorem endsWith_leavingLoop {action : Run κ σ Outcome} {machine : Machine (Function κ) σ} :
    EndsWith fault (leavingLoop action) machine ↔ EndsWith fault action machine := by
  unfold leavingLoop EndsWith
  rw [execute_ensuring]
  rfl

theorem endsWith_catchReturn {body : Run κ σ Outcome} {machine : Machine (Function κ) σ} :
    EndsWith fault (Function.catchReturn body) machine ↔ EndsWith fault body machine := by
  unfold Function.catchReturn EndsWith
  rw [execute_bind_of_ok (execute_observe body machine)]
  rcases execute body machine with ⟨(other | ⟨cause, stdout, stderr⟩) | outcome, next⟩
  · exact Iff.rfl
  · cases cause <;> exact Iff.intro nofun nofun
  · exact Iff.intro nofun nofun

theorem endsWith_openFrame {limits : Limits} {name : String} {source : Option String}
    {args : List String} {line : Option Int} {machine : Machine (Function κ) σ} :
    EndsWith fault (Action.onState (State.openFrame limits name source args line)) machine ↔
      limits.callDepth < machine.state.callDepth + 1 ∧ spell limits.callDepth = .error fault := by
  unfold EndsWith
  rw [execute_onState, State.execute_openFrame_eq]
  split
  · rename_i deep
    rw [and_iff_right deep, ← Signal.ofLimit_eq_error_iff]
    exact Iff.trans ⟨Except.error.inj, congrArg Except.error⟩ Stop.ofMade_eq_fault
  · rename_i allowed
    exact iff_of_false nofun fun refused => allowed refused.1

/-- The fault of what is done last, or else that of the action. -/
theorem endsWith_ensuring_write {action : Run κ σ Outcome} {closing : Write Unit}
    {machine : Machine (Function κ) σ} :
    EndsWith fault (Action.ensuring action (Action.write closing)) machine ↔
      (execute closing (after action machine).state).1 = .error fault ∨
      (execute closing (after action machine).state).1 = .ok () ∧
        EndsWith fault action machine := by
  unfold EndsWith
  rw [execute_ensuring, execute_write, ← after]
  cases closed : (execute closing (after action machine).state).1 with
  | error other =>
    refine Iff.trans ?_ (or_iff_left fun kept => by simp at kept).symm
    exact ⟨fun same => congrArg Except.error (Stop.fault.inj (Except.error.inj same)),
      fun same => congrArg (fun met => Except.error (Stop.fault met)) (Except.error.inj same)⟩
  | ok value =>
    exact ⟨fun same => .inr ⟨rfl, same⟩, fun kept => (kept.resolve_left (by simp)).2⟩

/-- A call ends with a fault if it is refused, if its frame cannot be closed, or if its body does.
-/
theorem endsWith_call {limits : Limits} {function : Function κ} {args : List String}
    {line : Option Int} {body : Run κ σ Outcome} {machine : Machine (Function κ) σ} :
    EndsWith fault (function.call limits args line body) machine ↔
      (limits.callDepth < machine.state.callDepth + 1 ∧ spell limits.callDepth = .error fault) ∨
      ∃ frame inside, execute (Action.onState (State.openFrame limits function.name
          (some function.source) args line)) machine = (.ok frame, inside) ∧
        ((execute (State.closeFrame frame) (after body inside).state).1 = .error fault ∨
          (execute (State.closeFrame frame) (after body inside).state).1 = .ok () ∧
            EndsWith fault body inside) := by
  unfold Function.call
  refine endsWith_bind_iff.trans (or_congr endsWith_openFrame ?_)
  refine exists_congr fun frame => exists_congr fun inside => and_congr_right fun _ => ?_
  rw [endsWith_ensuring_write, endsWith_catchReturn, after_catchReturn]

/-- The run from the place ends with the fault. -/
abbrev Place.Faults (context : Context κ σ) (fault : Fault) (place : Place κ σ) : Prop :=
  EndsWith fault (place.code.action context place.depth place.stdin) place.machine

/-- The statement that a list or a script comes to. -/
def Code.first? : Code κ → Option (Statement κ)
  | list (first :: _) _ | script (first :: _) _ => some first
  | _ => none

/-- A place where a fault comes up. -/
inductive Stuck (context : Context κ σ) : Place κ σ → Fault → Prop
  /-- A command of the host ends with a fault. -/
  | command {depth stdin leaf machine fault} :
    EndsWith fault (context.host leaf stdin) machine →
    Stuck context ⟨depth, stdin, .statement (.command leaf), machine⟩ fault
  /-- The words of a loop cannot be read. -/
  | words {depth stdin name words body machine fault} :
    EndsWith fault (words.get : Run κ σ (List String)) machine →
    Stuck context ⟨depth, stdin, .statement (.forEach name words body), machine⟩ fault
  /-- A round is allowed, but its word cannot be assigned. -/
  | word {depth stdin name body rounds word rest soFar machine fault} :
    ¬ context.limits.iterations < rounds + 1 →
    (execute (State.setVariable name word) machine.state).1 = .error fault →
    Stuck context ⟨depth, stdin, .words name body rounds (word :: rest) soFar, machine⟩ fault
  /-- The frame of a call cannot be closed after the body has ended. -/
  | call {depth stdin name args input line function frame machine inside fault} :
    machine.functions[name]? = some function →
    execute (Action.onState (State.openFrame context.limits function.name (some function.source)
      args line)) machine = (.ok frame, inside) →
    (execute (State.closeFrame frame)
      (after (context.callee depth function input) inside).state).1 = .error fault →
    Stuck context ⟨depth, stdin, .statement (.call name args input line), machine⟩ fault
  /-- No depth is left for the body of a function. Its frame is closed again. -/
  | deep {stdin name args input line function frame machine inside} :
    machine.functions[name]? = some function →
    execute (Action.onState (State.openFrame context.limits function.name (some function.source)
      args line)) machine = (.ok frame, inside) →
    (execute (State.closeFrame frame) inside.state).1 = .ok () →
    Stuck context ⟨0, stdin, .statement (.call name args input line), machine⟩ .nestingTooDeep
  /-- A statement fails where that is fatal, and its status cannot be spelled. -/
  | failure {place statement ready outcome next fault} :
    place.code.first? = some statement →
    execute (Action.countCommand context.limits) place.machine = (.ok (), ready) →
    execute (statement.action context (context.callee place.depth) place.stdin) ready =
      (.ok outcome, next) →
    Action.isFatal next.state outcome.status = true → spell outcome.status = .error fault →
    Stuck context place fault
  /-- The status to exit with cannot be spelled. -/
  | exit {depth stdin machine fault} : spell machine.state.lastStatus = .error fault →
    Stuck context ⟨depth, stdin, .statement (.builtin .exit []), machine⟩ fault
  /-- A definition is refused, and the line it stands on cannot be spelled. -/
  | define {depth stdin name body source reading machine fault} :
    (machine.state.options.posix && specialBuiltins.contains name) = true →
    spell machine.state.line = .error fault →
    Stuck context ⟨depth, stdin, .statement (.define name body source reading), machine⟩ fault
  /-- No further command is allowed, and the limit cannot be spelled. -/
  | commands {place statement fault} : place.code.first? = some statement →
    context.limits.commands < place.machine.state.commandCount + 1 →
    spell context.limits.commands = .error fault → Stuck context place fault
  /-- No further round is allowed, and the limit cannot be spelled. -/
  | rounds {depth stdin name body rounds word rest soFar machine fault} :
    context.limits.iterations < rounds + 1 → spell context.limits.iterations = .error fault →
    Stuck context ⟨depth, stdin, .words name body rounds (word :: rest) soFar, machine⟩ fault
  /-- No further round of a loop with a condition is allowed, and the limit cannot be spelled. -/
  | checks {depth stdin negated condition body soFar machine fault} :
    spell context.limits.iterations = .error fault →
    Stuck context ⟨depth, stdin, .checks negated condition body 0 soFar, machine⟩ fault
  /-- No further call is allowed, and the limit cannot be spelled. -/
  | refused {depth stdin name args input line function machine fault} :
    machine.functions[name]? = some function →
    context.limits.callDepth < machine.state.callDepth + 1 →
    spell context.limits.callDepth = .error fault →
    Stuck context ⟨depth, stdin, .statement (.call name args input line), machine⟩ fault

/-- The place is a call for which no depth is left. -/
def Place.OutOfDepth (place : Place κ σ) : Prop :=
  place.depth = 0 ∧ ∃ name args input line, place.code = .statement (.call name args input line)

/-- The fault comes from a place that the run gets to next. -/
def Place.Passes (context : Context κ σ) (fault : Fault) (place : Place κ σ) : Prop :=
  ∃ enclosures next, Advance context place enclosures next ∧ next.Faults context fault

theorem Advance.passes {place next : Place κ σ} (step : Advance context place [] next)
    (faults : place.Faults context fault) : place.Passes context fault := by
  refine ⟨[], next, step, ?_⟩
  have same : place.run context = next.run context := step.run_eq
  unfold Place.Faults EndsWith
  rw [← Place.run, ← same]
  exact faults

/-- A fault of the statement that a list or a script comes to is a fault of the place. -/
theorem Place.faults_of_first {place : Place κ σ} {statement : Statement κ}
    (first : place.code.first? = some statement)
    (ends : EndsWith fault (Action.runOne context.limits
      (statement.action context (context.callee place.depth) place.stdin)) place.machine) :
    place.Faults context fault := by
  obtain ⟨depth, stdin, code, machine⟩ := place
  generalize ended : execute (Action.runOne context.limits
    (statement.action context (context.callee depth) stdin)) machine = ran
  obtain ⟨result, next⟩ := ran
  have failed : result = .error (.fault fault) := (congrArg Prod.fst ended).symm.trans ends
  subst failed
  unfold Place.Faults EndsWith
  cases code with
  | list statements before =>
    cases statements with
    | nil => cases first
    | cons present rest =>
      obtain rfl := Option.some.inj first
      rw [Code.action_list_cons, Action.runAll, execute_bind, execute_preceded, ended]
  | script statements soFar =>
    cases statements with
    | nil => cases first
    | cons present rest =>
      obtain rfl := Option.some.inj first
      rw [Code.action_script_cons, topLevel_cons, execute_bind, execute_observe, ended]
      rfl
  | _ => cases first

/-- A call of a function that is defined. -/
theorem Place.faults_call_iff {depth : Nat} {stdin name input : String} {args : List String}
    {line : Option Int} {machine : Machine (Function κ) σ} {function : Function κ}
    (found : machine.functions[name]? = some function) :
    Place.Faults context fault ⟨depth, stdin, .statement (.call name args input line), machine⟩ ↔
      (context.limits.callDepth < machine.state.callDepth + 1 ∧
        spell context.limits.callDepth = .error fault) ∨
      ∃ frame inside, execute (Action.onState (State.openFrame context.limits function.name
          (some function.source) args line)) machine = (.ok frame, inside) ∧
        ((execute (State.closeFrame frame)
            (after (context.callee depth function input) inside).state).1 = .error fault ∨
          (execute (State.closeFrame frame)
            (after (context.callee depth function input) inside).state).1 = .ok () ∧
            EndsWith fault (context.callee depth function input) inside) := by
  rw [Place.Faults, Code.action, Statement.action, ← endsWith_call]
  unfold EndsWith
  rw [execute_get_bind]
  dsimp only
  rw [found]

theorem Stuck.faults {place : Place κ σ} (stuck : Stuck context place fault) :
    place.Faults context fault := by
  cases stuck with
  | failure first counted ran fatal unspelled =>
    exact Place.faults_of_first first
      (endsWith_runOne.mpr (.inr ⟨_, counted, .inr ⟨_, _, ran, fatal, unspelled⟩⟩))
  | commands first refused unspelled =>
    exact Place.faults_of_first first
      (endsWith_runOne.mpr (.inl (endsWith_countCommand.mpr ⟨refused, unspelled⟩)))
  | command failed =>
    rw [Place.Faults, Code.action, Statement.action]
    exact failed
  | words unread =>
    rw [Place.Faults, Code.action, Statement.action]
    unfold EndsWith at unread ⊢
    rw [execute_bind_of_error (Prod.ext unread rfl)]
  | word allowed refused =>
    refine endsWith_leavingLoop.mpr ?_
    unfold Action.wordRounds EndsWith
    rw [if_neg allowed, execute_bind_of_error ((execute_write _ _).trans (Prod.ext ?_ rfl))]
    rw [refused]
    rfl
  | call found opened refused =>
    exact (Place.faults_call_iff found).mpr (.inr ⟨_, _, opened, .inl refused⟩)
  | deep found opened closed =>
    exact (Place.faults_call_iff found).mpr (.inr ⟨_, _, opened, .inr ⟨closed, rfl⟩⟩)
  | refused found deep unspelled =>
    exact (Place.faults_call_iff found).mpr (.inl ⟨deep, unspelled⟩)
  | exit unspelled =>
    rw [Place.Faults, Code.action, Statement.action]
    exact endsWith_builtin.mpr ⟨rfl, rfl, unspelled⟩
  | define special unspelled =>
    rw [Place.Faults, Code.action, Statement.action]
    exact endsWith_define.mpr ⟨special, unspelled⟩
  | rounds reached unspelled =>
    refine endsWith_leavingLoop.mpr ?_
    unfold Action.wordRounds
    rw [if_pos reached]
    exact endsWith_raise_bind.mpr (Signal.ofLimit_eq_error_iff.mpr unspelled)
  | checks unspelled =>
    exact endsWith_leavingLoop.mpr (endsWith_raise.mpr (Signal.ofLimit_eq_error_iff.mpr unspelled))

theorem execute_of_preceded {α : Type} {stdout stderr : String} {action : Run κ σ α} {value : α}
    {machine next : Machine (Function κ) σ}
    (ran : execute (Action.preceded stdout stderr action) machine = (.ok value, next)) :
    execute action machine = (.ok value, next) := by
  rw [execute_preceded] at ran
  rcases inside : execute action machine with ⟨(other | signal) | outcome, last⟩ <;>
    rw [inside] at ran
  · exact ran
  · exact absurd (Prod.mk.inj ran).1 (by simp)
  · exact ran

section Progress

variable {depth : Nat} {stdin : String} {machine : Machine (Function κ) σ}

/-- A fault of the statement that a list or a script comes to comes up there, or inside of it. -/
theorem Place.stuck_or_inside {place : Place κ σ} {statement : Statement κ}
    (first : place.code.first? = some statement)
    (ends : EndsWith fault (Action.runOne context.limits
      (statement.action context (context.callee place.depth) place.stdin)) place.machine) :
    Stuck context place fault ∨
      ∃ ready, execute (Action.countCommand context.limits) place.machine = (.ok (), ready) ∧
        EndsWith fault (statement.action context (context.callee place.depth) place.stdin)
          ready := by
  rcases endsWith_runOne.mp ends with refused | ⟨ready, counted, inside | failed⟩
  · obtain ⟨reached, unspelled⟩ := endsWith_countCommand.mp refused
    exact .inl (.commands first reached unspelled)
  · exact .inr ⟨ready, counted, inside⟩
  · obtain ⟨outcome, next, ran, fatal, unspelled⟩ := failed
    exact .inl (.failure first counted ran fatal unspelled)

theorem Place.stuck_or_passes_list {statements : List (Statement κ)} {before : Outcome}
    (faults : Place.Faults context fault ⟨depth, stdin, .list statements before, machine⟩) :
    Stuck context ⟨depth, stdin, .list statements before, machine⟩ fault ∨
      Place.Passes context fault ⟨depth, stdin, .list statements before, machine⟩ := by
  cases statements with
  | nil => exact absurd faults (not_endsWith_pure _ _)
  | cons statement rest =>
    have ends := faults
    unfold Place.Faults at ends
    rw [Code.action_list_cons, Action.runAll] at ends
    rcases ends.bind with inside | ⟨outcome, next, ran, -⟩
    · refine (Place.stuck_or_inside rfl inside.preceded).imp_right ?_
      rintro ⟨ready, counted, failed⟩
      exact ⟨_, _, .first counted, failed⟩
    · exact .inr ((Advance.later (execute_of_preceded ran)).passes faults)

/-- A script goes on after signals for loops and functions. Only a fault is left. -/
theorem Place.stuck_or_passes_script {statements : List (Statement κ)} {soFar : Outcome}
    (faults : Place.Faults context fault ⟨depth, stdin, .script statements soFar, machine⟩) :
    Stuck context ⟨depth, stdin, .script statements soFar, machine⟩ fault ∨
      Place.Passes context fault ⟨depth, stdin, .script statements soFar, machine⟩ := by
  cases statements with
  | nil => exact absurd faults (not_endsWith_pure _ _)
  | cons statement rest =>
    have ends := faults
    unfold Place.Faults at ends
    rw [Code.action_script_cons, topLevel_cons] at ends
    rcases ends.bind with observed | ⟨ended, next, observed, onward⟩
    · unfold EndsWith at observed
      rw [execute_observe] at observed
      cases observed
    · rw [execute_observe] at observed
      obtain ⟨ran, rfl⟩ := Prod.mk.inj observed
      obtain rfl := Except.ok.inj ran
      generalize ended : execute (Action.runOne context.limits
        (statement.action context (context.callee depth) stdin)) machine = ran at onward
      obtain ⟨result, next⟩ := ran
      rcases result with (other | ⟨cause, stdout, stderr⟩) | outcome
      · have same : other = fault := Stop.fault.inj (Except.error.inj onward)
        have failed : EndsWith fault (Action.runOne context.limits
            (statement.action context (context.callee depth) stdin)) machine := by
          unfold EndsWith
          rw [ended, same]
        have origin := @Place.stuck_or_inside κ σ context fault
          ⟨depth, stdin, .script (statement :: rest) soFar, machine⟩ statement rfl failed
        refine origin.imp_right ?_
        rintro ⟨ready, counted, inside⟩
        exact ⟨_, _, .firstOfScript counted, inside⟩
      · cases cause with
        | leaveLoop levels => exact .inr ((Advance.laterInScript ended fun _ => rfl).passes faults)
        | nextRound levels => exact .inr ((Advance.laterInScript ended fun _ => rfl).passes faults)
        | leaveFunction status =>
          exact .inr ((Advance.laterInScript ended fun _ => rfl).passes faults)
        | _ => exact absurd onward (not_endsWith_pure _ _)
      · exact .inr ((Advance.laterInScript ended fun _ => rfl).passes faults)

theorem Place.passes_condition {statements : List (Statement κ)}
    (faults : Place.Faults context fault ⟨depth, stdin, .condition statements, machine⟩) :
    Place.Passes context fault ⟨depth, stdin, .condition statements, machine⟩ := by
  refine ⟨_, _, .condition, ?_⟩
  have conditioned : execute (Action.condition context.limits
      (Place.actions context depth stdin statements)) machine =
        execute (Action.ensuring (Action.runAll context.limits
          (Place.actions context depth stdin statements) {}) (Action.changeState
            fun state => { state with inCondition := machine.state.inCondition }))
          (Trace.inCondition machine) := rfl
  unfold Place.Faults EndsWith at faults
  rw [Code.action, conditioned, execute_ensuring] at faults
  exact faults

/-- The round is refused, its word cannot be assigned, or the fault comes from the body or a later
round. -/
theorem Place.stuck_or_passes_words {name : String} {body : List (Statement κ)} {rounds : Int}
    {remaining : List String} {soFar : Outcome}
    (faults : Place.Faults context fault
      ⟨depth, stdin, .words name body rounds remaining soFar, machine⟩) :
    Stuck context ⟨depth, stdin, .words name body rounds remaining soFar, machine⟩ fault ∨
      Place.Passes context fault ⟨depth, stdin, .words name body rounds remaining soFar,
        machine⟩ := by
  cases remaining with
  | nil => exact absurd (endsWith_leavingLoop.mp faults) (not_endsWith_pure _ _)
  | cons word rest =>
    have ends := endsWith_leavingLoop.mp faults
    by_cases refused : context.limits.iterations < rounds + 1
    · unfold Action.wordRounds at ends
      rw [if_pos refused] at ends
      exact .inl (.rounds refused (Signal.ofLimit_eq_error_iff.mp (endsWith_raise_bind.mp ends)))
    · cases assigned : execute (Action.write (State.setVariable name word)) machine with
      | mk result ready =>
        cases result with
        | error stop =>
          refine .inl (.word refused ?_)
          unfold Action.wordRounds EndsWith at ends
          rw [if_neg refused, execute_bind_of_error assigned] at ends
          obtain rfl : stop = .fault fault := Except.error.inj ends
          rw [execute_write] at assigned
          have same := (Prod.mk.inj assigned).1
          cases written : (execute (State.setVariable name word) machine.state).1 with
          | error other =>
            rw [written] at same
            exact congrArg Except.error (Stop.fault.inj (Except.error.inj same))
          | ok value =>
            rw [written] at same
            cases same
        | ok value =>
          refine .inr ?_
          unfold EndsWith at ends
          rw [execute_wordRounds refused assigned] at ends
          rcases EndsWith.bind ends with inside | ⟨round, next, ran, onward⟩
          · rcases EndsWith.part inside with failed | ⟨outcome, middle, -, done⟩
            · exact ⟨_, _, .word refused assigned, failed⟩
            · exact absurd done (not_endsWith_pure _ _)
          · cases round with
            | done all => exact absurd onward (not_endsWith_pure _ _)
            | again all => exact (Advance.nextWord refused assigned ran).passes faults

theorem Place.stuck_or_passes_checks {negated : Bool} {condition body : List (Statement κ)}
    {left : Nat}
    {soFar : Outcome}
    (faults : Place.Faults context fault
      ⟨depth, stdin, .checks negated condition body left soFar, machine⟩) :
    Stuck context ⟨depth, stdin, .checks negated condition body left soFar, machine⟩ fault ∨
      Place.Passes context fault
        ⟨depth, stdin, .checks negated condition body left soFar, machine⟩ := by
  cases left with
  | zero =>
    have raised := endsWith_raise.mp (endsWith_leavingLoop.mp faults)
    exact .inl (.checks (Signal.ofLimit_eq_error_iff.mp raised))
  | succ left =>
    refine .inr ?_
    have ends := endsWith_leavingLoop.mp faults
    rw [conditionRounds_succ] at ends
    rcases ends.bind with inside | ⟨round, next, ran, onward⟩
    · rcases EndsWith.part inside with failed | ⟨outcome, middle, ran, rest⟩
      · exact ⟨_, _, .check, failed⟩
      · split at rest
        · exact absurd rest (not_endsWith_pure _ _)
        · rename_i holds
          rcases EndsWith.part rest with failed | ⟨_, _, -, done⟩
          · exact ⟨_, _, .checked ran (Bool.eq_false_iff.mpr holds), failed⟩
          · exact absurd done (not_endsWith_pure _ _)
    · cases round with
      | done all => exact absurd onward (not_endsWith_pure _ _)
      | again all => exact (Advance.nextCheck ran).passes faults

/-- A call is refused, cannot be closed or goes too deep, or the fault comes from its body. -/
theorem Place.stuck_or_passes_call {name input : String} {args : List String} {line : Option Int}
    (faults : Place.Faults context fault
      ⟨depth, stdin, .statement (.call name args input line), machine⟩) :
    Stuck context ⟨depth, stdin, .statement (.call name args input line), machine⟩ fault ∨
      Place.Passes context fault
        ⟨depth, stdin, .statement (.call name args input line), machine⟩ := by
  cases found : machine.functions[name]? with
  | none =>
    unfold Place.Faults EndsWith at faults
    rw [Code.action, Statement.action, execute_get_bind, found] at faults
    cases faults
  | some function =>
    rcases (Place.faults_call_iff found).mp faults with
      ⟨deep, unspelled⟩ | ⟨frame, inside, opened, refused | ⟨closed, body⟩⟩
    · exact .inl (.refused found deep unspelled)
    · exact .inl (.call found opened refused)
    · cases depth with
      | zero =>
        obtain rfl : Fault.nestingTooDeep = fault := Stop.fault.inj (Except.error.inj body)
        exact .inl (.deep found opened closed)
      | succ depth => exact .inr ⟨_, _, .call found opened, body⟩

/-- A fault comes up in the statement itself, or further inside. -/
theorem Place.stuck_or_passes_statement (present : Statement κ)
    (faults : Place.Faults context fault ⟨depth, stdin, .statement present, machine⟩) :
    Stuck context ⟨depth, stdin, .statement present, machine⟩ fault ∨
      Place.Passes context fault ⟨depth, stdin, .statement present, machine⟩ := by
  have ends := faults
  unfold Place.Faults at ends
  rw [Code.action] at ends
  cases present with
  | command leaf =>
    rw [Statement.action] at ends
    exact .inl (.command ends)
  | builtin which args =>
    rw [Statement.action] at ends
    obtain ⟨rfl, rfl, unspelled⟩ := endsWith_builtin.mp ends
    exact .inl (.exit unspelled)
  | group body before => exact .inr (Advance.group.passes faults)
  | branch condition thenBody elseBody =>
    rw [Statement.action] at ends
    rcases ends.bind with failed | ⟨checked, next, ran, -⟩
    · exact .inr ⟨_, _, .branchCondition, failed⟩
    · exact .inr ((Advance.branchBody ran).passes faults)
  | forEach name words body =>
    rw [Statement.action] at ends
    rcases ends.bind with unread | ⟨found, next, read, rest⟩
    · exact .inl (.words unread)
    · split at rest
      · rename_i named
        exact .inr ((Advance.forEach read named).passes faults)
      · exact absurd rest (not_endsWith_pure _ _)
  | whileLoop negated condition body => exact .inr (Advance.whileLoop.passes faults)
  | define name body source reading =>
    rw [Statement.action] at ends
    obtain ⟨special, unspelled⟩ := endsWith_define.mp ends
    exact .inl (.define special unspelled)
  | call name args input line => exact Place.stuck_or_passes_call faults

/-- One step towards the place that a fault comes from. -/
theorem Place.stuck_or_passes {place : Place κ σ} (faults : place.Faults context fault) :
    Stuck context place fault ∨ place.Passes context fault := by
  obtain ⟨depth, stdin, code, machine⟩ := place
  cases code with
  | statement present => exact Place.stuck_or_passes_statement present faults
  | list statements before => exact Place.stuck_or_passes_list faults
  | condition statements => exact .inr (Place.passes_condition faults)
  | words name body rounds remaining soFar => exact Place.stuck_or_passes_words faults
  | checks negated condition body left soFar => exact Place.stuck_or_passes_checks faults
  | script statements soFar => exact Place.stuck_or_passes_script faults
  | run script => exact .inr (Advance.run.passes faults)
  | test script => exact .inr (Advance.test.passes faults)
  | exec script =>
    refine .inr ⟨_, _, .exec rfl, ?_⟩
    rcases EndsWith.bind (EndsWith.bind_of_ok faults rfl) with inside | ⟨outcome, last, -, finish⟩
    · exact inside
    · exact absurd (EndsWith.bind_of_ok finish rfl) (not_endsWith_pure _ _)

theorem Place.exists_stuck_of_started {place : Place κ σ} (started : place.code.isStart = false)
    (faults : place.Faults context fault) :
    ∃ enclosures last, Reaches context place enclosures last ∧ Stuck context last fault := by
  induction place using Place.wellFounded_later.induction with
  | _ place inductionHypothesis =>
    rcases Place.stuck_or_passes faults with stuck | ⟨outer, next, step, further⟩
    · exact ⟨[], place, .here place, stuck⟩
    · obtain ⟨inner, last, reaches, stuck⟩ := inductionHypothesis next (step.leads_later started)
        step.isStart_next further
      exact ⟨inner ++ outer, last, .step step reaches, stuck⟩

/-- A run that ends with a fault gets to the place where the fault comes from. -/
theorem Place.exists_stuck {place : Place κ σ} (faults : place.Faults context fault) :
    ∃ enclosures last, Reaches context place enclosures last ∧ Stuck context last fault := by
  rcases Place.stuck_or_passes faults with stuck | ⟨outer, next, step, further⟩
  · exact ⟨[], place, .here place, stuck⟩
  · obtain ⟨inner, last, reaches, stuck⟩ :=
      Place.exists_stuck_of_started step.isStart_next further
    exact ⟨inner ++ outer, last, .step step reaches, stuck⟩

end Progress

end Places

section Depth

variable {κ σ : Type} {context : Context κ σ} {place next last : Place κ σ}
  {enclosures : List (Enclosure κ σ)}

/-- Only a call takes from the depth that is left. -/
theorem Advance.depth_eq_or_call (step : Advance context place enclosures next)
    (started : place.code.isStart = false) :
    next.depth = place.depth ∨ next.depth + 1 = place.depth ∧ place.code.isStatement = true ∧
      next.code.isStatement = false := by
  cases step with
  | run => exact Bool.noConfusion started
  | test => exact Bool.noConfusion started
  | exec => exact Bool.noConfusion started
  | call => exact .inr ⟨rfl, rfl, rfl⟩
  | _ => exact .inl rfl

/-- The depth that is left for calls covers the commands that are left. A statement was counted
before. -/
def Place.IsCovered (context : Context κ σ) (place : Place κ σ) : Prop :=
  context.limits.commands + (if place.code.isStatement then 1 else 0) ≤ place.depth + place.number

theorem Code.isExec_of_started {code : Code κ} (started : code.isStart = false) :
    code.isExec = false := by
  cases code <;> first | rfl | exact started

variable (leaves : ∀ leaf stdin, Law.counting.Obeys (context.host leaf stdin))

include leaves

theorem Advance.isCovered (step : Advance context place enclosures next)
    (started : place.code.isStart = false) (covered : place.IsCovered context) :
    next.IsCovered context := by
  have counts : place.number ≤ next.number :=
    (step.begins leaves (Code.isExec_of_started started)).commandCount_le
  unfold Place.IsCovered at covered ⊢
  rcases step.depth_eq_or_call started with same | ⟨less, call, body⟩
  · cases statement : next.code.isStatement with
    | false =>
      rw [if_neg Bool.false_ne_true]
      split at covered <;> omega
    | true =>
      obtain ⟨several, -, counted, -⟩ := step.number_statement statement
      rw [several] at covered
      rw [if_pos rfl]
      rw [if_neg Bool.false_ne_true] at covered
      omega
  · rw [call, if_pos rfl] at covered
    rw [body, if_neg Bool.false_ne_true]
    omega

theorem Reaches.isCovered (reaches : Reaches context place enclosures last)
    (started : place.code.isStart = false) (covered : place.IsCovered context) :
    last.IsCovered context := by
  induction reaches with
  | here => exact covered
  | step step _ inductionHypothesis =>
    exact inductionHypothesis step.isStart_next (step.isCovered leaves started covered)

/-- A script that is run as a whole gets to no call for which no depth is left, if the host's stack
has room for as many calls as the limit allows commands. -/
theorem Reaches.not_outOfDepth (roomy : context.limits.commands ≤ context.depth) {depth : Nat}
    {stdin : String} {script : List (Statement κ)}
    {machine : Machine (Function κ) σ}
    (reaches : Reaches context ⟨depth, stdin, .exec script, machine⟩ enclosures last) :
    ¬ last.OutOfDepth := by
  rintro ⟨none, name, args, input, line, code⟩
  have statement : last.code.isStatement = true := by rw [code]; rfl
  have limit := reaches.number_le_commands (fun single => Bool.noConfusion single) statement
  cases reaches with
  | here => cases code
  | step step rest =>
    cases step with
    | @exec _ _ _ _ start zero =>
      have begins : Place.IsCovered context
          ⟨context.depth, "", .script script {}, start⟩ := by
        subst zero
        change context.limits.commands + 0 ≤ (context.depth : Int) + 0
        omega
      have covered := rest.isCovered leaves rfl begins
      unfold Place.IsCovered at covered
      rw [statement, if_pos rfl, none] at covered
      omega

end Depth

section Whole

variable {κ σ : Type} {context : Context κ σ}

theorem topLevel_ne_signal (limits : Limits) (statements : List (Run κ σ Outcome)) (soFar : Outcome)
    (machine : Machine (Function κ) σ) (signal : Signal) :
    (execute (Context.topLevel limits statements soFar) machine).1 ≠ .error (.signal signal) := by
  induction statements generalizing soFar machine with
  | nil => exact nofun
  | cons statement rest inductionHypothesis =>
    rw [topLevel_cons, execute_bind, execute_observe]
    rcases execute (Action.runOne limits statement) machine with
      ⟨(fault | ⟨cause, stdout, stderr⟩) | outcome, next⟩
    · exact nofun
    · cases cause with
      | leaveLoop levels => exact inductionHypothesis _ next
      | nextRound levels => exact inductionHypothesis _ next
      | leaveFunction status => exact inductionHypothesis _ _
      | _ => exact nofun
    · exact inductionHypothesis _ next

/-- A script that is run as a whole ends with an outcome, whose status is kept, or with a fault. -/
theorem Context.execute_exec (script : List (Statement κ)) (machine : Machine (Function κ) σ) :
    (∃ outcome last, execute (context.exec script) machine = (.ok outcome, last) ∧
      last.state.lastStatus = outcome.status) ∨
      ∃ fault, EndsWith fault (context.exec script) machine := by
  let start : Machine (Function κ) σ :=
    { machine with state := { machine.state with commandCount := 0 } }
  have whole : execute (context.exec script) machine =
      execute (topLevel context.limits (context.actions script) {} >>= fun outcome => do
        Action.changeState fun state => { state with lastStatus := outcome.status }
        pure outcome) start := rfl
  have unsignalled := @topLevel_ne_signal κ σ context.limits (context.actions script) {} start
  unfold EndsWith
  rw [whole, execute_bind]
  generalize execute (topLevel context.limits (context.actions script) {}) start = ran
    at unsignalled ⊢
  rcases ran with ⟨(fault | signal) | outcome, last⟩
  · exact .inr ⟨fault, rfl⟩
  · exact absurd rfl (unsignalled signal)
  · exact .inl ⟨outcome, _, rfl, rfl⟩

/-- A script that is run as a whole gives an outcome, and its status is kept, if and only if no
fault comes up at any place that it gets to. The host's stack is no reason for one if it has room
for as many calls as the limit allows commands, and no command of the host takes the count of
commands back. -/
theorem Context.exec_returns_iff_never_stuck (script : List (Statement κ))
    (machine : Machine (Function κ) σ) :
    ((∃ outcome last, execute (context.exec script) machine = (.ok outcome, last) ∧
        last.state.lastStatus = outcome.status) ↔
      ∀ enclosures place fault, Reaches context ⟨0, "", .exec script, machine⟩ enclosures place →
        ¬ Stuck context place fault) ∧
    ((∀ leaf stdin, Law.counting.Obeys (context.host leaf stdin)) →
      context.limits.commands ≤ context.depth →
      ∀ enclosures place, Reaches context ⟨0, "", .exec script, machine⟩ enclosures place →
        ¬ place.OutOfDepth) := by
  refine ⟨⟨?_, fun free => ?_⟩, fun leaves roomy _ _ reaches => reaches.not_outOfDepth leaves roomy⟩
  · rintro ⟨outcome, last, ran, -⟩ enclosures place fault reaches stuck
    obtain ⟨final, left, out⟩ := @resumeAll_fault κ σ context.limits enclosures fault
      (place.run context).2
    have inside : place.run context = (.error (.fault fault), (place.run context).2) :=
      Prod.ext stuck.faults rfl
    have same := reaches.run_eq
    rw [inside, out] at same
    exact nomatch ran.symm.trans same
  · rcases @execute_exec κ σ context script machine with returns | ⟨fault, faults⟩
    · exact returns
    · obtain ⟨enclosures, last, reaches, stuck⟩ :=
        @Place.exists_stuck κ σ context fault ⟨0, "", .exec script, machine⟩ faults
      exact absurd stuck (free enclosures last fault reaches)

/-- Loops and a call are gone through without getting stuck, and with depth left for calls. -/
theorem continuingOuter_never_stuck :
    let start : Place Unit Unit := ⟨0, "", .exec continuingOuter, ⟨{}, ∅, ()⟩⟩
    (∃ outcome last, execute (idle.exec continuingOuter) ⟨{}, ∅, ()⟩ = (.ok outcome, last) ∧
      last.state.lastStatus = outcome.status) ∧
    (∀ enclosures place fault, Reaches idle start enclosures place → ¬ Stuck idle place fault) ∧
    ∀ enclosures place, Reaches idle start enclosures place → ¬ place.OutOfDepth := by
  have succeeds : (execute (idle.exec continuingOuter) ⟨{}, ∅, ()⟩).1.isOk = true := by
    decide +kernel
  obtain ⟨law, roomy⟩ :=
    @Context.exec_returns_iff_never_stuck Unit Unit idle continuingOuter ⟨{}, ∅, ()⟩
  rcases @Context.execute_exec Unit Unit idle continuingOuter ⟨{}, ∅, ()⟩ with
    returns | ⟨fault, faults⟩
  · exact ⟨returns, law.mp returns, roomy (fun _ _ _ => Int.le_refl _) (by decide)⟩
  · rw [faults] at succeeds
    cases succeeds

/-- A shell in which `r` cannot be assigned. -/
def readonlyR : State :=
  { store := ({} : Store).addAttribute "r" Attribute.readonly }

/-- A loop with a variable that cannot be assigned ends the whole script with a fault. -/
theorem readonlyLoop_faults :
    (∀ leaf stdin, Law.counting.Obeys (idle.host leaf stdin)) ∧
    (∀ leaf stdin machine fault, ¬ EndsWith fault (idle.host leaf stdin) machine) ∧
    EndsWith (.readonly "r") (idle.exec [.forEach "r" (.given ["a"]) []]) ⟨readonlyR, ∅, ()⟩ := by
  refine ⟨fun _ _ _ => Int.le_refl _, fun _ _ machine _ => not_endsWith_pure _ machine, ?_⟩
  rfl

end Whole

end Shell
