import Shell.Proofs.Control.Balance
import Shell.Proofs.Control.Place

/-!
# Laws of runs

A law relates the state before an action, the way the action ends and the state after
it. If every basic step keeps a law, then all statements do, at every depth of calls.
The same induction shows that two runs which differ only in what calls do go the same
way, as long as those calls do; a domain says from which states this is asked.
-/

namespace Shell

open Running

namespace State

section Opening

variable {limits : Limits} {name : String} {source : Option String} {args : List String}
  {line : Option Int} {state next : State}

theorem execute_openFrame_eq :
    execute (openFrame limits name source args line) state =
      if limits.callDepth < state.callDepth + 1 then
        (.error (.ofMade (depthSignal limits name)), state)
      else
        let inside := state.enter ⟨name, line.getD state.line, sourceOrMain source⟩
        (.ok (state.frame name), { inside with store := replacePositional inside.store args }) := by
  unfold openFrame
  rw [execute_get_bind]
  split <;> rfl

/-- A call is refused only for the depth of calls. -/
theorem stop_of_openFrame {stop : Stop}
    (failed : execute (openFrame limits name source args line) state = (.error stop, next)) :
    stop = .ofMade (depthSignal limits name) := by
  rw [execute_openFrame_eq] at failed
  split at failed
  · cases failed
    rfl
  · cases failed

/-- A call that is opened is not too deep, and opening it is no command and no condition. -/
theorem entered_of_openFrame {frame : Frame}
    (opened : execute (openFrame limits name source args line) state = (.ok frame, next)) :
    next.callDepth = state.callDepth + 1 ∧ state.callDepth + 1 ≤ limits.callDepth ∧
      next.progress = state.progress := by
  rw [execute_openFrame_eq] at opened
  split at opened
  · cases opened
  · rename_i allowed
    cases opened
    exact ⟨rfl, Int.not_lt.mp allowed, rfl⟩

end Opening

theorem eq_of_progress {first second : State} (same : first.progress = second.progress) :
    first.commandCount = second.commandCount ∧ first.inCondition = second.inCondition :=
  Prod.mk.inj same

theorem progress_setVariable (name word : String) (state : State) :
    (after (setVariable name word) state).progress = state.progress := by
  obtain ⟨target, -, edits⟩ := edits_setVariable name word state
  have same := congrArg progress edits.surroundings
  exact same

end State

theorem State.execute_expandArray (state : State) (name : String) (star : Bool)
    (queries : Queries) :
    execute (state.expandArray name star none) queries =
      (match state.elements name with
        | .ok elements => .ok (state.splitValues star (elements.map (·.2)))
        | .error fault => .error (.fault fault), queries) := by
  have whole : ∀ elements : List (Key × String),
      state.transformElements none elements = .ok (elements.map (·.2)) := by
    intro elements
    unfold transformElements
    cases elements.mapM indexed? <;> rfl
  unfold expandArray readElements
  cases state.elements name with
  | error fault => rfl
  | ok elements =>
    have read : execute (Draw.toExpand (MonadExcept.ofExcept (.ok elements))) queries =
        (.ok elements, queries) := rfl
    rw [execute_bind_of_ok read, whole]
    rfl

/-- The words of a loop are found, or there is a fault. Nothing is changed. -/
theorem Words.execute_get {κ σ : Type} (words : Words) (machine : Machine (Function κ) σ) :
    (∃ found, execute words.get machine = (.ok found, machine)) ∨
      ∃ fault, execute words.get machine = (.error (.fault fault), machine) := by
  cases words with
  | given words => exact .inl ⟨words, rfl⟩
  | positional => exact .inl ⟨_, rfl⟩
  | array name star =>
    have ran : execute (array name star).get machine =
        ((execute (machine.state.expandArray name star none) machine.state.queries).1,
          { machine with state := { machine.state with
            queries :=
              after (machine.state.expandArray name star none) machine.state.queries } }) :=
      rfl
    rw [ran, after, State.execute_expandArray]
    cases machine.state.elements name with
    | error fault => exact .inr ⟨fault, rfl⟩
    | ok elements => exact .inl ⟨_, rfl⟩

/-- The machine after one more command was counted. -/
def Machine.counted {φ σ : Type} (machine : Machine φ σ) : Machine φ σ :=
  { machine with state := { machine.state with commandCount := machine.state.commandCount + 1 } }

theorem execute_countCommand {φ σ : Type} (limits : Limits) (machine : Machine φ σ) :
    execute (Action.countCommand limits) machine =
      if limits.commands < machine.state.commandCount + 1 then
        (.error (.ofMade (Action.commandsSignal limits)), machine.counted)
      else (.ok (), machine.counted) := by
  unfold Action.countCommand
  rw [execute_changeState_bind, execute_state_bind]
  change execute (if limits.commands < machine.state.commandCount + 1 then _ else _) _ = _
  split <;> rfl

/-- How an action ends. -/
inductive Ending
  | finished
  | stopped (cause : Cause)
  | failed (fault : Fault)
deriving DecidableEq, Repr

namespace Ending

/-- The way in which a result was reached. -/
def of {α : Type} : Except Stop α → Ending
  | .ok _ => finished
  | .error (.signal signal) => stopped signal.cause
  | .error (.fault fault) => failed fault

end Ending

/-- A law about what happens between two states. -/
structure Law where
  holds : State → Ending → State → Prop
  stay (state : State) : holds state .finished state
  chain {first second third : State} {ending : Ending} :
    holds first .finished second → holds second ending third → holds first ending third
  /-- Loops and functions go on after the signals that are meant for them. -/
  caught {first second : State} {cause : Cause} : cause.leavesScope = true →
    holds first (.stopped cause) second → holds first .finished second
  raised (state : State) {cause : Cause} : (∀ status, cause ≠ .commandFailed status) →
    holds state (.stopped cause) state
  fatal {state : State} {status : Int} : Action.isFatal state status = true →
    holds state (.stopped (.commandFailed status)) state
  faulted (state : State) (fault : Fault) : holds state (.failed fault) state
  counted (state : State) :
    holds state .finished { state with commandCount := state.commandCount + 1 }
  marked (state : State) (status : Int) : holds state .finished { state with lastStatus := status }
  assigned {name word : String} {first second : State} {result : Except Fault Unit} :
    execute (State.setVariable name word) first = (result, second) →
    holds first (Ending.of (result.mapError Stop.fault)) second
  looped {first second : State} {ending : Ending} :
    holds { first with loopDepth := first.loopDepth + 1 } ending second →
    holds first ending { second with loopDepth := second.loopDepth - 1 }
  conditioned {first second : State} {ending : Ending} :
    holds { first with inCondition := true } ending second →
    holds first ending { second with inCondition := first.inCondition }
  /-- A call ends as its body does, unless its frame cannot be closed. -/
  called {limits : Limits} {name : String} {source : Option String} {args : List String}
    {line : Option Int} {first inside second last : State} {frame : Frame} {ending : Ending}
    {result : Except Fault Unit} :
    execute (State.openFrame limits name source args line) first = (.ok frame, inside) →
    holds inside ending second → execute (State.closeFrame frame) second = (result, last) →
    holds first (match result with | .ok _ => ending | .error fault => .failed fault) last

namespace Law

section Actions

variable {φ σ α β : Type} {limits : Limits} {law : Law} {domain : State → Prop}

/-- The action keeps the law. -/
def Obeys (law : Law) (action : Action φ σ α) : Prop := ∀ machine,
  law.holds machine.state (Ending.of (execute action machine).1) (after action machine).state

/-- From the states of the domain, both actions do the same and keep the law. -/
def Alike (law : Law) (domain : State → Prop) (first second : Action φ σ α) : Prop :=
  ∀ machine, domain machine.state → execute first machine = execute second machine ∧
    law.holds machine.state (Ending.of (execute first machine).1) (after first machine).state

/-- The law leads from the states of one domain to those of the other. -/
def Leads (law : Law) (domain further : State → Prop) : Prop :=
  ∀ {first second ending}, domain first → law.holds first ending second → further second

theorem Obeys.alike {action : Action φ σ α} (obeys : law.Obeys action) (domain : State → Prop) :
    law.Alike domain action action := fun machine _ => ⟨rfl, obeys machine⟩

theorem Alike.mono {other : State → Prop} {first second : Action φ σ α}
    (alike : law.Alike domain first second) (within : ∀ state, other state → domain state) :
    law.Alike other first second := fun machine member => alike machine (within _ member)

theorem obeys_pure (value : α) : law.Obeys (pure value : Action φ σ α) := fun machine =>
  law.stay machine.state

theorem obeys_fault (fault : Fault) : law.Obeys (throw (.fault fault) : Action φ σ α) :=
  fun machine => law.faulted machine.state fault

/-- What comes first finishes and the rest goes on, or it ends all. -/
theorem Alike.bind {further : State → Prop} (leads : law.Leads domain further)
    {first second : Action φ σ α} {next onward : α → Action φ σ β}
    (alike : law.Alike domain first second)
    (rest : ∀ value, law.Alike further (next value) (onward value)) :
    law.Alike domain (first >>= next) (second >>= onward) := by
  intro machine member
  obtain ⟨same, held⟩ := alike machine member
  unfold after at held ⊢
  rw [execute_bind, execute_bind, ← same]
  generalize execute first machine = ran at held ⊢
  rcases ran with ⟨(fault | signal) | value, middle⟩
  · exact ⟨rfl, held⟩
  · exact ⟨rfl, held⟩
  · obtain ⟨sameRest, heldRest⟩ := rest value middle (leads member held)
    exact ⟨sameRest, law.chain held heldRest⟩

theorem Obeys.bind {action : Action φ σ α} {next : α → Action φ σ β} (first : law.Obeys action)
    (rest : ∀ value, law.Obeys (next value)) : law.Obeys (action >>= next) := fun machine =>
  (Alike.bind (fun _ _ => trivial) (first.alike fun _ => True)
    (fun value => (rest value).alike fun _ => True) machine trivial).2

theorem Alike.preceded {first second : Action φ σ α} (alike : law.Alike domain first second)
    (stdout stderr : String) :
    law.Alike domain (Action.preceded stdout stderr first)
      (Action.preceded stdout stderr second) := by
  intro machine member
  obtain ⟨same, held⟩ := alike machine member
  unfold after at held ⊢
  rw [execute_preceded, execute_preceded, ← same]
  refine ⟨rfl, ?_⟩
  generalize execute first machine = ran at held ⊢
  rcases ran with ⟨(fault | signal) | value, next⟩ <;> exact held

/-- A signal that is made and raised, or the fault met in making it. -/
theorem holds_ofMade (state : State) {made : Except Fault Signal}
    (raised : ∀ signal, made = .ok signal → law.holds state (.stopped signal.cause) state) :
    law.holds state (Ending.of (.error (.ofMade made) : Except Stop α)) state := by
  cases made with
  | error fault => exact law.faulted state fault
  | ok signal => exact raised signal rfl

/-- A limit is reached. -/
theorem holds_ofLimit (state : State) (kind : String) (message : String → String) (bound : Int) :
    law.holds state
      (Ending.of (.error (.ofMade (Signal.ofLimit kind message bound)) : Except Stop α)) state := by
  refine holds_ofMade state fun signal made => ?_
  obtain ⟨text, same⟩ := Signal.cause_of_ofLimit made
  rw [same]
  exact law.raised state fun _ => nofun

theorem obeys_checkFailure (outcome : Outcome) :
    law.Obeys (Action.checkFailure outcome : Action φ σ Unit) := by
  intro machine
  unfold Action.checkFailure after
  rw [execute_state_bind]
  split
  · rename_i fatal
    refine holds_ofMade machine.state fun signal made => ?_
    rw [Signal.cause_of_make made]
    exact law.fatal fatal
  · exact law.stay machine.state

/-- A signal that reaches a loop is settled there, or goes on. -/
theorem holds_settle {start : State} (soFar : Outcome) {signal : Signal} {machine : Machine φ σ}
    (held : law.holds start (.stopped signal.cause) machine.state) :
    law.holds start (Ending.of (execute (Action.settle soFar signal) machine).1)
      (after (Action.settle soFar signal) machine).state := by
  rw [after_settle]
  obtain ⟨cause, stdout, stderr⟩ := signal
  unfold Action.settle
  cases cause with
  | leaveLoop levels =>
    have settled : law.holds start .finished machine.state := law.caught rfl held
    dsimp only
    rw [execute_state_bind]
    split
    · exact law.chain settled (law.raised machine.state fun _ => nofun)
    · exact settled
  | nextRound levels =>
    have settled : law.holds start .finished machine.state := law.caught rfl held
    dsimp only
    rw [execute_state_bind]
    split
    · exact law.chain settled (law.raised machine.state fun _ => nofun)
    · exact settled
  | _ => exact held

theorem Alike.part {further : State → Prop} (leads : law.Leads domain further)
    {first second : Action φ σ Outcome} {next onward : Outcome → Action φ σ Round}
    (alike : law.Alike domain first second)
    (rest : ∀ outcome, law.Alike further (next outcome) (onward outcome)) (soFar : Outcome) :
    law.Alike domain (Action.part soFar first next) (Action.part soFar second onward) := by
  intro machine member
  obtain ⟨same, held⟩ := alike machine member
  unfold after at held ⊢
  rw [execute_part, execute_part, ← same]
  generalize execute first machine = ran at held ⊢
  rcases ran with ⟨(fault | signal) | outcome, middle⟩
  · exact ⟨rfl, held⟩
  · exact ⟨rfl, holds_settle soFar held⟩
  · obtain ⟨sameRest, heldRest⟩ := rest outcome middle (leads member held)
    exact ⟨sameRest, law.chain held heldRest⟩

theorem obeys_iterationsSignal (kind : String) :
    law.Obeys (Action.raise (Action.iterationsSignal limits kind) : Action φ σ α) :=
  fun machine => holds_ofLimit machine.state _ _ _

theorem obeys_setVariable (name word : String) :
    law.Obeys (Action.write (State.setVariable name word) : Action φ σ Unit) := by
  intro machine
  rw [after_write, execute_write]
  exact law.assigned rfl

end Actions

/-- The states from which lists of statements are run, and those from which single statements
are. -/
structure Domain (limits : Limits) (law : Law) where
  list : State → Prop
  statement : State → Prop
  list_of_statement {state : State} : statement state → list state
  closed : law.Leads list list
  counted {state : State} : list state → ¬ limits.commands < state.commandCount + 1 →
    statement { state with commandCount := state.commandCount + 1 }
  looped {state : State} : list state → list { state with loopDepth := state.loopDepth + 1 }
  conditioned {state : State} : list state → list { state with inCondition := true }
  entered {name : String} {source : Option String} {args : List String} {line : Option Int}
    {state inside : State} {frame : Frame} : statement state →
    execute (State.openFrame limits name source args line) state = (.ok frame, inside) →
    statement inside

/-- All states. -/
def everywhere (limits : Limits) (law : Law) : law.Domain limits where
  list _ := True
  statement _ := True
  list_of_statement := id
  closed _ _ := trivial
  counted _ _ := trivial
  looped := id
  conditioned := id
  entered _ _ := trivial

section Scripts

variable {κ σ : Type} {limits : Limits} {law : Law} {within : State → Prop}
  {first second : Run κ σ Outcome}

theorem Alike.noted (alike : law.Alike within first second) :
    law.Alike within (noted first) (noted second) := by
  refine Alike.bind (fun _ _ => trivial : law.Leads within fun _ => True) alike fun outcome => ?_
  refine Obeys.alike
    (Obeys.bind (fun machine => law.marked machine.state outcome.status) fun _ => ?_) _
  exact (obeys_checkFailure outcome).bind fun _ => obeys_pure outcome

section Statements

variable (domain : law.Domain limits)

/-- A statement is run only if it can be counted. -/
theorem Alike.runOne (alike : law.Alike domain.statement first second) :
    law.Alike domain.list (Action.runOne limits first) (Action.runOne limits second) := by
  intro machine member
  have count : law.holds machine.state .finished machine.counted.state := law.counted machine.state
  have counting := execute_countCommand limits machine
  by_cases refused : limits.commands < machine.state.commandCount + 1
  · rw [if_pos refused] at counting
    have stops : ∀ statement : Run κ σ Outcome, execute (Action.runOne limits statement) machine =
        (.error (.ofMade (Action.commandsSignal limits)), machine.counted) := fun _ =>
      execute_bind_of_error counting
    rw [after, stops, stops]
    exact ⟨rfl, law.chain count (holds_ofLimit machine.counted.state _ _ _)⟩
  · rw [if_neg refused] at counting
    obtain ⟨same, held⟩ := alike.noted machine.counted (domain.counted member refused)
    unfold after at held ⊢
    rw [execute_runOne counting, execute_runOne counting]
    exact ⟨same, law.chain count held⟩

theorem alike_runAll {statements others : List (Run κ σ Outcome)}
    (each : List.Forall₂ (law.Alike domain.statement) statements others) (before : Outcome) :
    law.Alike domain.list (Action.runAll limits statements before)
      (Action.runAll limits others before) := by
  induction each generalizing before with
  | nil => exact (obeys_pure before).alike _
  | cons alike _ inductionHypothesis =>
    exact ((alike.runOne domain).preceded _ _).bind domain.closed fun _ => inductionHypothesis _

theorem alike_condition {statements others : List (Run κ σ Outcome)}
    (each : List.Forall₂ (law.Alike domain.statement) statements others) :
    law.Alike domain.list (Action.condition limits statements)
      (Action.condition limits others) := by
  intro machine member
  obtain ⟨same, held⟩ := alike_runAll domain each {} (Trace.inCondition machine)
    (domain.conditioned member)
  have ran : ∀ statements : List (Run κ σ Outcome),
      execute (Action.condition limits statements) machine =
        execute (Action.ensuring (Action.runAll limits statements {}) (Action.changeState
          fun state => { state with inCondition := machine.state.inCondition }))
          (Trace.inCondition machine) := fun _ => rfl
  rw [after, ran, ran]
  refine ⟨execute_ensuring_congr same, ?_⟩
  rw [execute_ensuring]
  exact law.conditioned held

theorem Alike.leavingLoop (alike : law.Alike domain.list first second)
    {machine : Machine (Function κ) σ} (member : domain.list machine.state) :
    execute (leavingLoop first) (Trace.inLoop machine) =
        execute (leavingLoop second) (Trace.inLoop machine) ∧
      law.holds machine.state (Ending.of (execute (leavingLoop first) (Trace.inLoop machine)).1)
        (after (leavingLoop first) (Trace.inLoop machine)).state := by
  obtain ⟨same, held⟩ := alike (Trace.inLoop machine) (domain.looped member)
  refine ⟨execute_ensuring_congr same, ?_⟩
  unfold Shell.leavingLoop after
  rw [execute_ensuring]
  exact law.looped held

theorem Alike.insideLoop (alike : law.Alike domain.list first second) :
    law.Alike domain.list (Action.insideLoop first) (Action.insideLoop second) := fun _ member =>
  alike.leavingLoop domain member

theorem Alike.bodyPart (alike : law.Alike domain.list first second) (soFar : Outcome) :
    law.Alike domain.list (bodyPart soFar first) (bodyPart soFar second) :=
  alike.part domain.closed (fun _ => (obeys_pure _).alike _) soFar

theorem Alike.wordRounds (alike : law.Alike domain.list first second) (name : String)
    (words : List String) (rounds : Int) (soFar : Outcome) :
    law.Alike domain.list (Action.wordRounds limits name first rounds words soFar)
      (Action.wordRounds limits name second rounds words soFar) := by
  induction words generalizing rounds soFar with
  | nil => exact (obeys_pure soFar).alike _
  | cons word rest inductionHypothesis =>
    unfold Action.wordRounds
    split
    · exact (obeys_iterationsSignal "for").alike _
    · refine Alike.bind domain.closed ((obeys_setVariable name word).alike _) fun _ => ?_
      refine (alike.bodyPart domain soFar).bind domain.closed fun round => ?_
      cases round with
      | again soFar => exact inductionHypothesis _ soFar
      | done soFar => exact (obeys_pure soFar).alike _

theorem alike_conditionPart {check other : Run κ σ Outcome}
    (checks : law.Alike domain.list check other) (alike : law.Alike domain.list first second)
    (negated : Bool) (soFar : Outcome) :
    law.Alike domain.list (conditionPart soFar negated check first)
      (conditionPart soFar negated other second) := by
  refine checks.part domain.closed (fun checked => ?_) soFar
  split
  · exact (obeys_pure _).alike _
  · exact alike.bodyPart domain _

theorem alike_conditionRounds {check other : Run κ σ Outcome}
    (checks : law.Alike domain.list check other) (alike : law.Alike domain.list first second)
    (negated : Bool) (left : Nat) (soFar : Outcome) :
    law.Alike domain.list (Action.conditionRounds limits negated check first left soFar)
      (Action.conditionRounds limits negated other second left soFar) := by
  induction left generalizing soFar with
  | zero => exact (obeys_iterationsSignal (Action.loopKind negated)).alike _
  | succ left inductionHypothesis =>
    have first := alike_conditionPart domain checks alike negated soFar
    refine first.bind domain.closed fun round => ?_
    cases round with
    | again soFar => exact inductionHypothesis soFar
    | done soFar => exact (obeys_pure soFar).alike _

theorem Alike.catchReturn (alike : law.Alike within first second) :
    law.Alike within (Function.catchReturn first) (Function.catchReturn second) := by
  intro machine member
  obtain ⟨same, held⟩ := alike machine member
  rw [after_catchReturn]
  unfold after at held ⊢
  unfold Function.catchReturn
  rw [execute_bind_of_ok (execute_observe first machine),
    execute_bind_of_ok (execute_observe second machine), ← same]
  refine ⟨rfl, ?_⟩
  generalize execute first machine = ran at held ⊢
  rcases ran with ⟨(fault | ⟨cause, stdout, stderr⟩) | outcome, next⟩
  · exact held
  · cases cause with
    | leaveFunction status => exact law.caught rfl held
    | _ => exact held
  · exact held

/-- A call goes on as its body does, once its frame is open. -/
theorem Alike.call (alike : law.Alike domain.statement first second) (function : Function κ)
    (args : List String) (line : Option Int) :
    law.Alike domain.statement (function.call limits args line first)
      (function.call limits args line second) := by
  intro machine member
  unfold Function.call after
  rw [execute_bind, execute_bind, execute_onState]
  cases opened : execute (State.openFrame limits function.name (some function.source) args line)
      machine.state with
  | mk result inside =>
    cases result with
    | error stop =>
      have deep := State.stop_of_openFrame opened
      rw [State.execute_openFrame_error opened, deep]
      exact ⟨rfl, holds_ofLimit machine.state _ _ _⟩
    | ok frame =>
      obtain ⟨same, held⟩ := alike.catchReturn { machine with state := inside }
        (domain.entered member opened)
      refine ⟨execute_ensuring_congr same, ?_⟩
      dsimp only
      rw [execute_ensuring, execute_write]
      cases closed : execute (State.closeFrame frame)
          (after (Function.catchReturn first) { machine with state := inside }).state with
      | mk result last =>
        have ends := law.called opened held closed
        unfold after at closed
        rw [closed]
        cases result with
        | error fault => exact ends
        | ok value => exact ends

end Statements

section Leaves

theorem cause_of_levels {builtin : Builtin} {args : List String} {signal : Signal}
    (failed : builtin.levels args = .error signal) : ∃ status, signal.cause = .exit status := by
  unfold Builtin.levels at failed
  split at failed
  · exact nomatch failed
  · split at failed
    · cases failed
      exact ⟨128, rfl⟩
    · split at failed
      · cases failed
        exact ⟨128, rfl⟩
      · exact nomatch failed

theorem cause_of_loopControl {builtin : Builtin} {cause : Int → Cause} {state : State}
    {args : List String} {signal : Signal}
    (failed : builtin.loopControl cause state args = .error signal) :
    (∃ status, signal.cause = .exit status) ∨ (∃ levels, signal.cause = cause levels) ∨
      signal.cause = .leaveSubshell := by
  unfold Builtin.loopControl at failed
  cases counted : builtin.levels args with
  | error other =>
    rw [counted] at failed
    cases failed
    exact .inl (cause_of_levels counted)
  | ok levels =>
    rw [counted] at failed
    change (if _ then _ else if _ then _ else if _ then _ else _) = _ at failed
    split at failed
    · exact nomatch failed
    · split at failed
      · cases failed
        exact .inr (.inl ⟨levels, rfl⟩)
      · split at failed
        · cases failed
          exact .inr (.inr rfl)
        · exact nomatch failed

/-- No builtin reports a failed command. -/
theorem cause_of_apply {builtin : Builtin} {state : State} {args : List String} {signal : Signal}
    (failed : builtin.apply state args = .error (.signal signal)) (status : Int) :
    signal.cause ≠ .commandFailed status := by
  have ofLoop : ∀ {which : Builtin} {cause : Int → Cause},
      (∀ levels, cause levels ≠ .commandFailed status) →
      (which.loopControl cause state args).mapError Stop.signal = .error (.signal signal) →
      signal.cause ≠ .commandFailed status := by
    intro which cause others failed same
    cases ran : which.loopControl cause state args with
    | ok outcome =>
      rw [ran] at failed
      exact nomatch failed
    | error stopped =>
      rw [ran] at failed
      cases failed
      rcases cause_of_loopControl ran with ⟨_, other⟩ | ⟨_, other⟩ | other
      · exact nomatch same.symm.trans other
      · exact others _ (other.symm.trans same)
      · exact nomatch same.symm.trans other
  unfold Builtin.apply at failed
  split at failed
  · exact ofLoop (fun _ => Cause.noConfusion) failed
  · exact ofLoop (fun _ => Cause.noConfusion) failed
  · split at failed
    · cases failed
      exact Cause.noConfusion
    · exact nomatch failed
  · split at failed
    · cases made : Signal.make (.exit _) "" "" with
      | error fault =>
        rw [made] at failed
        exact nomatch failed
      | ok exits =>
        rw [made] at failed
        cases failed
        rw [Signal.cause_of_make made]
        exact Cause.noConfusion
    · cases failed
      exact Cause.noConfusion

theorem obeys_builtin (which : Builtin) (args : List String) :
    law.Obeys (which.action args : Run κ σ Outcome) := by
  intro machine
  unfold Builtin.action after
  rw [execute_state_bind]
  cases applied : which.apply machine.state args with
  | ok outcome => exact law.stay machine.state
  | error stop =>
    cases stop with
    | fault fault => exact law.faulted machine.state fault
    | signal signal => exact law.raised machine.state (cause_of_apply applied)

theorem obeys_define (name : String) (body : List (Statement κ)) (source reading : Option String) :
    law.Obeys (Function.define name body source reading : Run κ σ Outcome) := by
  intro machine
  unfold Function.define after
  rw [execute_state_bind]
  split
  · refine holds_ofMade machine.state fun signal made => ?_
    cases spelled : spell machine.state.line with
    | error fault =>
      rw [spelled] at made
      exact nomatch made
    | ok line =>
      rw [spelled] at made
      rw [Signal.cause_of_make made]
      exact law.raised machine.state fun _ => nofun
  · exact law.stay machine.state

theorem obeys_words (words : Words) : law.Obeys (words.get : Run κ σ (List String)) := by
  intro machine
  unfold after
  obtain ⟨found, ran⟩ | ⟨fault, ran⟩ := words.execute_get machine
  · rw [ran]
    exact law.stay machine.state
  · rw [ran]
    exact law.faulted machine.state fault

end Leaves

end Scripts

end Law

section Runs

variable {κ σ : Type} {context : Context κ σ} {law : Law} (domain : law.Domain context.limits)

mutual

theorem Statement.alike_action {callee other : Function κ → String → Run κ σ Outcome}
    (leaves : ∀ leaf stdin, law.Obeys (context.host leaf stdin))
    (called : ∀ function input,
      law.Alike domain.statement (callee function input) (other function input))
    (stdin : String) : (statement : Statement κ) →
    law.Alike domain.statement (statement.action context callee stdin)
      (statement.action context other stdin)
  | .command leaf => by
    rw [Statement.action, Statement.action]
    exact (leaves leaf stdin).alike _
  | .builtin which args => by
    rw [Statement.action, Statement.action]
    exact (Law.obeys_builtin which args).alike _
  | .group body before => by
    rw [Statement.action, Statement.action]
    refine Law.Alike.mono ?_ fun _ => domain.list_of_statement
    exact Law.alike_runAll domain (Statement.alike_actions leaves called stdin body) _
  | .branch condition thenBody elseBody => by
    rw [Statement.action, Statement.action]
    refine Law.Alike.mono ?_ fun _ => domain.list_of_statement
    refine (Law.alike_condition domain (Statement.alike_actions leaves called stdin condition)).bind
      domain.closed fun checked => ?_
    dsimp only
    split
    · exact Law.alike_runAll domain (Statement.alike_actions leaves called stdin thenBody) _
    · exact Law.alike_runAll domain (Statement.alike_actions leaves called stdin elseBody) _
  | .forEach name words body => by
    rw [Statement.action, Statement.action]
    refine Law.Alike.mono ?_ fun _ => domain.list_of_statement
    refine ((Law.obeys_words words).alike _).bind domain.closed fun found => ?_
    split
    · refine Law.Alike.insideLoop domain (Law.Alike.wordRounds domain ?_ name found 0 {})
      exact Law.alike_runAll domain (Statement.alike_actions leaves called stdin body) {}
    · exact (Law.obeys_pure _).alike _
  | .whileLoop negated condition body => by
    rw [Statement.action, Statement.action]
    refine Law.Alike.mono ?_ fun _ => domain.list_of_statement
    refine Law.Alike.insideLoop domain (Law.alike_conditionRounds domain ?_ ?_ negated _ {})
    · exact Law.alike_condition domain (Statement.alike_actions leaves called stdin condition)
    · exact Law.alike_runAll domain (Statement.alike_actions leaves called stdin body) {}
  | .define name body source reading => by
    rw [Statement.action, Statement.action]
    exact (Law.obeys_define name body source reading).alike _
  | .call name args input line => by
    rw [Statement.action, Statement.action]
    intro machine member
    rw [after_get_bind, execute_get_bind, execute_get_bind]
    split
    · exact ⟨rfl, law.stay machine.state⟩
    · exact (called _ input).call domain _ args line machine member

theorem Statement.alike_actions {callee other : Function κ → String → Run κ σ Outcome}
    (leaves : ∀ leaf stdin, law.Obeys (context.host leaf stdin))
    (called : ∀ function input,
      law.Alike domain.statement (callee function input) (other function input))
    (stdin : String) : (statements : List (Statement κ)) →
    List.Forall₂ (law.Alike domain.statement) (Statement.actions context callee stdin statements)
      (Statement.actions context other stdin statements)
  | [] => by
    rw [Statement.actions, Statement.actions]
    exact .nil
  | statement :: rest => by
    rw [Statement.actions, Statement.actions]
    exact .cons (Statement.alike_action leaves called stdin statement)
      (Statement.alike_actions leaves called stdin rest)

end

end Runs

section Obeying

variable {κ σ : Type} {context : Context κ σ} {law : Law}

open Place (actions)

theorem Law.obeys_of_alike {α : Type} {domain : State → Prop} {action : Run κ σ α}
    (alike : law.Alike domain action action) (all : ∀ state, domain state) : law.Obeys action :=
  fun machine => (alike machine (all _)).2

theorem Context.obeys_callee (leaves : ∀ leaf stdin, law.Obeys (context.host leaf stdin))
    (depth : Nat) (function : Function κ) (stdin : String) :
    law.Obeys (context.callee depth function stdin) := by
  induction depth generalizing function stdin with
  | zero => exact Law.obeys_fault .nestingTooDeep
  | succ depth inductionHypothesis =>
    have each := Statement.alike_actions (law.everywhere context.limits) leaves
      (fun function input => (inductionHypothesis function input).alike _) stdin function.body
    exact Law.obeys_of_alike (Law.alike_runAll _ each {}) fun _ => trivial

namespace Place

variable (leaves : ∀ leaf stdin, law.Obeys (context.host leaf stdin)) (depth : Nat)
  (stdin : String)

include leaves

theorem obeys_statement (statement : Statement κ) :
    law.Obeys (statement.action context (context.callee depth) stdin) :=
  Law.obeys_of_alike (Statement.alike_action (law.everywhere context.limits) leaves
    (fun function input => (Context.obeys_callee leaves depth function input).alike _) stdin
    statement) fun _ => trivial

theorem obeys_runOne (statement : Statement κ) :
    law.Obeys
      (Action.runOne context.limits (statement.action context (context.callee depth) stdin)) :=
  Law.obeys_of_alike (Law.Alike.runOne (law.everywhere context.limits)
    ((obeys_statement leaves depth stdin statement).alike _)) fun _ => trivial

theorem forall₂_alike_actions (statements : List (Statement κ)) :
    List.Forall₂ (law.Alike (law.everywhere context.limits).statement)
      (actions context depth stdin statements) (actions context depth stdin statements) :=
  Statement.alike_actions (law.everywhere context.limits) leaves
    (fun function input => (Context.obeys_callee leaves depth function input).alike _) stdin
    statements

theorem obeys_runAll (statements : List (Statement κ)) (before : Outcome) :
    law.Obeys (Action.runAll context.limits (actions context depth stdin statements) before) :=
  Law.obeys_of_alike (Law.alike_runAll _ (forall₂_alike_actions leaves depth stdin statements)
    before) fun _ => trivial

theorem obeys_condition (statements : List (Statement κ)) :
    law.Obeys (Action.condition context.limits (actions context depth stdin statements)) :=
  Law.obeys_of_alike (Law.alike_condition _ (forall₂_alike_actions leaves depth stdin statements))
    fun _ => trivial

theorem obeys_bodyPart (body : List (Statement κ)) (soFar : Outcome) :
    law.Obeys (bodyPart soFar
      (Action.sequence context.limits (actions context depth stdin body))) :=
  Law.obeys_of_alike (Law.Alike.bodyPart (law.everywhere context.limits)
    ((obeys_runAll leaves depth stdin body {}).alike _) soFar) fun _ => trivial

theorem obeys_conditionPart (negated : Bool) (condition body : List (Statement κ))
    (soFar : Outcome) :
    law.Obeys (conditionPart soFar negated
      (Action.condition context.limits (actions context depth stdin condition))
      (Action.sequence context.limits (actions context depth stdin body))) :=
  Law.obeys_of_alike (Law.alike_conditionPart (law.everywhere context.limits)
    ((obeys_condition leaves depth stdin condition).alike _)
    ((obeys_runAll leaves depth stdin body {}).alike _) negated soFar) fun _ => trivial

end Place

end Obeying

namespace Law

variable {κ σ : Type} {context : Context κ σ} {law : Law}

theorem Obeys.ended {α : Type} {action : Run κ σ α} (obeys : law.Obeys action)
    {machine next : Machine (Function κ) σ} {result : Except Stop α}
    (ran : execute action machine = (result, next)) :
    law.holds machine.state (Ending.of result) next.state := by
  have held := obeys machine
  unfold after at held
  rw [ran] at held
  exact held

theorem Obeys.finished {α : Type} {action : Run κ σ α} (obeys : law.Obeys action)
    {machine next : Machine (Function κ) σ} {value : α}
    (ran : execute action machine = (.ok value, next)) :
    law.holds machine.state .finished next.state := obeys.ended ran

/-- How the state at which a part of a run begins comes from the state before. -/
inductive Begins (law : Law) (limits : Limits) (first : State) : State → Prop
  | onward {second : State} : law.holds first .finished second → Begins law limits first second
  | conditioned : Begins law limits first { first with inCondition := true }
  | looped : Begins law limits first { first with loopDepth := first.loopDepth + 1 }
  | entered {name : String} {source : Option String} {args : List String} {line : Option Int}
    {frame : Frame} {inside : State} :
    execute (State.openFrame limits name source args line) first = (.ok frame, inside) →
    Begins law limits first inside

end Law

theorem counted_of_execute {φ σ : Type} {limits : Limits} {machine ready : Machine φ σ}
    (ran : execute (Action.countCommand limits) machine = (.ok (), ready)) :
    ready = machine.counted ∧ machine.state.commandCount + 1 ≤ limits.commands := by
  rw [execute_countCommand] at ran
  split at ran
  · exact nomatch (Prod.mk.inj ran).1
  · rename_i allowed
    exact ⟨(Prod.mk.inj ran).2.symm, Int.not_lt.mp allowed⟩

theorem commandCount_topLevel_throw {κ σ : Type} (limits : Limits) (soFar : Outcome) (fault : Fault)
    (machine : Machine (Function κ) σ) :
    (after (Context.topLevel limits [throw (.fault fault)] soFar) machine).state.commandCount =
      machine.state.commandCount + 1 := by
  have counting := execute_countCommand limits machine
  rw [after, topLevel_cons, execute_bind, execute_observe]
  split at counting
  · have refused : execute (Action.runOne limits (throw (.fault fault) : Run κ σ Outcome)) machine =
        _ := execute_bind_of_error counting
    rw [refused]
    cases made : Action.commandsSignal limits with
    | error unspelled => rfl
    | ok signal =>
      obtain ⟨cause, stdout, stderr⟩ := signal
      obtain ⟨text, rfl⟩ := Signal.cause_of_ofLimit made
      rfl
  · rw [execute_runOne counting]
    rfl

/-- A script goes on after a statement only if the statement has succeeded, or has stopped with a
signal for loops or functions. -/
theorem ending_of_goesOn {κ σ : Type} {limits : Limits} {soFar all : Outcome}
    {ended : Except Stop Outcome} {next last : Machine (Function κ) σ}
    (goesOn : ∀ rest, execute (afterStatement limits rest soFar ended) next =
      execute (Context.topLevel limits rest all) last) :
    Ending.of ended = .finished ∨ ∃ cause, Ending.of ended = .stopped cause ∧
      cause.leavesScope = true := by
  rcases ended with (fault | ⟨cause, stdout, stderr⟩) | outcome
  · exact nomatch (Prod.mk.inj (goesOn [])).1
  · -- Any other signal ends the script, while one more statement would still have been counted.
    by_cases scope : cause.leavesScope = true
    · exact .inr ⟨cause, rfl, scope⟩
    · exfalso
      have ends : ∀ rest, execute (afterStatement limits rest soFar
          (.error (.signal ⟨cause, stdout, stderr⟩))) next =
            (.ok { Action.withOutput soFar ⟨cause, stdout, stderr⟩ with status := cause.status },
              next) := by
        intro rest
        cases cause <;> first | rfl | exact absurd rfl scope
      have same : last = next := (Prod.mk.inj ((goesOn []).symm.trans (ends []))).2
      have stays := after_eq_of_execute ((goesOn [throw (.fault .noFrame)]).symm.trans (ends _))
      have counts := commandCount_topLevel_throw limits all .noFrame last
      rw [stays, same] at counts
      omega
  · exact .inl rfl

/-- The rest of a script begins where the statement before it has ended. -/
theorem holds_of_goesOn {κ σ : Type} {limits : Limits} {law : Law} {start : State}
    {soFar all : Outcome} {ended : Except Stop Outcome} {next last : Machine (Function κ) σ}
    (held : law.holds start (Ending.of ended) next.state)
    (goesOn : ∀ rest, execute (afterStatement limits rest soFar ended) next =
      execute (Context.topLevel limits rest all) last) :
    law.holds start .finished last.state := by
  have onward : law.holds start .finished next.state := by
    rcases ending_of_goesOn goesOn with finished | ⟨cause, stopped, scope⟩
    · rwa [finished] at held
    · rw [stopped] at held
      exact law.caught scope held
  have ends := goesOn []
  rcases ended with (fault | ⟨cause, stdout, stderr⟩) | outcome
  · exact nomatch (Prod.mk.inj ends).1
  · cases cause with
    | leaveFunction status =>
      rw [← (Prod.mk.inj ends).2]
      exact law.chain onward (law.marked next.state _)
    | _ =>
      rw [← (Prod.mk.inj ends).2]
      exact onward
  · rw [← (Prod.mk.inj ends).2]
    exact onward

/-- The piece is a script that is run as a whole, from its start. -/
def Code.isExec {κ : Type} : Code κ → Bool
  | exec _ => true
  | _ => false

theorem Advance.isExec_next {κ σ : Type} {context : Context κ σ} {place next : Place κ σ}
    {enclosures : List (Enclosure κ σ)} (step : Advance context place enclosures next) :
    next.code.isExec = false := by
  cases step <;> rfl

/-- The state at the next place comes from the state before by a law that all leaves obey. -/
theorem Advance.begins {κ σ : Type} {context : Context κ σ} {law : Law} {place next : Place κ σ}
    {enclosures : List (Enclosure κ σ)} (leaves : ∀ leaf stdin, law.Obeys (context.host leaf stdin))
    (step : Advance context place enclosures next) (part : place.code.isExec = false) :
    law.Begins context.limits place.machine.state next.machine.state := by
  cases step with
  | run => exact .onward (law.stay _)
  | test => exact .onward (law.stay _)
  | exec start => exact Bool.noConfusion part
  | firstOfScript ran =>
    rw [(counted_of_execute ran).1]
    exact .onward (law.counted _)
  | laterInScript ran goesOn =>
    exact .onward (holds_of_goesOn ((Place.obeys_runOne leaves _ _ _).ended ran) goesOn)
  | first ran =>
    rw [(counted_of_execute ran).1]
    exact .onward (law.counted _)
  | later ran => exact .onward ((Place.obeys_runOne leaves _ _ _).finished ran)
  | condition => exact .conditioned
  | group => exact .onward (law.stay _)
  | branchCondition => exact .onward (law.stay _)
  | branchBody ran => exact .onward ((Place.obeys_condition leaves _ _ _).finished ran)
  | forEach found named =>
    rcases Words.execute_get _ _ with ⟨words, ran⟩ | ⟨fault, ran⟩
    · rw [ran] at found
      cases found
      exact .looped
    · rw [ran] at found
      exact nomatch (Prod.mk.inj found).1
  | word allowed assigned => exact .onward ((Law.obeys_setVariable _ _).finished assigned)
  | nextWord allowed assigned again =>
    exact .onward (law.chain ((Law.obeys_setVariable _ _).finished assigned)
      ((Place.obeys_bodyPart leaves _ _ _ _).finished again))
  | whileLoop => exact .looped
  | check => exact .onward (law.stay _)
  | checked ran holds => exact .onward ((Place.obeys_condition leaves _ _ _).finished ran)
  | nextCheck again => exact .onward ((Place.obeys_conditionPart leaves _ _ _ _ _ _).finished again)
  | call found opened =>
    rw [execute_onState] at opened
    obtain ⟨ran, rfl⟩ := Prod.mk.inj opened
    exact .entered (Prod.ext ran rfl)

end Shell
