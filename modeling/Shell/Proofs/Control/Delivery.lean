import Mathlib.Data.List.Forall2
import Shell.Proofs.Control.Output
import Shell.Proofs.Control.Rounds

/-!
# What a run delivers

One lemma for each construct: if its parts deliver what is left of the output of
their events, then so does the whole. The output that was collected before stands in
front, whichever way the construct ends.
-/

namespace Shell

open Running

def Outcome.output (outcome : Outcome) : Output := ⟨outcome.stdout, outcome.stderr⟩

def Signal.output (signal : Signal) : Output := ⟨signal.stdout, signal.stderr⟩

def Round.output : Round → Output
  | again soFar | done soFar => soFar.output

@[simp]
theorem output_andThen (first next : Outcome) :
    (first.andThen next).output = first.output ++ next.output := rfl

@[simp]
theorem output_after (signal : Signal) (before : Outcome) :
    (signal.after before.stdout before.stderr).output = before.output ++ signal.output := rfl

@[simp]
theorem output_withOutput (soFar : Outcome) (signal : Signal) :
    (Action.withOutput soFar signal).output = soFar.output ++ signal.output := rfl

/-- The output that comes with a result; a fault brings none. -/
def delivered : Except Stop Outcome → Option Output
  | .ok outcome => some outcome.output
  | .error (.signal signal) => some signal.output
  | .error (.fault _) => none

/-- A result comes with this output, unless it is a fault. -/
def Carries {α : Type} (view : α → Output) (output : Output) : Except Stop α → Prop
  | .ok value => view value = output
  | .error (.signal signal) => signal.output = output
  | .error (.fault _) => True

theorem Carries.delivered {output : Output} {result : Except Stop Outcome}
    (carries : Carries Outcome.output output result) {arrived : Output}
    (arrives : Shell.delivered result = some arrived) : arrived = output := by
  rcases result with (fault | signal) | outcome
  · exact nomatch arrives
  · exact (Option.some.inj arrives).symm.trans carries
  · exact (Option.some.inj arrives).symm.trans carries

/-- A stop carries what it prints. -/
theorem carries_ofStop {α : Type} (view : α → Output) (stop : Stop) :
    Carries view (Event.keptAll (Trace.ofStop stop)) (.error stop) := by
  cases stop with
  | fault fault => trivial
  | signal signal => exact (Output.append_empty signal.output).symm

/-- The action delivers what is left of the output of the events in its trace. -/
def Delivers {φ σ : Type} (action : Action φ σ Outcome) (trace : Trace φ σ) : Prop :=
  ∀ machine, Carries Outcome.output (Event.keptAll (trace machine)) (execute action machine).1

section Sequences

variable {φ σ : Type} {limits : Limits}

theorem delivers_leaf (action : Action φ σ Outcome) : Delivers action (Trace.leaf action) := by
  intro machine
  unfold Trace.leaf
  rcases (execute action machine).1 with stop | outcome
  · exact carries_ofStop Outcome.output stop
  · exact (Output.append_empty outcome.output).symm

theorem delivers_guarded {α : Type} {action : Action φ σ α} {next : α → Action φ σ Outcome}
    {rest : α → Trace φ σ} (delivers : ∀ value, Delivers (next value) (rest value)) :
    Delivers (action >>= next) (Trace.guarded action rest) := by
  intro machine
  rw [execute_bind, Trace.guarded]
  rcases execute action machine with ⟨stop | value, middle⟩
  · exact carries_ofStop Outcome.output stop
  · exact delivers value middle

theorem delivers_onward {action : Action φ σ Outcome} {trace : Trace φ σ}
    {next : Outcome → Action φ σ Outcome} {rest : Outcome → Trace φ σ}
    (delivers : Delivers action trace)
    (onward : ∀ outcome machine, Carries Outcome.output
      (outcome.output ++ Event.keptAll (rest outcome machine))
      (execute (next outcome) machine).1) :
    Delivers (action >>= next) fun machine =>
      trace machine ++ Trace.onward action rest machine := by
  intro machine
  have first := delivers machine
  unfold Trace.onward
  rw [execute_bind, Event.keptAll_append]
  generalize execute action machine = ran at first ⊢
  rcases ran with ⟨stop | outcome, middle⟩
  · rw [Event.keptAll, Output.append_empty]
    exact first
  · rw [← show outcome.output = _ from first]
    exact onward outcome middle

/-- A signal of a cause that reports nothing carries the output it is made with. -/
theorem carries_make {α : Type} (view : α → Output) {cause : Cause} (silent : cause.report = "")
    (output : Output) :
    Carries view output (.error (.ofMade (Signal.make cause output.stdout output.stderr))) := by
  unfold Signal.make
  cases cause.message with
  | error fault => trivial
  | ok text =>
    refine Output.ext rfl ?_
    change (if output.stderr.isEmpty then cause.report else output.stderr) = output.stderr
    rw [silent]
    split
    · rename_i empty
      exact (String.isEmpty_iff.mp empty).symm
    · rfl

/-- A failure that is fatal takes the output of the statement that failed along. -/
theorem execute_checkFailure (outcome : Outcome) (machine : Machine φ σ) :
    execute (Action.checkFailure outcome) machine = (.ok (), machine) ∨
      ∃ stop, execute (Action.checkFailure outcome) machine = (.error stop, machine) ∧
        Carries Outcome.output outcome.output (.error stop) := by
  unfold Action.checkFailure
  rw [execute_state_bind]
  split
  · exact Or.inr ⟨_, rfl, carries_make Outcome.output rfl outcome.output⟩
  · exact Or.inl rfl

theorem delivers_one {statement : Action φ σ Outcome} {trace : Trace φ σ}
    (delivers : Delivers statement trace) :
    Delivers (Action.runOne limits statement) (Trace.one limits trace) := by
  refine delivers_guarded fun _ machine => ?_
  have whole := delivers machine
  rw [execute_bind]
  generalize execute statement machine = ran at whole ⊢
  rcases ran with ⟨stop | outcome, next⟩
  · exact whole
  · change Carries _ _ (execute (Action.changeState _ >>= _) next).1
    rw [execute_changeState_bind]
    rcases execute_checkFailure outcome
      { next with state := { next.state with lastStatus := outcome.status } } with
      passed | ⟨stop, failed, carries⟩
    · rw [execute_bind_of_ok passed]
      exact whole
    · rw [execute_bind_of_error failed, ← show outcome.output = _ from whole]
      exact carries

/-- A list of statements delivers the output before it and then that of its statements. -/
theorem carries_all {statements : List (Action φ σ Outcome)} {traces : List (Trace φ σ)}
    (parts : List.Forall₂ Delivers statements traces) (before : Outcome)
    (machine : Machine φ σ) :
    Carries Outcome.output
      (before.output ++ Event.keptAll (Trace.all limits statements traces machine))
      (execute (Action.runAll limits statements before) machine).1 := by
  induction parts generalizing before machine with
  | nil => exact (Output.append_empty before.output).symm
  | @cons statement trace statements traces delivers _ inductionHypothesis =>
    have first : Carries Outcome.output _ (execute (Action.runOne limits statement) machine).1 :=
      delivers_one delivers machine
    rw [Action.runAll, execute_bind, execute_preceded, Trace.all, Event.keptAll_append,
      Trace.onward, ← Output.append_assoc]
    generalize execute (Action.runOne limits statement) machine = ran at first ⊢
    rcases ran with ⟨(fault | signal) | outcome, next⟩
    · trivial
    · change before.output ++ signal.output = _
      rw [show signal.output = _ from first]
      exact (Output.append_empty _).symm
    · have rest := inductionHypothesis (before.andThen outcome) next
      rw [output_andThen, show outcome.output = _ from first] at rest
      exact rest

theorem delivers_sequence {statements : List (Action φ σ Outcome)} {traces : List (Trace φ σ)}
    (parts : List.Forall₂ Delivers statements traces) :
    Delivers (Action.sequence limits statements) (Trace.all limits statements traces) := by
  intro machine
  have whole : Carries Outcome.output _ (execute (Action.runAll limits statements {}) machine).1 :=
    carries_all parts {} machine
  rw [show Outcome.output {} = ∅ from rfl, Output.empty_append] at whole
  exact whole

theorem delivers_condition {statements : List (Action φ σ Outcome)} {traces : List (Trace φ σ)}
    (parts : List.Forall₂ Delivers statements traces) :
    Delivers (Action.condition limits statements) (Trace.condition limits statements traces) := by
  intro machine
  unfold Action.condition
  rw [execute_state_bind, execute_changeState_bind, execute_ensuring]
  exact delivers_sequence parts (Trace.inCondition machine)

end Sequences

section Loops

variable {φ σ : Type} {limits : Limits}

/-- Settling a signal puts the output so far in front of that of the signal. -/
theorem carries_settle {soFar : Outcome} {signal : Signal} {output : Output}
    (same : signal.output = output) (machine : Machine φ σ) :
    Carries Round.output (soFar.output ++ output)
      (execute (Action.settle soFar signal) machine).1 := by
  have whole : (Action.withOutput soFar signal).output = soFar.output ++ output := by
    rw [output_withOutput, same]
  obtain ⟨cause, stdout, stderr⟩ := signal
  unfold Action.settle
  cases cause with
  | leaveLoop levels =>
    dsimp only
    rw [execute_state_bind]
    cases Action.passesOn machine.state levels with
    | true => exact whole
    | false => exact whole
  | nextRound levels =>
    dsimp only
    rw [execute_state_bind]
    cases Action.passesOn machine.state levels with
    | true => exact whole
    | false => exact whole
  | _ => exact whole

theorem carries_bodyPart {body : Action φ σ Outcome} {trace : Trace φ σ}
    (delivers : Delivers body trace) (soFar : Outcome) (machine : Machine φ σ) :
    Carries Round.output
      (soFar.output ++ Event.keptAll (Trace.bodyRound body trace machine).1)
      (execute (bodyPart soFar body) machine).1 := by
  have whole := delivers machine
  rw [Trace.bodyRound, execute_part]
  generalize execute body machine = ran at whole ⊢
  rcases ran with ⟨(fault | signal) | outcome, next⟩
  · trivial
  · exact carries_settle whole next
  · exact congrArg (soFar.output ++ ·) whole

theorem carries_conditionPart {negated : Bool} {condition body : Action φ σ Outcome}
    {checks trace : Trace φ σ} (conditionDelivers : Delivers condition checks)
    (bodyDelivers : Delivers body trace) (soFar : Outcome) (machine : Machine φ σ) :
    Carries Round.output (soFar.output ++
        Event.keptAll (Trace.conditionRound negated condition body checks trace machine).1)
      (execute (conditionPart soFar negated condition body) machine).1 := by
  have whole := conditionDelivers machine
  rw [Trace.conditionRound, execute_part]
  generalize execute condition machine = ran at whole ⊢
  rcases ran with ⟨(fault | signal) | checked, next⟩
  · trivial
  · exact carries_settle whole next
  · dsimp only
    split
    · exact congrArg (soFar.output ++ ·) whole
    · rw [Event.keptAll_append, ← Output.append_assoc, ← show checked.output = _ from whole]
      exact carries_bodyPart bodyDelivers (withChecked soFar checked) next

/-- What a loop carries that had the output `soFar` before these rounds. The report of the limit
does not take any of it along. -/
def loopOutput (soFar : Outcome) : List Event × Option String → Output
  | (events, none) => soFar.output ++ Event.keptAll events
  | (_, some report) => ⟨"", report⟩

theorem carries_followed {soFar : Outcome} {round : List Event × Option (Machine φ σ)}
    {more : Machine φ σ → List Event × Option String} {action : Action φ σ Round}
    {rest : Outcome → Action φ σ Outcome} {machine : Machine φ σ}
    (follows : Follows round.2 (execute action machine))
    (carries : Carries Round.output (soFar.output ++ Event.keptAll round.1)
      (execute action machine).1)
    (onward : ∀ all next,
      Carries Outcome.output (loopOutput all (more next)) (execute (rest all) next).1) :
    Carries Outcome.output (loopOutput soFar (Trace.followed round more))
      (execute (action >>= fun
        | .again soFar => rest soFar
        | .done soFar => pure soFar) machine).1 := by
  obtain ⟨events, _ | next⟩ := round
  · rw [execute_bind]
    generalize execute action machine = ran at follows carries ⊢
    rcases ran with ⟨(fault | signal) | (all | all), final⟩
    · trivial
    · exact carries
    · exact absurd rfl (follows all)
    · exact carries
  · obtain ⟨all, again⟩ := follows
    rw [again] at carries
    rw [execute_bind_of_ok again]
    have others := onward all next
    change Carries _ (loopOutput soFar (events ++ (more next).1, (more next).2))
      (execute (rest all) next).1
    generalize more next = following at others ⊢
    rcases following with ⟨moreEvents, _ | report⟩
    · change Carries _ (soFar.output ++ Event.keptAll (events ++ moreEvents)) _
      rw [Event.keptAll_append, ← Output.append_assoc, ← show all.output = _ from carries]
      exact others
    · exact others

/-- A loop with too many rounds delivers the report of the limit alone. -/
theorem carries_limit (soFar : Outcome) (kind : String) :
    Carries Outcome.output
      (loopOutput soFar ([], Trace.report (Action.iterationsSignal limits kind)))
      (.error (.ofMade (Action.iterationsSignal limits kind))) := by
  unfold Action.iterationsSignal
  cases spelled : spell limits.iterations with
  | error fault =>
    rw [Signal.ofLimit_eq_error_iff.mpr spelled]
    trivial
  | ok bound =>
    rw [Signal.ofLimit_of_spell spelled]
    rfl

theorem carries_wordRounds {name : String} {body : Action φ σ Outcome} {trace : Trace φ σ}
    (delivers : Delivers body trace) (words : List String) (rounds : Int) (soFar : Outcome)
    (machine : Machine φ σ) :
    Carries Outcome.output
      (loopOutput soFar (Trace.wordRounds limits name body trace rounds words machine))
      (execute (Action.wordRounds limits name body rounds words soFar) machine).1 := by
  induction words generalizing rounds soFar machine with
  | nil => exact (Output.append_empty soFar.output).symm
  | cons word rest inductionHypothesis =>
    unfold Action.wordRounds Trace.wordRounds
    by_cases reached : limits.iterations < rounds + 1
    · rw [if_pos reached, if_pos reached]
      exact carries_limit soFar "for"
    · rw [if_neg reached, if_neg reached]
      change Carries _ _ (execute (Action.write _ >>= _) machine).1
      rw [execute_bind, execute_write]
      rcases execute (State.setVariable name word) machine.state with ⟨fault | _, ready⟩
      · trivial
      · exact carries_followed (follows_bodyPart soFar body trace _)
          (carries_bodyPart delivers soFar _) fun all next =>
            inductionHypothesis (rounds + 1) all next

theorem carries_conditionRounds {negated : Bool} {condition body : Action φ σ Outcome}
    {checks trace : Trace φ σ} (conditionDelivers : Delivers condition checks)
    (bodyDelivers : Delivers body trace) (left : Nat) (soFar : Outcome)
    (machine : Machine φ σ) :
    Carries Outcome.output
      (loopOutput soFar
        (Trace.conditionRounds limits negated condition body checks trace left machine))
      (execute (Action.conditionRounds limits negated condition body left soFar) machine).1 := by
  induction left generalizing soFar machine with
  | zero => exact carries_limit soFar (Action.loopKind negated)
  | succ left inductionHypothesis =>
    exact carries_followed
      (follows_conditionPart soFar negated condition body checks trace machine)
      (carries_conditionPart conditionDelivers bodyDelivers soFar machine) inductionHypothesis

theorem delivers_loop {rounds : Machine φ σ → List Event × Option String}
    {action : Action φ σ Outcome}
    (carries : ∀ machine,
      Carries Outcome.output (loopOutput {} (rounds machine)) (execute action machine).1) :
    Delivers (Action.insideLoop action) (Trace.loop rounds) := by
  intro machine
  have whole := carries (Trace.inLoop machine)
  unfold Action.insideLoop Trace.loop
  rw [execute_changeState_bind, execute_ensuring]
  change Carries _ _ (execute action (Trace.inLoop machine)).1
  rw [Event.keptAll, Event.keptAll, Output.append_empty]
  generalize rounds (Trace.inLoop machine) = done at whole ⊢
  rcases done with ⟨events, _ | report⟩
  · rw [loopOutput, show Outcome.output {} = ∅ from rfl, Output.empty_append] at whole
    rw [Event.kept]
    exact whole
  · rw [Event.kept]
    exact whole

end Loops

section Calls

variable {κ σ : Type} {limits : Limits}

theorem carries_catchReturn {body : Run κ σ Outcome} {output : Output}
    {machine : Machine (Function κ) σ}
    (carries : Carries Outcome.output output (execute body machine).1) :
    Carries Outcome.output output (execute (Function.catchReturn body) machine).1 := by
  unfold Function.catchReturn
  rw [execute_bind_of_ok (execute_observe body machine)]
  generalize execute body machine = ran at carries ⊢
  rcases ran with ⟨(fault | ⟨cause, stdout, stderr⟩) | outcome, next⟩
  · trivial
  · cases cause <;> exact carries
  · exact carries

theorem delivers_call {function : Function κ} {args : List String} {line : Option Int}
    {body : Run κ σ Outcome} {trace : Trace (Function κ) σ} (delivers : Delivers body trace) :
    Delivers (function.call limits args line body)
      (Trace.call limits function args line body trace) := by
  refine delivers_guarded fun frame machine => ?_
  rw [execute_ensuring, execute_write, Event.keptAll, Event.keptAll, Output.append_empty,
    Event.kept]
  generalize execute (State.closeFrame frame) _ = closed
  rcases closed with ⟨fault | _, final⟩
  · trivial
  · exact carries_catchReturn (delivers machine)

end Calls

namespace Statement

variable {κ σ : Type} {context : Context κ σ} {callee : Function κ → String → Run κ σ Outcome}
  {calls : Function κ → String → Trace (Function κ) σ}

mutual

theorem delivers_action (called : ∀ function input, Delivers (callee function input)
      (calls function input)) (stdin : String) :
    (statement : Statement κ) → Delivers (statement.action context callee stdin)
      (statement.trace context callee calls stdin)
  | command leaf => by
    rw [action, trace]
    exact delivers_leaf _
  | builtin which args => by
    rw [action, trace]
    exact delivers_leaf _
  | group body before => by
    rw [action, trace]
    exact carries_all (delivers_actions called stdin body) { before with status := 0 }
  | branch condition thenBody elseBody => by
    rw [action, trace]
    refine delivers_onward (delivers_condition (delivers_actions called stdin condition)) ?_
    intro checked machine
    dsimp only
    split
    · exact carries_all (delivers_actions called stdin thenBody)
        { checked with status := 0 } machine
    · exact carries_all (delivers_actions called stdin elseBody)
        { checked with status := 0 } machine
  | forEach name words body => by
    rw [action, trace]
    refine delivers_guarded fun words => ?_
    split
    · exact delivers_loop (carries_wordRounds
        (delivers_sequence (delivers_actions called stdin body)) words 0 {})
    · intro machine
      exact (Output.append_empty _).symm
  | whileLoop negated condition body => by
    rw [action, trace]
    exact delivers_loop (carries_conditionRounds
      (delivers_condition (delivers_actions called stdin condition))
      (delivers_sequence (delivers_actions called stdin body)) _ {})
  | define name body source reading => by
    rw [action, trace]
    exact delivers_leaf _
  | call name args input line => by
    rw [action, trace]
    intro machine
    rw [execute_get_bind]
    dsimp only
    cases machine.functions[name]? with
    | none => exact (Output.append_empty _).symm
    | some function => exact delivers_call (called function input) machine

theorem delivers_actions (called : ∀ function input, Delivers (callee function input)
      (calls function input)) (stdin : String) :
    (statements : List (Statement κ)) → List.Forall₂ Delivers
      (actions context callee stdin statements) (traces context callee calls stdin statements)
  | [] => by
    rw [actions, traces]
    exact .nil
  | statement :: rest => by
    rw [actions, traces]
    exact .cons (delivers_action called stdin statement) (delivers_actions called stdin rest)

end

end Statement

namespace Context

variable {κ σ : Type} (context : Context κ σ)

theorem delivers_callee (depth : Nat) (function : Function κ) (stdin : String) :
    Delivers (context.callee depth function stdin) (context.calleeTrace depth function stdin) := by
  induction depth generalizing function stdin with
  | zero => exact fun _ => trivial
  | succ depth inductionHypothesis =>
    exact delivers_sequence (Statement.delivers_actions inductionHypothesis stdin function.body)

theorem delivers_script (script : List (Statement κ)) :
    List.Forall₂ Delivers (context.actions script) (context.traces script) :=
  Statement.delivers_actions (context.delivers_callee context.depth) "" script

theorem delivers_run (script : List (Statement κ)) :
    Delivers (context.run script) (context.runTrace script) :=
  delivers_sequence (context.delivers_script script)

theorem carries_topLevel (limits : Limits) {statements : List (Run κ σ Outcome)}
    {traces : List (Trace (Function κ) σ)} (parts : List.Forall₂ Delivers statements traces)
    (soFar : Outcome) (machine : Machine (Function κ) σ) :
    Carries Outcome.output
      (soFar.output ++ Event.keptAll (topLevelTrace limits statements traces machine))
      (execute (topLevel limits statements soFar) machine).1 := by
  induction parts generalizing soFar machine with
  | nil => exact (Output.append_empty soFar.output).symm
  | @cons statement trace statements traces delivers _ inductionHypothesis =>
    have first : Carries Outcome.output _ (execute (Action.runOne limits statement) machine).1 :=
      delivers_one delivers machine
    unfold topLevel topLevelTrace
    rw [execute_bind_of_ok (execute_observe _ machine), Event.keptAll_append,
      ← Output.append_assoc]
    generalize execute (Action.runOne limits statement) machine = ran at first ⊢
    rcases ran with ⟨(fault | ⟨cause, stdout, stderr⟩) | outcome, next⟩
    · trivial
    · rw [← show (⟨stdout, stderr⟩ : Output) = _ from first]
      cases cause with
      | leaveLoop levels => exact inductionHypothesis _ _
      | nextRound levels => exact inductionHypothesis _ _
      | leaveFunction status =>
        have report : (⟨soFar.stdout ++ stdout, soFar.stderr ++ stderr ++ strayReturn⟩ : Output) =
            soFar.output ++ ⟨stdout, stderr⟩ ++ ⟨"", strayReturn⟩ :=
          Output.ext String.append_empty.symm rfl
        dsimp only
        rw [execute_changeState_bind, Event.keptAll, Event.kept, ← Output.append_assoc, ← report]
        exact inductionHypothesis _ _
      | _ => exact (Output.append_empty _).symm
    · rw [← show outcome.output = _ from first, ← output_andThen]
      exact inductionHypothesis _ _

theorem delivers_exec (script : List (Statement κ)) :
    Delivers (context.exec script) (context.execTrace script) := by
  intro machine
  unfold exec execTrace
  rw [execute_changeState_bind, execute_bind]
  generalize begun : ({ machine with state := { machine.state with commandCount := 0 } } :
    Machine (Function κ) σ) = start
  have whole := carries_topLevel context.limits (context.delivers_script script) {} start
  rw [show Outcome.output {} = ∅ from rfl, Output.empty_append] at whole
  generalize execute (topLevel _ _ _) start = ran at whole ⊢
  rcases ran with ⟨stop | outcome, next⟩
  · exact whole
  · exact whole

/-- What a script delivers is what is left of the output of its events, and that is all of it
exactly if no loop printed anything before it reached the limit of rounds. -/
theorem delivered_eq_printedAll_iff (script : List (Statement κ))
    (machine : Machine (Function κ) σ) (output : Output) :
    (delivered (execute (context.run script) machine).1 = some output →
      output = Event.keptAll (context.runTrace script machine) ∧
        (output = Event.printedAll (context.runTrace script machine) ↔
          Event.LosslessAll (context.runTrace script machine))) ∧
    (delivered (execute (context.exec script) machine).1 = some output →
      output = Event.keptAll (context.execTrace script machine) ∧
        (output = Event.printedAll (context.execTrace script machine) ↔
          Event.LosslessAll (context.execTrace script machine))) := by
  constructor
  · intro arrives
    obtain rfl := (context.delivers_run script machine).delivered arrives
    exact ⟨rfl, Event.keptAll_eq_printedAll_iff _⟩
  · intro arrives
    obtain rfl := (context.delivers_exec script machine).delivered arrives
    exact ⟨rfl, Event.keptAll_eq_printedAll_iff _⟩

/-- A host whose commands are the outcomes they have. -/
def printing (limits : Limits) : Context Outcome Unit :=
  ⟨limits, 100, fun outcome _ => pure outcome⟩

/-- Two nested loops, both left from inside after an `x` was printed, and a `y` on the other
channel. -/
def leavingLoops : List (Statement Outcome) :=
  [.whileLoop false [.command {}]
      [.whileLoop true [.command { status := 1 }]
        [.command { stdout := "x" }, .builtin .break ["2"]]],
    .command { stderr := "y" }]

theorem leavingLoops_lossless :
    (delivered (execute ((printing {}).run leavingLoops) ⟨{}, ∅, ()⟩).1 = some ⟨"x", "y"⟩ ∧
      Event.LosslessAll ((printing {}).runTrace leavingLoops ⟨{}, ∅, ()⟩)) ∧
    delivered (execute ((printing {}).exec leavingLoops) ⟨{}, ∅, ()⟩).1 = some ⟨"x", "y"⟩ ∧
      Event.LosslessAll ((printing {}).execTrace leavingLoops ⟨{}, ∅, ()⟩) := by
  have runs : delivered (execute ((printing {}).run leavingLoops) ⟨{}, ∅, ()⟩).1 =
      some ⟨"x", "y"⟩ := by decide +kernel
  have ends : delivered (execute ((printing {}).exec leavingLoops) ⟨{}, ∅, ()⟩).1 =
      some ⟨"x", "y"⟩ := by decide +kernel
  have laws := (printing {}).delivered_eq_printedAll_iff leavingLoops ⟨{}, ∅, ()⟩ ⟨"x", "y"⟩
  exact ⟨⟨runs, (laws.1 runs).2.mp (by decide +kernel)⟩,
    ends, (laws.2 ends).2.mp (by decide +kernel)⟩

/-- A loop without end that prints an `x` in each round. -/
def endlessLoop : List (Statement Outcome) :=
  [.whileLoop false [.command {}] [.command { stdout := "x" }]]

/-- The report of the limit comes alone, without the `x` of the only round that was allowed. -/
theorem endlessLoop_loses_output :
    delivered (execute ((printing { iterations := 1 }).run endlessLoop) ⟨{}, ∅, ()⟩).1 =
        some ⟨"", "bash: while loop: too many iterations (1)\n"⟩ ∧
      Event.printedAll ((printing { iterations := 1 }).runTrace endlessLoop ⟨{}, ∅, ()⟩) =
        ⟨"x", "bash: while loop: too many iterations (1)\n"⟩ := by
  decide +kernel

end Context

end Shell
