import Shell.Control.Script
import Shell.Proofs.Running

/-!
# What happens during a run

The events of a run, in their order: texts that leaf statements, signals and the
runner itself print, loops with their rounds, and calls with their bodies. A trace
gives the events of an action for every machine it may start from; the machines in
between are those of the run itself.
-/

namespace Shell

open Running

/-- Something that happens during a run. -/
inductive Event
  | text (stdout stderr : String)
  /-- The rounds of a loop, and the report of the limit if there would have been too many. -/
  | loop (rounds : List Event) (limit : Option String)
  /-- The frame of a call, what its body did, and the state in which the frame was closed. -/
  | call (frame : Frame) (body : List Event) (last : State)

/-- The events of an action, by the machine it starts from. -/
abbrev Trace (φ σ : Type) := Machine φ σ → List Event

namespace Trace

variable {φ σ α : Type}

/-- What a stop prints. -/
def ofStop : Stop → List Event
  | .signal signal => [.text signal.stdout signal.stderr]
  | .fault _ => []

/-- The trace of an action that prints what it ends with. -/
def leaf (action : Action φ σ Outcome) : Trace φ σ := fun machine =>
  match (execute action machine).1 with
  | .ok outcome => [.text outcome.stdout outcome.stderr]
  | .error stop => ofStop stop

/-- The events after an action that succeeds. -/
def onward (action : Action φ σ α) (rest : α → Trace φ σ) : Trace φ σ := fun machine =>
  match execute action machine with
  | (.ok value, next) => rest value next
  | (.error _, _) => []

/-- The events after an action that succeeds, or what the action prints if it stops. -/
def guarded (action : Action φ σ α) (rest : α → Trace φ σ) : Trace φ σ := fun machine =>
  match execute action machine with
  | (.ok value, next) => rest value next
  | (.error stop, _) => ofStop stop

/-- The trace of one statement of a list. -/
def one (limits : Limits) (trace : Trace φ σ) : Trace φ σ :=
  guarded (Action.countCommand limits) fun _ => trace

/-- The trace of a list of statements. -/
def all (limits : Limits) : List (Action φ σ Outcome) → List (Trace φ σ) → Trace φ σ
  | statement :: rest, trace :: traces => fun machine =>
    one limits trace machine ++
      onward (Action.runOne limits statement) (fun _ => all limits rest traces) machine
  | _, _ => fun _ => []

/-- The machine inside a condition. -/
def inCondition (machine : Machine φ σ) : Machine φ σ :=
  { machine with state := { machine.state with inCondition := true } }

/-- The trace of a condition. -/
def condition (limits : Limits) (statements : List (Action φ σ Outcome))
    (traces : List (Trace φ σ)) : Trace φ σ := fun machine =>
  all limits statements traces (inCondition machine)

/-- Another round follows one that ended like this. -/
def continues (state : State) : Except Stop Outcome → Bool
  | .ok _ => true
  | .error (.signal ⟨.nextRound levels, _, _⟩) => !Action.passesOn state levels
  | .error _ => false

/-- The machine that the next round starts from, if there is one after a round that ended like
this. -/
def nextRound (ended : Except Stop Outcome × Machine φ σ) : Option (Machine φ σ) :=
  if continues ended.2.state ended.1 then some ended.2 else none

/-- The report of a limit, if it can be made. -/
def report (made : Except Fault Signal) : Option String := made.toOption.map (·.stderr)

/-- The events of a round, and the machine for the next round. -/
def bodyRound (body : Action φ σ Outcome) (trace : Trace φ σ) (machine : Machine φ σ) :
    List Event × Option (Machine φ σ) :=
  (trace machine, nextRound (execute body machine))

/-- A round and the rounds that follow it. -/
def followed (round : List Event × Option (Machine φ σ))
    (more : Machine φ σ → List Event × Option String) : List Event × Option String :=
  match round with
  | (events, none) => (events, none)
  | (events, some next) => (events ++ (more next).1, (more next).2)

/-- The rounds of a loop over words, after `rounds` others. -/
def wordRounds (limits : Limits) (name : String) (body : Action φ σ Outcome) (trace : Trace φ σ) :
    (rounds : Int) → List String → Machine φ σ → List Event × Option String
  | _, [], _ => ([], none)
  | rounds, word :: rest, machine =>
    if limits.iterations < rounds + 1 then
      ([], report (Action.iterationsSignal limits "for"))
    else
      match execute (Action.write (State.setVariable name word)) machine with
      | (.error _, _) => ([], none)
      | (.ok _, ready) =>
        followed (bodyRound body trace ready) (wordRounds limits name body trace (rounds + 1) rest)

/-- A round of a loop with a condition. -/
def conditionRound (negated : Bool) (condition body : Action φ σ Outcome)
    (checks trace : Trace φ σ) (machine : Machine φ σ) : List Event × Option (Machine φ σ) :=
  match execute condition machine with
  | (.ok checked, next) =>
    if (checked.status == 0) == negated then (checks machine, none)
    else
      let (events, after) := bodyRound body trace next
      (checks machine ++ events, after)
  | (.error stop, next) => (checks machine, nextRound (.error stop, next))

/-- The rounds of a loop with a condition, when `left` more are allowed. -/
def conditionRounds (limits : Limits) (negated : Bool) (condition body : Action φ σ Outcome)
    (checks trace : Trace φ σ) : (left : Nat) → Machine φ σ → List Event × Option String
  | 0, _ => ([], report (Action.iterationsSignal limits (Action.loopKind negated)))
  | left + 1, machine =>
    followed (conditionRound negated condition body checks trace machine)
      (conditionRounds limits negated condition body checks trace left)

/-- The machine inside a loop. -/
def inLoop (machine : Machine φ σ) : Machine φ σ :=
  { machine with state := { machine.state with loopDepth := machine.state.loopDepth + 1 } }

/-- The event of a loop whose rounds are given. -/
def loop (rounds : Machine φ σ → List Event × Option String) : Trace φ σ := fun machine =>
  [.loop (rounds (inLoop machine)).1 (rounds (inLoop machine)).2]

/-- The trace of a call. -/
def call {κ : Type} (limits : Limits) (function : Function κ) (args : List String)
    (line : Option Int) (body : Run κ σ Outcome) (trace : Trace (Function κ) σ) :
    Trace (Function κ) σ :=
  guarded (Action.onState (State.openFrame limits function.name (some function.source) args line))
    fun frame machine =>
      [.call frame (trace machine) (after (Function.catchReturn body) machine).state]

end Trace

namespace Statement

variable {κ σ : Type}

mutual

/-- The trace of a statement, when `callee` runs a function's body with the trace `calls`. -/
def trace (context : Context κ σ) (callee : Function κ → String → Run κ σ Outcome)
    (calls : Function κ → String → Trace (Function κ) σ) (stdin : String) :
    Statement κ → Trace (Function κ) σ
  | command leaf => Trace.leaf (context.host leaf stdin)
  | builtin which args => Trace.leaf (which.action args)
  | group body before => fun machine =>
    .text before.stdout before.stderr ::
      Trace.all context.limits (actions context callee stdin body)
        (traces context callee calls stdin body) machine
  | branch condition thenBody elseBody => fun machine =>
    Trace.condition context.limits (actions context callee stdin condition)
        (traces context callee calls stdin condition) machine ++
      Trace.onward (Action.condition context.limits (actions context callee stdin condition))
        (fun checked =>
          if checked.status = 0 then
            Trace.all context.limits (actions context callee stdin thenBody)
              (traces context callee calls stdin thenBody)
          else
            Trace.all context.limits (actions context callee stdin elseBody)
              (traces context callee calls stdin elseBody)) machine
  | forEach name words body =>
    Trace.guarded words.get fun words =>
      if Text.isName name.toList then
        Trace.loop (Trace.wordRounds context.limits name
          (Action.sequence context.limits (actions context callee stdin body))
          (Trace.all context.limits (actions context callee stdin body)
            (traces context callee calls stdin body)) 0 words)
      else fun _ => [.text "" (Action.badLoopVariable name).stderr]
  | whileLoop negated condition body =>
    Trace.loop (Trace.conditionRounds context.limits negated
      (Action.condition context.limits (actions context callee stdin condition))
      (Action.sequence context.limits (actions context callee stdin body))
      (Trace.condition context.limits (actions context callee stdin condition)
        (traces context callee calls stdin condition))
      (Trace.all context.limits (actions context callee stdin body)
        (traces context callee calls stdin body)) context.limits.iterations.toNat)
  | define name body source reading => Trace.leaf (Function.define name body source reading)
  | call name args input line => fun machine =>
    match machine.functions[name]? with
    | none => [.text "" (Function.notFound name).stderr]
    | some function =>
      Trace.call context.limits function args line (callee function input) (calls function input)
        machine

/-- The traces of several statements. -/
def traces (context : Context κ σ) (callee : Function κ → String → Run κ σ Outcome)
    (calls : Function κ → String → Trace (Function κ) σ) (stdin : String) :
    List (Statement κ) → List (Trace (Function κ) σ)
  | [] => []
  | statement :: rest =>
    statement.trace context callee calls stdin :: traces context callee calls stdin rest

end

end Statement

namespace Context

variable {κ σ : Type}

/-- The trace of a function's body, when at most `depth` bodies may run inside each other. -/
def calleeTrace (context : Context κ σ) :
    (depth : Nat) → Function κ → (stdin : String) → Trace (Function κ) σ
  | 0, _, _ => fun _ => []
  | depth + 1, function, stdin =>
    Trace.all context.limits
      (Statement.actions context (context.callee depth) stdin function.body)
      (Statement.traces context (context.callee depth) (context.calleeTrace depth) stdin
        function.body)

/-- The traces of the statements of a script, outside all functions. -/
def traces (context : Context κ σ) (script : List (Statement κ)) :
    List (Trace (Function κ) σ) :=
  Statement.traces context (context.callee context.depth) (context.calleeTrace context.depth) ""
    script

/-- The trace of a script that is run as a list of statements. -/
def runTrace (context : Context κ σ) (script : List (Statement κ)) : Trace (Function κ) σ :=
  Trace.all context.limits (context.actions script) (context.traces script)

/-- The trace of a script that is run as a condition. -/
def conditionTrace (context : Context κ σ) (script : List (Statement κ)) : Trace (Function κ) σ :=
  Trace.condition context.limits (context.actions script) (context.traces script)

/-- The trace of statements that are run each on its own. -/
def topLevelTrace (limits : Limits) :
    List (Run κ σ Outcome) → List (Trace (Function κ) σ) → Trace (Function κ) σ
  | statement :: rest, trace :: traces => fun machine =>
    Trace.one limits trace machine ++
      match execute (Action.runOne limits statement) machine with
      | (.ok _, next) => topLevelTrace limits rest traces next
      | (.error (.signal ⟨.leaveLoop _, _, _⟩), next)
      | (.error (.signal ⟨.nextRound _, _, _⟩), next) => topLevelTrace limits rest traces next
      | (.error (.signal ⟨.leaveFunction status, _, _⟩), next) =>
        .text "" strayReturn ::
          topLevelTrace limits rest traces
            { next with state :=
              { next.state with lastStatus := if status = 0 then 1 else status } }
      | (.error _, _) => []
  | _, _ => fun _ => []

/-- The trace of a script that is run as a whole. -/
def execTrace (context : Context κ σ) (script : List (Statement κ)) : Trace (Function κ) σ :=
  fun machine =>
    topLevelTrace context.limits (context.actions script) (context.traces script)
      { machine with state := { machine.state with commandCount := 0 } }

end Context

end Shell
