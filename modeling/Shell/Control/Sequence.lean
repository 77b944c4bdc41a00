import Shell.Control.Action

/-!
Running statements one after the other, under the limit of commands and the option that makes
failures fatal.
-/

namespace Shell.Action

variable {φ σ : Type}

/-- The signal of a run with too many commands. -/
def commandsSignal (limits : Limits) : Except Fault Signal :=
  Signal.ofLimit "commands" (fun bound => "too many commands executed (>" ++ bound ++ ")")
    limits.commands

/-- Count one command, if the limit allows one more. -/
def countCommand (limits : Limits) : Action φ σ Unit := do
  changeState fun state => { state with commandCount := state.commandCount + 1 }
  if limits.commands < (← state).commandCount then raise (commandsSignal limits)

/-- A failure with this status is fatal in a state. -/
def isFatal (state : State) (status : Int) : Bool :=
  state.options.errexit && status != 0 && !state.inCondition

/-- End with a signal if the outcome is a fatal failure. -/
def checkFailure (outcome : Outcome) : Action φ σ Unit := do
  if isFatal (← state) outcome.status then
    raise (Signal.make (.commandFailed outcome.status) outcome.stdout outcome.stderr)

/-- Run one statement. -/
def runOne (limits : Limits) (statement : Action φ σ Outcome) : Action φ σ Outcome := do
  countCommand limits
  let outcome ← statement
  changeState fun state => { state with lastStatus := outcome.status }
  checkFailure outcome
  pure outcome

/-- Run statements after the output of what came before. A signal takes that output along. -/
def runAll (limits : Limits) : List (Action φ σ Outcome) → (before : Outcome) → Action φ σ Outcome
  | [], before => pure before
  | statement :: rest, before => do
    let outcome ← preceded before.stdout before.stderr (runOne limits statement)
    runAll limits rest (before.andThen outcome)

/-- Run a list of statements. -/
def sequence (limits : Limits) (statements : List (Action φ σ Outcome)) : Action φ σ Outcome :=
  runAll limits statements {}

/-- Run statements as a condition, in which no failure is fatal. -/
def condition (limits : Limits) (statements : List (Action φ σ Outcome)) :
    Action φ σ Outcome := do
  let saved := (← state).inCondition
  changeState fun state => { state with inCondition := true }
  ensuring (sequence limits statements)
    (changeState fun state => { state with inCondition := saved })

end Shell.Action
