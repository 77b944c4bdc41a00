import Shell.Frame
import Shell.Outcome
import Shell.Stop

/-!
Actions: what a statement does. An action works on the machine, gives a result or stops early, and
what it did before it stopped stays done.
-/

namespace Shell

/-- A machine: the shell's state, its functions, and what the host keeps for itself. -/
structure Machine (φ σ : Type) where
  state : State := {}
  functions : Table φ := ∅
  host : σ

/-- An action on a machine. -/
abbrev Action (φ σ α : Type) := ExceptT Stop (StateM (Machine φ σ)) α

namespace Action

variable {φ σ α : Type}

/-- The present state of the shell. -/
def state : Action φ σ State := Machine.state <$> get

/-- Change the state of the shell. -/
def changeState (change : State → State) : Action φ σ Unit :=
  modify fun machine => { machine with state := change machine.state }

/-- End with a signal. -/
def signal (signal : Signal) : Action φ σ α := throw (.signal signal)

/-- End with a signal that was to be made. -/
def raise (made : Except Fault Signal) : Action φ σ α := throw (.ofMade made)

/-- An action on the state of the shell alone. -/
def onState (action : Effect α) : Action φ σ α :=
  ExceptT.mk fun machine =>
    let (result, state) := action.run machine.state
    (result, { machine with state := state })

/-- Write variables. -/
def write (action : Write α) : Action φ σ α := onState action.toEffect

/-- Expand from the present state. -/
def expand (read : State → Expand α) : Action φ σ α :=
  onState (ExceptT.mk fun state =>
    let (result, queries) := (read state).run state.queries
    (result, { state with queries := queries }))

/-- Read from the present state. -/
def read (read : State → Draw α) : Action φ σ α := write (State.reading read)

/-- How an action ends, without ending the same way. -/
def observe (action : Action φ σ α) : Action φ σ (Except Stop α) :=
  ExceptT.mk (action.run.map .ok)

/-- End as an observed action ended. -/
def resume : Except Stop α → Action φ σ α
  | .ok value => pure value
  | .error stop => throw stop

/-- Do the last thing after an action, however it ends. -/
def ensuring (action : Action φ σ α) (last : Action φ σ Unit) : Action φ σ α := do
  let result ← observe action
  last
  resume result

/-- Put output in front of the signal that an action ends with. -/
def preceded (stdout stderr : String) (action : Action φ σ α) : Action φ σ α := do
  match ← observe action with
  | .error (.signal signal) => throw (.signal (signal.after stdout stderr))
  | result => resume result

end Action

end Shell
