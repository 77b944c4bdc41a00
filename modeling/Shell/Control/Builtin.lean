import Shell.Control.Action
import Shell.Text.Numeral

/-!
The builtins that change the flow of control: `break`, `continue`, `return` and `exit`.
-/

namespace Shell

/-- A builtin that changes the flow of control. -/
inductive Builtin
  | break
  | continue
  | return
  | exit
deriving DecidableEq, Repr

namespace Builtin

variable {φ σ : Type}

/-- The name of a builtin. -/
def name : Builtin → String
  | .break => "break"
  | .continue => "continue"
  | .return => "return"
  | .exit => "exit"

/-- The builtin with a name. -/
def ofName? (text : String) : Option Builtin :=
  [Builtin.break, .continue, .return, .exit].find? (·.name = text)

/-- The complaint about an argument. -/
def complaint (builtin : Builtin) (argument problem : String) : String :=
  "bash: " ++ builtin.name ++ ": " ++ argument ++ ": " ++ problem ++ "\n"

/-- The complaint about an argument that is no number. -/
def notNumeric (builtin : Builtin) (argument : String) : String :=
  builtin.complaint argument "numeric argument required"

/-- The number of loops that the arguments ask for. -/
def levels (builtin : Builtin) (args : List String) : Except Signal Int :=
  match args with
  | [] => .ok 1
  | first :: _ =>
    match Text.readInt? first.toList with
    | none => .error (.ofCause (.exit 128) "" (builtin.notNumeric first))
    | some levels =>
      if levels < 1 then
        .error (.ofCause (.exit 128) "" (builtin.complaint first "loop count out of range"))
      else .ok levels

/-- What a loop builtin does: its outcome where no loop is active, or a signal. -/
def loopControl (builtin : Builtin) (cause : Int → Cause) (state : State) (args : List String) :
    Except Signal Outcome := do
  let levels ← builtin.levels args
  if 1 < args.length ∧ state.loopDepth ≤ 0 then
    .ok { stderr := "bash: " ++ builtin.name ++ ": too many arguments\n", status := 1 }
  else if state.loopDepth ≠ 0 then .error (.ofCause (cause levels) "" "")
  else if state.startedInLoop then .error (.ofCause .leaveSubshell "" "")
  else
    .ok { stderr := "bash: " ++ builtin.name ++
      ": only meaningful in a \x60for', \x60while', or \x60until' loop\n" }

/-- The exit status that an argument asks for, or else the last one; nothing if the argument is no
number. -/
def status? (state : State) (args : List String) : Except String Int :=
  match args with
  | [] => .ok state.lastStatus
  | first :: _ =>
    match Text.readInt? first.toList with
    | some status => .ok (status % 256)
    | none => .error first

/-- What a builtin does in a state. -/
def apply (state : State) (args : List String) : Builtin → Except Stop Outcome
  | .break => (loopControl .break .leaveLoop state args).mapError .signal
  | .continue => (loopControl .continue .nextRound state args).mapError .signal
  | .return =>
    match status? state args with
    | .ok status => .error (.signal (.ofCause (.leaveFunction status) "" ""))
    | .error argument => .ok { stderr := notNumeric .return argument, status := 2 }
  | .exit =>
    match status? state args with
    | .ok status => .error (.ofMade (Signal.make (.exit status) "" ""))
    | .error argument => .error (.signal (.ofCause (.exit 2) "" (notNumeric .exit argument)))

/-- Run a builtin. -/
def action (builtin : Builtin) (args : List String) : Action φ σ Outcome := do
  MonadExcept.ofExcept (builtin.apply (← Action.state) args)

end Builtin

end Shell
