import Shell.Session.Operation

/-!
The commands of a simple host: printing variables, carrying out operations, arithmetic, comparison
and matching. The host keeps the answers to its operations.
-/

namespace Shell

/-- A command of the host. -/
inductive Command
  /-- Give an outcome. -/
  | result (outcome : Outcome)
  /-- Print variables, which may have to be set. -/
  | print (names : List String) (required : Bool)
  /-- Print the input of the function. -/
  | stdin
  /-- Carry out operations. If `caught`, a fault that callers expect is only reported. -/
  | perform (operations : List Operation) (caught : Bool)
  /-- Assign the value of an arithmetic expression. -/
  | calculate (name expression : String)
  /-- Succeed if a variable has a value. -/
  | compare (name value : String)
  /-- Succeed if a variable's value matches a pattern. -/
  | matchPattern (name pattern : String)
  /-- End with a signal. -/
  | raise (signal : Signal)
deriving DecidableEq, Repr

/-- Running statements over the commands of the host, which keeps answers. -/
abbrev Task (α : Type) := Run Command (List Answer) α

namespace Command

/-- The outcome of a test. -/
def verdict (holds : Bool) : Outcome := { status := if holds then 0 else 1 }

/-- The outcome of a fault that is only reported. -/
def reported (fault : Fault) : Outcome :=
  { stderr := "bash: " ++ fault.message ++ "\n", status := 1 }

/-- A variable and its value. -/
def pair (required : Bool) (name : String) : Task String := do
  let value ← Action.expand fun state =>
    if required then state.require name else (state.value name).toExpand
  pure (name ++ "=" ++ value)

/-- Carry out an operation and keep the answer. -/
def record (operation : Operation) : Task Unit := do
  let answer ← Session.perform operation
  modify fun machine => { machine with host := machine.host ++ [answer] }

/-- Report a fault that callers expect. -/
def reporting (action : Task Outcome) : Task Outcome := do
  match ← Action.observe action with
  | .error (.fault fault) =>
    if fault.isRecoverable then pure (reported fault) else throw (.fault fault)
  | ended => Action.resume ended

/-- Carry out operations one after the other. -/
def recordAll (operations : List Operation) : Task Outcome := do
  operations.forM record
  pure {}

/-- What a command does, when `hook` runs commands by substitution, in a function with the input
`stdin`. -/
def action (hook : CommandHook) (command : Command) (stdin : String) : Task Outcome :=
  match command with
  | .result outcome => pure outcome
  | .print names required => do
    let pairs ← names.mapM (pair required)
    pure { stdout := " ".intercalate pairs ++ "\n" }
  | .stdin => pure { stdout := stdin }
  | .perform operations caught =>
    if caught then reporting (recordAll operations) else recordAll operations
  | .calculate name expression => do
    let value ← Action.read fun state => Subscript.evaluate state.value expression
    let digits ← Action.read fun _ => MonadExcept.ofExcept (spell value)
    Action.write (State.setVariable name digits)
    pure {}
  | .compare name value => do
    let present ← Action.read (·.value name)
    pure (verdict (present == value))
  | .matchPattern name pattern => do
    let expanded ← Action.onState (State.expandRunning hook pattern)
    let value ← Action.read (·.value name)
    let state ← Action.state
    pure (verdict (state.matchesPattern value expanded))
  | .raise signal => Action.signal signal

end Command

end Shell
