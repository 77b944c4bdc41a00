import Shell.Control.Builtin
import Shell.Control.Loop
import Shell.Expansion.Field

/-!
Scripts: statements, the functions they define, and what they do. Commands of the host are the
leaves; everything that has statements inside it is a statement here.
-/

namespace Shell

/-- What a loop over words runs through. -/
inductive Words
  /-- These words. -/
  | given (words : List String)
  /-- The positional parameters. -/
  | positional
  /-- The fields of an array. -/
  | array (name : String) (star : Bool)
deriving DecidableEq, Repr

/-- A statement over commands `κ` of the host. -/
inductive Statement (κ : Type)
  /-- A command of the host. -/
  | command (leaf : κ)
  /-- A builtin that changes the flow of control. -/
  | builtin (which : Builtin) (args : List String)
  /-- A list of statements, after output that came before. -/
  | group (body : List (Statement κ)) (before : Outcome)
  /-- Either of two lists, as a condition says. -/
  | branch (condition thenBody elseBody : List (Statement κ))
  /-- A loop over words. -/
  | forEach (name : String) (words : Words) (body : List (Statement κ))
  /-- A loop with a condition, which has to fail if `negated`. -/
  | whileLoop (negated : Bool) (condition body : List (Statement κ))
  /-- A function definition, with the file it belongs to and the file being read. -/
  | define (name : String) (body : List (Statement κ)) (source reading : Option String)
  /-- A function call, with its input and the line it stands on. -/
  | call (name : String) (args : List String) (stdin : String) (line : Option Int)

/-- A function: its body and the file it was defined in. -/
structure Function (κ : Type) where
  name : String
  body : List (Statement κ)
  source : String

/-- Builtins that no function may be named for under strict conformance. -/
def specialBuiltins : List String :=
  [":", ".", "break", "continue", "eval", "exec", "exit", "export", "readonly", "return", "set",
   "shift", "trap", "unset"]

/-- Run statements over commands `κ` on a machine whose host keeps a `σ`. -/
abbrev Run (κ σ α : Type) := Action (Function κ) σ α

/-- What running a script needs besides the machine: the limits, and what the host does for one of
its commands in a function with some input. -/
structure Context (κ σ : Type) where
  limits : Limits
  /-- How many bodies of functions may run inside each other before the host's stack is full. -/
  depth : Nat
  host : κ → (stdin : String) → Run κ σ Outcome

namespace Function

variable {κ σ : Type}

/-- Add a function, or refuse it if it has the name of a special builtin under strict
conformance. -/
def define (name : String) (body : List (Statement κ)) (source reading : Option String) :
    Run κ σ Outcome := do
  let state ← Action.state
  if state.options.posix && specialBuiltins.contains name then
    Action.raise do
      let line ← spell state.line
      Signal.make (.posixFatal 2) "" ("bash: line " ++ line ++ ": \x60" ++ name ++
        "': is a special builtin\n")
  modify fun machine =>
    { machine with
      functions := machine.functions.insert name ⟨name, body, source.getD (sourceOrMain reading)⟩ }
  pure {}

/-- The outcome of calling a function that is not defined. -/
def notFound (name : String) : Outcome :=
  { stderr := "bash: " ++ name ++ ": command not found\n", status := 127 }

/-- The outcome of a body, where `return` ends it. -/
def catchReturn (body : Run κ σ Outcome) : Run κ σ Outcome := do
  match ← Action.observe body with
  | .error (.signal ⟨.leaveFunction status, stdout, stderr⟩) => pure ⟨stdout, stderr, status⟩
  | result => Action.resume result

/-- Run a function's body in a frame of its own. -/
def call (limits : Limits) (function : Function κ) (args : List String) (line : Option Int)
    (body : Run κ σ Outcome) : Run κ σ Outcome := do
  let frame ← Action.onState
    (State.openFrame limits function.name (some function.source) args line)
  Action.ensuring (catchReturn body) (Action.write (State.closeFrame frame))

end Function

/-- The words of a loop. -/
def Words.get {κ σ : Type} : Words → Run κ σ (List String)
  | given words => pure words
  | positional => do pure (← Action.state).positional
  | array name star => Action.expand fun state => state.expandArray name star none

namespace Statement

variable {κ σ : Type}

mutual

/-- What a statement does, when `callee` runs a function's body with some input, inside a function
with the input `stdin`. -/
def action (context : Context κ σ) (callee : Function κ → String → Run κ σ Outcome)
    (stdin : String) : Statement κ → Run κ σ Outcome
  | command leaf => context.host leaf stdin
  | builtin which args => which.action args
  | group body before =>
    Action.runAll context.limits (actions context callee stdin body) { before with status := 0 }
  | branch condition thenBody elseBody => do
    let checked ← Action.condition context.limits (actions context callee stdin condition)
    let before := { checked with status := 0 }
    if checked.status = 0 then
      Action.runAll context.limits (actions context callee stdin thenBody) before
    else Action.runAll context.limits (actions context callee stdin elseBody) before
  | forEach name words body => do
    let words ← words.get
    if Text.isName name.toList then
      Action.forWords context.limits name words
        (Action.sequence context.limits (actions context callee stdin body))
    else pure (Action.badLoopVariable name)
  | whileLoop negated condition body =>
    Action.whileCondition context.limits negated
      (Action.condition context.limits (actions context callee stdin condition))
      (Action.sequence context.limits (actions context callee stdin body))
  | define name body source reading => Function.define name body source reading
  | call name args input line => do
    match (← get).functions[name]? with
    | none => pure (Function.notFound name)
    | some function => function.call context.limits args line (callee function input)

/-- What each of several statements does. -/
def actions (context : Context κ σ) (callee : Function κ → String → Run κ σ Outcome)
    (stdin : String) : List (Statement κ) → List (Run κ σ Outcome)
  | [] => []
  | statement :: rest =>
    statement.action context callee stdin :: actions context callee stdin rest

end

end Statement

namespace Context

variable {κ σ : Type}

/-- Run a function's body, when at most `depth` bodies may run inside each other. -/
def callee (context : Context κ σ) :
    (depth : Nat) → Function κ → (stdin : String) → Run κ σ Outcome
  | 0, _, _ => throw (.fault .nestingTooDeep)
  | depth + 1, function, stdin =>
    Action.sequence context.limits
      (Statement.actions context (context.callee depth) stdin function.body)

/-- What the statements of a script do, outside all functions. -/
def actions (context : Context κ σ) (script : List (Statement κ)) : List (Run κ σ Outcome) :=
  Statement.actions context (context.callee context.depth) "" script

/-- Run a script as a list of statements. -/
def run (context : Context κ σ) (script : List (Statement κ)) : Run κ σ Outcome :=
  Action.sequence context.limits (context.actions script)

/-- Run a script as a condition. -/
def condition (context : Context κ σ) (script : List (Statement κ)) : Run κ σ Outcome :=
  Action.condition context.limits (context.actions script)

/-- What a script prints when `return` is used outside functions. -/
def strayReturn : String :=
  "bash: return: can only \x60return' from a function or sourced script\n"

/-- Statements after the output so far, each on its own: signals for loops and functions end only
the statement they come from, the others end the script. -/
def topLevel (limits : Limits) : List (Run κ σ Outcome) → (soFar : Outcome) → Run κ σ Outcome
  | [], soFar => pure soFar
  | statement :: rest, soFar => do
    match ← Action.observe (Action.runOne limits statement) with
    | .ok outcome => topLevel limits rest (soFar.andThen outcome)
    | .error (.signal signal) =>
      let soFar := Action.withOutput soFar signal
      match signal.cause with
      | .leaveLoop _ | .nextRound _ => topLevel limits rest soFar
      | .leaveFunction status =>
        let status := if status = 0 then 1 else status
        Action.changeState fun state => { state with lastStatus := status }
        topLevel limits rest
          { soFar with stderr := soFar.stderr ++ strayReturn, status := status }
      | cause => pure { soFar with status := cause.status }
    | .error stop => throw stop

/-- Run a script as a whole: count its commands from zero, and turn every signal into an outcome. -/
def exec (context : Context κ σ) (script : List (Statement κ)) : Run κ σ Outcome := do
  Action.changeState fun state => { state with commandCount := 0 }
  let outcome ← topLevel context.limits (context.actions script) {}
  Action.changeState fun state => { state with lastStatus := outcome.status }
  pure outcome

end Context

end Shell
