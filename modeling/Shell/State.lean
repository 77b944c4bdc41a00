import Shell.Options
import Shell.Stop
import Shell.Store
import Shell.World

/-!
The state of a shell: variables, scopes, call stack, options, and the world outside. Reading a
variable may ask the world for a random number or the time, and may fail; writing one changes the
state.
-/

namespace Shell

/-- A call: the function, the line of the call and the file of the function. -/
structure Call where
  name : String
  line : Int
  source : String
deriving DecidableEq, Repr

/-- A value that a local variable hides, and the scope that hides it, counted from the outermost. -/
structure Shadow where
  value : Option String
  scope : Nat
deriving DecidableEq, Repr

/-- The state of a shell. All stacks have the innermost entry first. -/
structure State where
  store : Store := {}
  /-- The associative arrays. -/
  associative : Names := ∅
  /-- For each open scope, the values its names had before; `none` if they had none. -/
  scopes : List (Table (Option String)) := []
  /-- For each name, the values that local variables hide. The name hidden first comes first. -/
  shadows : List (String × List Shadow) := []
  /-- Local variables that were unset in the scope that declared them. -/
  unsetLocals : Table Nat := ∅
  /-- For each open scope, the names exported in it. -/
  localExports : List Names := []
  /-- The functions that were called. -/
  callNames : List String := []
  /-- The lines that these calls stand on. -/
  callLines : List Int := []
  /-- The files of these functions. -/
  callSources : List String := []
  callDepth : Int := 0
  commandCount : Int := 0
  loopDepth : Int := 0
  inCondition : Bool := false
  /-- A loop surrounds the place that this shell was started from. -/
  startedInLoop : Bool := false
  lastStatus : Int := 0
  lastArgument : String := ""
  line : Int := 0
  processId : Int := 1
  backgroundId : Int := 0
  options : Options := {}
  /-- Options of `shopt` that were set. -/
  shopts : Table Bool := ∅
  startTime : Instant := .zero
  /-- The reading from which seconds are counted, if they were set. -/
  secondsBase : Option Instant := none
  sources : Sources := .still 0 .zero
  /-- What was asked of the sources so far. -/
  queries : Queries := []
  /-- Commands run by substitution so far. -/
  substitutions : List String := []
  /-- How often references may lead to further references before the host's stack is full. -/
  nesting : Nat := 1000

/-- Reading: it may ask the sources and may fail. -/
abbrev Draw := ExceptT Fault (StateM Queries)

/-- Ask for a random number. -/
def Sources.drawNumber (sources : Sources) : Draw Int := do
  let queries ← get
  set (Query.number :: queries)
  pure (sources.number queries)

/-- Ask for the time. -/
def Sources.drawTime (sources : Sources) : Draw Instant := do
  let queries ← get
  set (Query.time :: queries)
  pure (sources.time queries)

/-- Writing: it may fail, and what was written before a failure stays. -/
abbrev Write := ExceptT Fault (StateM State)

/-- Doing something to the state that may also end in a signal. -/
abbrev Effect := ExceptT Stop (StateM State)

/-- Writing as a part of an effect. -/
def Write.toEffect {α : Type} (write : Write α) : Effect α :=
  ExceptT.mk (write.run.map fun result => result.mapError Stop.fault)

namespace State

/-- Read from the present state. -/
def reading {α : Type} (read : State → Draw α) : Write α := do
  let state ← get
  let (result, queries) := (read state).run state.queries
  set { state with queries := queries }
  MonadExcept.ofExcept result

/-- Change the store. -/
def changeStore (change : Store → Store) : Write Unit :=
  modify fun state => { state with store := change state.store }

end State

end Shell
