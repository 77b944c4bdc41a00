import Shell.Session.Command

/-!
Sessions: a shell, or a bare machine, and the steps a host takes with it.
-/

namespace Shell

/-- What a shell starts from, and returns to when it is reset. -/
structure Startup where
  /-- Variables besides the usual ones. -/
  values : List (String × String)
  options : Options

namespace Startup

/-- The variables every shell starts with. -/
def usualValues : List (String × String) :=
  [("PATH", "/usr/local/bin:/usr/bin:/bin"),
   ("HOME", "/home/user"),
   ("USER", "user"),
   ("SHELL", "/bin/bash"),
   ("PWD", "/home/user"),
   ("IFS", " \t\n"),
   ("SHLVL", "1"),
   ("BASH_VERSION", "5.0.0(1)-release"),
   ("OPTIND", "1")]

/-- Those of them that are exported. -/
def usualExports : List String :=
  ["PATH", "HOME", "USER", "SHELL", "PWD", "SHLVL", "BASH_VERSION"]

/-- The store a shell starts with. -/
def store (startup : Startup) : Store :=
  let values := usualValues ++ startup.values
  let exports := usualExports ++ startup.values.map (·.1)
  Session.extendStore {} values (exports.map fun name => (name, Attribute.exported))

/-- The state a shell starts with, in the surroundings of another state. -/
def state (startup : Startup) (around : State) : State :=
  State.syncListings
    { store := startup.store
      options := startup.options
      startTime := around.sources.time around.queries
      sources := around.sources
      queries := .time :: around.queries
      substitutions := around.substitutions
      nesting := around.nesting }

end Startup

/-- A session. -/
structure Session where
  machine : Machine (Function Command) (List Answer)
  limits : Limits
  /-- How many bodies of functions may run inside each other. -/
  depth : Nat := limits.commands.toNat
  hook : CommandHook
  /-- What the shell starts from; nothing for a bare machine. -/
  startup : Option Startup
  /-- Frames opened by steps and not yet closed, innermost first. -/
  frames : List Frame := []

/-- A step of a session. -/
inductive Step
  | operation (operation : Operation)
  | openFrame (name : String) (source : Option String) (args : List String) (line : Option Int)
  | closeFrame
  /-- Run a script, and report the variables if asked. -/
  | execute (script : List (Statement Command)) (withValues : Bool)
  | condition (script : List (Statement Command))
  | builtin (which : Builtin) (args : List String)
  | expandRunning (pattern : String)
  | reset
  | values

namespace Session

/-- A machine in a state, without functions. -/
def machineIn (state : State) : Machine (Function Command) (List Answer) :=
  { state := state, host := [] }

/-- A session with a shell. -/
def ofStartup (startup : Startup) (around : State) (limits : Limits) (hook : CommandHook) :
    Session :=
  { machine := machineIn (startup.state around), limits, hook, startup := some startup }

/-- A session with a bare machine. -/
def ofState (state : State) (limits : Limits) (hook : CommandHook) : Session :=
  { machine := machineIn state, limits, hook, startup := none }

/-- What running scripts needs. -/
def context (session : Session) : Context Command (List Answer) :=
  ⟨session.limits, session.depth, Command.action session.hook⟩

/-- Run a script: as a whole in a shell, as a list of statements on a bare machine. -/
def execute (session : Session) (script : List (Statement Command)) : Task Outcome :=
  if session.startup.isSome then session.context.exec script else session.context.run script

/-- Run a script and report. -/
def executeStep (session : Session) (script : List (Statement Command)) (withValues : Bool) :
    Task Answer := do
  let outcome ← session.execute script
  if withValues then
    let values := (← Action.state).store.values
    pure (.outcomeWithValues outcome (session.startup.map fun _ => values))
  else pure (.outcome outcome)

/-- Do something with the machine of a session. -/
def onMachine (session : Session) (task : Task Answer) : Except Stop Answer × Session :=
  let (result, machine) := task.run session.machine
  (result, { session with machine := machine })

/-- Open a frame and keep it. -/
def openFrame (session : Session) (name : String) (source : Option String) (args : List String)
    (line : Option Int) : Except Stop Answer × Session :=
  let opening := State.openFrame session.limits name source args line
  let (result, state) := opening.run session.machine.state
  let session := { session with machine := { session.machine with state := state } }
  match result with
  | .ok frame => (.ok (.frame frame), { session with frames := frame :: session.frames })
  | .error stop => (.error stop, session)

/-- Close the frame kept last. -/
def closeFrame (session : Session) : Except Stop Answer × Session :=
  match session.frames with
  | [] => (.error (.fault .noFrame), session)
  | frame :: rest =>
    onMachine { session with frames := rest } (fromWrite (State.closeFrame frame))

/-- Put a shell back to where it started. Its surroundings go on. -/
def reset (session : Session) : Session :=
  match session.startup with
  | none => session
  | some startup =>
    { session with machine := machineIn (startup.state session.machine.state) }

/-- Take a step with a machine whose host keeps no answers. -/
def takeStep (session : Session) : Step → Except Stop Answer × Session
  | .operation operation => session.onMachine (perform operation)
  | .openFrame name source args line => session.openFrame name source args line
  | .closeFrame => session.closeFrame
  | .execute script withValues => session.onMachine (session.executeStep script withValues)
  | .condition script => session.onMachine (.outcome <$> session.context.condition script)
  | .builtin which args => session.onMachine (.outcome <$> which.action args)
  | .expandRunning pattern =>
    session.onMachine (.text <$> Action.onState (State.expandRunning session.hook pattern))
  | .reset => (.ok .nothing, session.reset)
  | .values => session.onMachine ((fun state => .values state.store.values) <$> Action.state)

/-- Take a step. The answers that the host keeps are those of this step. -/
def step (session : Session) (step : Step) : Except Stop Answer × Session :=
  { session with machine := { session.machine with host := [] } }.takeStep step

/-- Take a step, unless it ends in a fault after which the session cannot go on. -/
def stepOn (session : Session) (step : Step) : Except Fault (Except Stop Answer × Session) :=
  match session.step step with
  | (.error (.fault fault), after) =>
    if fault.endsSession then .error fault else .ok (.error (.fault fault), after)
  | result => .ok result

end Session

end Shell
