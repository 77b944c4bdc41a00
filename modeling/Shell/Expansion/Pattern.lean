import Shell.Expansion.Field
import Shell.Glob.Ignore
import Shell.Outcome
import Shell.Word.Token

/-!
Expanding variables and commands inside a pattern, and matching with the options in force. Quoted
parts are protected, unquoted parts stay active.
-/

namespace Shell

/-- Protect a value if it is quoted. -/
def protectIf (quoted : Bool) (value : String) : String :=
  if quoted then Glob.protectText value else value

/-- What runs a command for its output. It may change the state, and end in a signal or a fault, but
what was run before stays on record. -/
structure CommandHook where
  run : String → Effect Outcome
  keeps (command : String) (state : State) :
    state.substitutions <+: ((run command).run state).2.substitutions

/-- The hook that leaves the state alone and answers each command with an outcome. -/
def CommandHook.answering (answer : String → Outcome) : CommandHook where
  run command := pure (answer command)
  keeps _ _ := List.prefix_rfl

namespace State

/-- Expand one token, leaving commands as they are written. -/
def expandToken (state : State) : Word.Token → Draw String
  | .raw text => pure (String.ofList text)
  | .literal text => pure (String.ofList (Glob.protect text))
  | .parameter name quoted => protectIf quoted <$> state.value (String.ofList name)
  | .command source _ _ => pure (String.ofList source)

/-- Expand the variables in a pattern, leaving commands as they are written. -/
def expandPattern (state : State) (pattern : String) : Draw String := do
  let parts ← (Word.tokens pattern.toList).mapM state.expandToken
  pure (String.join parts)

/-- Drop the newlines at the end of a command's output. -/
def dropFinalNewlines (text : String) : String :=
  String.ofList (text.toList.reverse.dropWhile (· = '\n')).reverse

/-- Run a command by substitution: record it, keep its status, and give its output. -/
def substitute (hook : CommandHook) (command : String) : Effect String := do
  modify fun state => { state with substitutions := state.substitutions ++ [command] }
  let outcome ← hook.run command
  modify fun state => { state with lastStatus := outcome.status }
  pure (dropFinalNewlines outcome.stdout)

/-- Expand one token, running commands. -/
def expandTokenRunning (hook : CommandHook) : Word.Token → Effect String
  | .command _ body quoted => protectIf quoted <$> substitute hook (String.ofList body)
  | token => (reading fun state => state.expandToken token).toEffect

/-- Expand the variables in a pattern and run its commands. -/
def expandRunning (hook : CommandHook) (pattern : String) : Effect String := do
  let parts ← (Word.tokens pattern.toList).mapM (expandTokenRunning hook)
  pure (String.join parts)

/-- How patterns are read under the options in force. -/
def globMode (state : State) : Glob.Mode := ⟨state.shopt "extglob", state.shopt "nocasematch"⟩

/-- A text matches a pattern under the options in force. -/
def matchesPattern (state : State) (text pattern : String) : Bool :=
  Glob.accepts state.globMode pattern.toList text.toList

/-- A word is looked up among the paths. -/
def isPathPattern (state : State) (word : String) : Bool :=
  !state.options.noglob && Glob.isPattern (state.shopt "extglob") word.toList

/-- The paths that are not ignored. -/
def keptPaths (state : State) (paths : List String) : Except Fault (List String) :=
  match Glob.keep? ((state.store.get? "GLOBIGNORE").getD "").toList (paths.map String.toList) with
  | some kept => .ok (kept.map String.ofList)
  | none => .error .badPattern

end State

end Shell
