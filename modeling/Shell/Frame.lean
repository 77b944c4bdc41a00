import Shell.Outcome
import Shell.Variable.Write

/-!
Call frames: opening one for a function, local variables in it, and closing it, which puts
everything back that was local to the call.
-/

namespace Shell

/-- What a call saves for its end. -/
structure Frame where
  name : String
  /-- The scope of the call, counted from the outermost. -/
  scope : Nat
  positional : List String
  /-- The text of the number of positional parameters, if there was one. -/
  count : Option String
deriving DecidableEq, Repr

/-- The file of functions that come from no file. -/
def mainSource : String := "main"

/-- A file name, or that of the main file if there is none. -/
def sourceOrMain : Option String → String
  | some source => if source.isEmpty then mainSource else source
  | none => mainSource

namespace State

/-- The signal of a call that would exceed the depth of calls. -/
def depthSignal (limits : Limits) (name : String) : Except Fault Signal :=
  Signal.ofLimit "recursion"
    (fun bound => name ++ ": maximum recursion depth (" ++ bound ++ ") exceeded") limits.callDepth

/-- The state inside a new call, before its positional parameters are set. -/
def enter (state : State) (call : Call) : State :=
  { state with
    callDepth := state.callDepth + 1
    callNames := call.name :: state.callNames
    callLines := call.line :: state.callLines
    callSources := call.source :: state.callSources
    scopes := ∅ :: state.scopes
    store := state.store.openScope
    localExports := ∅ :: state.localExports }

/-- What a new call saves. -/
def frame (state : State) (name : String) : Frame :=
  ⟨name, state.scopes.length, state.positional, state.store.get? "#"⟩

/-- Open the frame of a call. -/
def openFrame (limits : Limits) (name : String) (source : Option String) (args : List String)
    (line : Option Int) : Effect Frame := do
  let state ← get
  if limits.callDepth < state.callDepth + 1 then throw (.ofMade (depthSignal limits name))
  let inside := state.enter ⟨name, line.getD state.line, sourceOrMain source⟩
  set { inside with store := replacePositional inside.store args }
  pure (state.frame name)

/-- Drop the elements that a local array got inside the call whose saved values are `scope`. -/
def dropLocalElements (scope : Table (Option String)) (array : String) : Write Unit := do
  let keys ← MonadExcept.ofExcept ((← get).elementKeys array)
  keys.forM fun key => if scope.contains key then pure () else dropKey key

/-- The names that the scope hides. -/
def hiddenBy (state : State) (scope : Nat) : List String :=
  (state.shadows.filter fun (_, shadows) =>
    shadows.head?.any fun shadow => shadow.scope == scope).map (·.1)

/-- Put back the values that a scope saved. -/
def restoreValues (store : Store) (scope : Table (Option String)) : Store :=
  scope.foldl (fun store name saved =>
    match saved with
    | none => store.drop name
    | some value => store.put name value) store

/-- Associative arrays after attributes were put back: those of the names that have the attribute.
-/
def restoreAssociative (names : List String) (state : State) : State :=
  { state with
    associative := names.foldl (fun associative name =>
      if state.store.hasAttribute name Attribute.associative then associative.insert name
      else associative.erase name) state.associative }

/-- Forget what a scope hid and unset. -/
def forgetScope (scope : Nat) (state : State) : State :=
  { state with
    shadows := state.shadows.filterMap fun (name, shadows) =>
      match shadows.dropWhile fun shadow => shadow.scope == scope with
      | [] => none
      | rest => some (name, rest)
    unsetLocals := state.unsetLocals.filter fun _ index => index != scope }

/-- Close the innermost scope of values. -/
def closeValues (scope : Nat) : Write Unit := do
  match (← get).scopes with
  | [] => throw .noFrame
  | saved :: outer => do
    modify fun state => { state with scopes := outer }
    ((← get).hiddenBy scope).forM (dropLocalElements saved)
    changeStore (restoreValues · saved)

/-- Close the innermost scope of attributes, and give the names it had saved. -/
def closeAttributes : Write (List String) := do
  match (← get).store.saved with
  | [] => throw .noFrame
  | saved :: outer => do
    changeStore fun store =>
      { store with attributes := Store.restoreAttributes store.attributes saved, saved := outer }
    modify (restoreAssociative saved.keys)
    pure saved.keys

/-- Close the innermost scope of exports. Names whose attributes were put back are left alone. -/
def closeExports (restored : List String) : Write Unit := do
  match (← get).localExports with
  | [] => throw .noFrame
  | exported :: outer => do
    modify fun state => { state with localExports := outer }
    changeStore fun store =>
      (exported.toList.filter fun name => !restored.contains name).foldl
        (fun store name => store.dropAttribute name Attribute.exported) store

/-- The call stack and its depth after the innermost call. -/
def leave (state : State) : State :=
  { state with
    callNames := state.callNames.tail
    callLines := state.callLines.tail
    callSources := state.callSources.tail
    callDepth := state.callDepth - 1 }

/-- Close the frame of a call. -/
def closeFrame (frame : Frame) : Write Unit := do
  closeValues frame.scope
  let restored ← closeAttributes
  modify (forgetScope frame.scope)
  closeExports restored
  setPositional frame.positional
  if frame.count.isNone then changeStore (·.drop "#")
  modify leave

/-- Save a value in the innermost scope, unless one is saved under the key. -/
def saveValue (key : String) (value : Option String) (state : State) : State :=
  match state.scopes with
  | [] => state
  | scope :: outer => { state with scopes := scope.insertIfNew key value :: outer }

/-- Add a value that a name hides. A name that hid none before comes last. -/
def addShadow (name : String) (shadow : Shadow) :
    List (String × List Shadow) → List (String × List Shadow)
  | [] => [(name, [shadow])]
  | (other, shadows) :: rest =>
    if other = name then (other, shadow :: shadows) :: rest
    else (other, shadows) :: addShadow name shadow rest

/-- Hide the present value of a name in the innermost scope. -/
def hide (name : String) (state : State) : State :=
  let shadow : Shadow := ⟨state.store.get? name, state.scopes.length - 1⟩
  let saved := saveValue name shadow.value state
  { saved with shadows := addShadow name shadow saved.shadows }

/-- Save the value of an array's element in the innermost scope. -/
def saveElement (key : String) : Write Unit := do
  match (← get).store.get? key with
  | some value => modify (saveValue key (some value))
  | none => throw (.missingKey key)

/-- The innermost scope holds the name. -/
def isLocal (state : State) (name : String) : Bool := state.scopes.head?.any (·.contains name)

/-- Make a variable local to the innermost call. Without a value a variable that is set keeps its
value. -/
def declareLocal (name : String) (value : Option String) : Write Unit := do
  if (← get).scopes.isEmpty then throw .localOutsideFunction
  if !Text.isName name.toList then throw (.notAnIdentifier name)
  if !(← get).isLocal name then
    modify (hide name)
    (← MonadExcept.ofExcept ((← get).elementKeys name)).forM saveElement
  modify fun state =>
    { state with
      store := state.store.saveAttributes name, unsetLocals := state.unsetLocals.erase name }
  match value with
  | some value => changeStore (·.put name value)
  | none => if !(← get).store.has name then changeStore (·.put name "")

/-- Export a name for as long as the innermost call lasts. -/
def exportLocal (name : String) : Write Unit :=
  modify fun state =>
    { state with
      store := state.store.addAttribute name Attribute.exported
      localExports :=
        match state.localExports with
        | [] => []
        | names :: outer => names.insert name :: outer }

end State

end Shell
