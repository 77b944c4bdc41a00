import Shell.Control.Script
import Shell.Expansion.Pattern

/-!
Single operations on a machine, as data: what a host can ask of a shell, and the answers it gets.
-/

namespace Shell

/-- A part of the state that a host may set. -/
inductive Setting
  | lastStatus (status : Int)
  | lastArgument (text : String)
  | line (number : Int)
  | processId (number : Int)
  | backgroundId (number : Int)
  | startedInLoop (flag : Bool)
  | inCondition (flag : Bool)
  | loopDepth (depth : Int)
  | startTime (time : Instant)
  | callDepth (depth : Int)
  | clock (time : Instant)
deriving DecidableEq, Repr

/-- A state with a part of it set. -/
def Setting.apply (state : State) : Setting → State
  | lastStatus status => { state with lastStatus := status }
  | lastArgument text => { state with lastArgument := text }
  | line number => { state with line := number }
  | processId number => { state with processId := number }
  | backgroundId number => { state with backgroundId := number }
  | startedInLoop flag => { state with startedInLoop := flag }
  | inCondition flag => { state with inCondition := flag }
  | loopDepth depth => { state with loopDepth := depth }
  | startTime time => { state with startTime := time }
  | callDepth depth => { state with callDepth := depth }
  | clock time => { state with sources := { state.sources with time := fun _ => time } }

/-- An operation on a machine. -/
inductive Operation
  -- variables
  | value (name : String)
  | isSet (name : String)
  | require (name : String)
  | setVariable (name value : String)
  | unset (name : String)
  | unsetNameref (name : String)
  | setArray (name : String) (values : List String)
  | setElement (name subscript value : String)
  | setAssociativeArray (name : String) (items : List (String × String))
  | declareAssociative (name : String)
  | clearArray (name : String)
  | isArray (name : String)
  | isAssociative (name : String)
  | arrayKeys (name : String)
  | indices (name : String)
  | suffixes (name : String)
  | namerefTarget (name : String)
  | elements (name : String)
  | resolve (name : String) (depth : Nat)
  | evaluate (subscript : String)
  | expandSubscript (subscript : String)
  | namesFrom (head : String)
  | setPositional (values : List String)
  | positional
  -- the store
  | put (key value : String)
  | take (key : String)
  | get (key : String)
  | addAttribute (name letter : String)
  | dropAttribute (name letter : String)
  | attributes (name : String)
  | hasAttributeSet (name : String)
  | hasAttribute (name letter : String)
  | saveAttributes (name : String)
  | putNameref (name target : String)
  | copyStore (values : List (String × String)) (attributes : List (String × String))
  -- the state
  | set (setting : Setting)
  | snapshot
  -- options
  | option (name : String)
  | setOption (name : String) (on : Bool)
  | setFlag (flag : String) (on : Bool)
  | shopt (name : String)
  | setShopt (name : String) (on : Bool)
  | shopts
  | optionListing
  | shoptListing
  | optionFlags
  | syncListings
  -- expansion
  | expandArray (name : String) (star : Bool) (operation : Option Transform)
  | expandPositional (star : Bool) (operation : Option Transform)
  | expandKeys (name : String) (star : Bool)
  | expandNames (head : String) (star : Bool)
  | splitValue (value : String)
  | expandPattern (pattern : String)
  | matchesPattern (text pattern : String)
  | isPathPattern (word : String)
  | keptPaths (paths : List String)
  -- functions and failures
  | declareLocal (name : String) (value : Option String)
  | exportLocal (name : String)
  | isFunction (name : String)
  | unsetFunction (name : String)
  | functionNames
  | checkFailure (outcome : Outcome)
deriving DecidableEq, Repr

/-- The answer to an operation. -/
inductive Answer
  | nothing
  | flag (value : Bool)
  | number (value : Int)
  | numbers (values : List Nat)
  | text (value : String)
  | maybeText (value : Option String)
  | texts (values : List String)
  | fields (values : List String)
  | elements (values : List (Key × String))
  | switches (values : List (String × Bool))
  | outcome (value : Outcome)
  /-- An outcome, and the variables after it where a shell reports them. -/
  | outcomeWithValues (value : Outcome) (values : Option (Table String))
  | frame (value : Frame)
  | values (values : Table String)
  | store (value : Store)
  /-- The whole state, and the file of each function. -/
  | snapshot (state : State) (sources : Table String)

namespace Session

variable {κ σ : Type}

/-- A store with values and attributes added. -/
def extendStore (store : Store) (values attributes : List (String × String)) : Store :=
  let store := values.foldl (fun store (key, value) => store.put key value) store
  attributes.foldl (fun store (name, letter) => store.addAttribute name letter) store

/-- Everything about a machine that can be seen from outside. -/
def snapshotOf (machine : Machine (Function κ) σ) : Answer :=
  .snapshot machine.state (machine.functions.map fun _ function => function.source)

/-- Answer from the present state. -/
def fromState (answer : State → Answer) : Run κ σ Answer := answer <$> Action.state

/-- Answer with the result of a reading. -/
def fromRead {α : Type} (answer : α → Answer) (read : State → Draw α) : Run κ σ Answer :=
  answer <$> Action.read read

/-- Answer with the result of an expansion. -/
def fromExpand {α : Type} (answer : α → Answer) (read : State → Expand α) : Run κ σ Answer :=
  answer <$> Action.expand read

/-- Answer from the present state, with a result that may be a fault. -/
def fromResult {α : Type} (answer : α → Answer) (result : State → Except Fault α) :
    Run κ σ Answer :=
  fromRead answer fun state => MonadExcept.ofExcept (result state)

/-- Write, with nothing to answer. -/
def fromWrite (write : Write Unit) : Run κ σ Answer := (fun _ => .nothing) <$> Action.write write

/-- Change the store, with nothing to answer. -/
def fromStore (change : Store → Store) : Run κ σ Answer := fromWrite (State.changeStore change)

/-- Carry out an operation. -/
def perform : Operation → Run κ σ Answer
  | .value name => fromRead .text (·.value name)
  | .isSet name => fromRead .flag (·.isSet name)
  | .require name => fromExpand .text (·.require name)
  | .setVariable name value => fromWrite (State.setVariable name value)
  | .unset name => fromWrite (State.unset name)
  | .unsetNameref name => fromWrite (State.unsetNameref name)
  | .setArray name values => fromWrite (State.setArray name values)
  | .setElement name subscript value => fromWrite (State.setElement name subscript value)
  | .setAssociativeArray name items => fromWrite (State.setAssociativeArray name items)
  | .declareAssociative name => fromWrite (State.declareAssociative name)
  | .clearArray name => fromWrite (State.clearArray name)
  | .isArray name => fromResult .flag (·.isArray name)
  | .isAssociative name => fromState (.flag <| ·.isAssociative name)
  | .arrayKeys name =>
    fromRead (fun elements => .texts (elements.map (·.1.text))) (·.readElements name)
  | .indices name => fromResult .numbers (·.indices name)
  | .suffixes name => fromState (.texts <| ·.suffixes name)
  | .namerefTarget name => fromState (.maybeText <| ·.namerefTarget? name)
  | .elements name => fromRead .elements (·.readElements name)
  | .resolve name depth => fromState (.maybeText <| ·.resolveWithin? depth name)
  | .evaluate subscript => fromRead .number fun state => Subscript.evaluate state.value subscript
  | .expandSubscript subscript => fromRead .text fun state => Subscript.expand state.value subscript
  | .namesFrom head => fromResult .texts (·.namesFrom head)
  | .setPositional values => fromWrite (State.setPositional values)
  | .positional => fromState (.texts ·.positional)
  | .put key value => fromStore (·.put key value)
  | .take key => do
    let old := (← Action.state).store.get? key
    let _ ← (fromStore (·.drop key) : Run κ σ Answer)
    pure (.maybeText old)
  | .get key => fromState (.maybeText <| ·.store.get? key)
  | .addAttribute name letter => fromStore (·.addAttribute name letter)
  | .dropAttribute name letter => fromStore (·.dropAttribute name letter)
  | .attributes name =>
    fromState fun state => .text (String.join (state.store.attributesOf name).toList)
  | .hasAttributeSet name => fromState (.flag <| ·.store.hasAttributeSet name)
  | .hasAttribute name letter => fromState (.flag <| ·.store.hasAttribute name letter)
  | .saveAttributes name => fromStore (·.saveAttributes name)
  | .putNameref name target => fromStore (·.putNameref name target)
  | .copyStore values attributes =>
    fromState fun state => .store (extendStore state.store.copy values attributes)
  | .set setting => do
    Action.changeState (setting.apply ·)
    pure .nothing
  | .snapshot => snapshotOf <$> get
  | .option name => fromResult .flag (·.option name)
  | .setOption name on => fromWrite (State.setOption name on)
  | .setFlag flag on => fromWrite (State.setFlag flag on)
  | .shopt name => fromState (.flag <| ·.shopt name)
  | .setShopt name on => fromWrite (State.setShopt name on)
  | .shopts => fromState fun state => .switches (Shopt.all state.shopts)
  | .optionListing => fromState (.text ·.optionListing)
  | .shoptListing => fromState (.text ·.shoptListing)
  | .optionFlags => fromState (.text ·.options.flags)
  | .syncListings => do
    Action.changeState State.syncListings
    pure .nothing
  | .expandArray name star operation => fromExpand .fields (·.expandArray name star operation)
  | .expandPositional star operation => fromExpand .fields (·.expandPositional star operation)
  | .expandKeys name star => fromRead .fields (·.expandKeys name star)
  | .expandNames head star => fromResult .fields (·.expandNames head star)
  | .splitValue value => fromState (.texts <| ·.splitValue value)
  | .expandPattern pattern => fromRead .text (·.expandPattern pattern)
  | .matchesPattern text pattern => fromState (.flag <| ·.matchesPattern text pattern)
  | .isPathPattern word => fromState (.flag <| ·.isPathPattern word)
  | .keptPaths paths => fromResult .texts (·.keptPaths paths)
  | .declareLocal name value => fromWrite (State.declareLocal name value)
  | .exportLocal name => fromWrite (State.exportLocal name)
  | .isFunction name => do pure (.flag ((← get).functions.contains name))
  | .unsetFunction name => do
    let machine ← get
    set { machine with functions := machine.functions.erase name }
    pure (.flag (machine.functions.contains name))
  | .functionNames => do pure (.texts (← get).functions.keys)
  | .checkFailure outcome => do
    Action.checkFailure outcome
    pure .nothing

end Session

end Shell
