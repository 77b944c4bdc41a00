import Shell.Field.Separator
import Shell.Stop
import Shell.Variable.Arithmetic
import Shell.Variable.Array

/-!
Reading variables: special parameters, array elements, namerefs and plain values. What is not set
reads as the empty text.
-/

namespace Shell

/-- Reading that may also end in a signal. -/
abbrev Expand := ExceptT Stop (StateM Queries)

/-- Reading as a part of expansion. -/
def Draw.toExpand {α : Type} (read : Draw α) : Expand α :=
  ExceptT.mk (read.run.map fun result => result.mapError Stop.fault)

/-- The result of a reading, or nothing if it ended in a fault that its caller expects. -/
def Draw.recover {α : Type} (read : Draw α) : Draw (Option α) :=
  tryCatch (some <$> read) fun fault => if fault.isRecoverable then pure none else throw fault

namespace State

/-- The separators of fields, as they are set. -/
def separatorSetting (state : State) : Option String := state.store.get? "IFS"

/-- Positional parameters from number `i` on, at most `fuel` of them. -/
def positionalFrom (state : State) : (fuel i : Nat) → List String
  | 0, _ => []
  | fuel + 1, i =>
    match state.store.get? (toString i) with
    | some value => value :: state.positionalFrom fuel (i + 1)
    | none => []

/-- The positional parameters. -/
def positional (state : State) : List String := state.positionalFrom state.store.values.size 1

/-- The options of `set` that are on. -/
def optionListing (state : State) : String := state.options.listing

/-- The reported options of `shopt` that are on. -/
def shoptListing (state : State) : String := Shopt.listing state.shopts

/-- Whole seconds since the shell started or the count was set. -/
def elapsed (state : State) (now : Instant) : Except Fault Int := do
  let time ← now.since (state.secondsBase.getD state.startTime)
  time.seconds

/-- The text of the seconds. -/
def secondsText (state : State) (now : Instant) : Except Fault String :=
  state.elapsed now >>= spell

/-- A variable that the shell computes, if the name is that of one. -/
def computed? (state : State) (name : String) : Option (Draw String) :=
  match name with
  | "?" => some (MonadExcept.ofExcept (spell state.lastStatus))
  | "$" | "BASHPID" => some (MonadExcept.ofExcept (spell state.processId))
  | "!" =>
    some (MonadExcept.ofExcept
      (if state.backgroundId = 0 then .ok "" else spell state.backgroundId))
  | "#" => some (pure (toString state.positional.length))
  | "@" => some (pure (" ".intercalate state.positional))
  | "*" => some (pure ((Field.joiner state.separatorSetting).intercalate state.positional))
  | "-" => some (pure state.options.flags)
  | "_" => some (pure state.lastArgument)
  | "0" => some (pure ((state.store.get? "0").getD "bash"))
  | "LINENO" => some (MonadExcept.ofExcept (spell state.line))
  | "RANDOM" => some do
    let number ← state.sources.drawNumber
    MonadExcept.ofExcept (spell number)
  | "SECONDS" => some do
    let now ← state.sources.drawTime
    MonadExcept.ofExcept (state.secondsText now)
  | "SHELLOPTS" => some (pure state.optionListing)
  | "BASHOPTS" => some (pure state.shoptListing)
  | _ => none

/-- The value of a name that is neither computed nor a reference. An array stands for its element
at zero. -/
def stored (state : State) (name : String) : Except Fault String :=
  match state.callArray? name with
  | some values => (·.headD "") <$> values
  | none =>
    match state.store.get? name with
    | some value => .ok value
    | none =>
      if Text.isName name.toList then do
        pure (if ← state.isArray name then (state.store.get? (elementKey name "0")).getD "" else "")
      else .ok ""

/-- The subscript stands for all elements. -/
def isWhole (subscript : String) : Bool := subscript == "@" || subscript == "*"

/-- The value at an index of a list, where negative ones count back from the end. -/
def valueAt (values : List String) (index : Int) : Option String :=
  let index := if index < 0 then index + values.length else index
  if index < 0 then none else values[index.toNat]?

/-- The index that a subscript denotes in an indexed array. -/
def subscriptIndex (state : State) (read : String → Draw String) (array subscript : String) :
    Draw (Option Nat) := do
  let index ← Subscript.evaluate read subscript
  MonadExcept.ofExcept (state.normalIndex? array index)

/-- The elements of an array as a reading. -/
def readElements (state : State) (name : String) : Draw (List (Key × String)) :=
  MonadExcept.ofExcept (state.elements name)

/-- The value of an array's element, when `read` gives the values of variables in subscripts. -/
def element (state : State) (read : String → Draw String) (reference : Reference) : Draw String :=
  let array := state.resolved reference.array
  let subscript := reference.subscript
  match state.callArray? array with
  | some values => do
    let values ← MonadExcept.ofExcept values
    if isWhole subscript then pure (" ".intercalate values)
    else
      let index ← (Subscript.evaluate read subscript).recover
      pure ((index.bind (valueAt values)).getD "")
  | none =>
    if isWhole subscript then do
      let elements ← state.readElements array
      if elements.isEmpty then pure ((state.store.get? array).getD "")
      else pure (" ".intercalate (elements.map (·.2)))
    else if state.isAssociative array then do
      let key ← Subscript.key read subscript
      pure ((state.store.get? (elementKey array key)).getD "")
    else do
      let index ← (state.subscriptIndex read array subscript).recover
      match index.join with
      | none => pure ""
      | some index =>
        let key ← MonadExcept.ofExcept (indexKey array index)
        match state.store.get? key with
        | some value => pure value
        | none => pure (if index = 0 then (state.store.get? array).getD "" else "")

/-- The value of a variable, when subscripts lead to others at most `depth` times. -/
def valueWithin (state : State) : (depth : Nat) → String → Draw String
  | 0, _ => throw .nestingTooDeep
  | depth + 1, name =>
    let name := state.resolved name
    match Reference.parse? name with
    | some reference => state.element (state.valueWithin depth) reference
    | none => (state.computed? name).getD (MonadExcept.ofExcept (state.stored name))

theorem valueWithin_succ (state : State) (depth : Nat) (name : String) :
    state.valueWithin (depth + 1) name =
      match Reference.parse? (state.resolved name) with
      | some reference => state.element (state.valueWithin depth) reference
      | none => (state.computed? (state.resolved name)).getD
        (MonadExcept.ofExcept (state.stored (state.resolved name))) := rfl

/-- The value of a variable; empty if it is not set. -/
def value (state : State) (name : String) : Draw String :=
  state.valueWithin (state.nesting + 1) name

/-- Names that always count as set. -/
def alwaysSet : List String :=
  ["?", "$", "-", "0", "#", "BASHPID", "LINENO", "RANDOM", "SECONDS", "SHELLOPTS", "BASHOPTS"]

/-- The element of an array is set. -/
def isElementSet (state : State) (reference : Reference) : Draw Bool :=
  let array := state.resolved reference.array
  let subscript := reference.subscript
  match state.callArray? array with
  | some values => do
    let values ← MonadExcept.ofExcept values
    if isWhole subscript then pure !values.isEmpty
    else
      let index ← (Subscript.evaluate state.value subscript).recover
      pure (index.any fun index => -(values.length : Int) ≤ index && index < values.length)
  | none =>
    if isWhole subscript then (fun elements => !elements.isEmpty) <$> state.readElements array
    else if state.isAssociative array then
      (fun key => state.store.has (elementKey array key)) <$> Subscript.key state.value subscript
    else do
      let index ← (state.subscriptIndex state.value array subscript).recover
      match index.join with
      | none => pure false
      | some index =>
        let key ← MonadExcept.ofExcept (indexKey array index)
        pure (state.store.has key || (index == 0 && state.store.has array))

/-- A plain name has a value in the store, its own or that of the element at zero. -/
def isStored (state : State) (name : String) : Except Fault Bool :=
  match state.callArray? name with
  | some values => (fun values => !values.isEmpty) <$> values
  | none =>
    if state.store.has name then .ok true
    else if Text.isName name.toList then do
      pure ((← state.isArray name) && state.store.has (elementKey name "0"))
    else .ok false

/-- The variable is set; an empty value counts. -/
def isSet (state : State) (name : String) : Draw Bool :=
  let name := state.resolved name
  if alwaysSet.contains name then pure true
  else if isWhole name then pure !state.positional.isEmpty
  else if name = "!" then pure (state.backgroundId != 0)
  else match Reference.parse? name with
    | some reference => state.isElementSet reference
    | none => MonadExcept.ofExcept (state.isStored name)

/-- The value of a variable. If unset variables are errors, one that is not set ends in a signal. -/
def require (state : State) (name : String) : Expand String := do
  if state.options.nounset && !isWhole name then
    if !(← (state.isSet name).toExpand) then
      throw (.signal (.ofCause (.unbound name) "" ""))
  (state.value name).toExpand

/-- The ways to cut a text at an underscore after its first character. -/
def underscoreCuts : List Char → List (List Char × List Char)
  | [] => []
  | c :: rest =>
    let further := (underscoreCuts rest).map fun (left, right) => (c :: left, right)
    match rest with
    | '_' :: after => ([c], after) :: further
    | _ => further

/-- The first of several arrays and suffixes that fit each other. -/
def arrayAmong? (state : State) :
    List (List Char × List Char) → Except Fault (Option String)
  | [] => .ok none
  | (left, right) :: rest => do
    let array := String.ofList left
    if state.isAssociative array then pure (some array)
    else if Text.isIndex right then
      if ← state.isArray array then pure (some array) else state.arrayAmong? rest
    else state.arrayAmong? rest

/-- The array whose element is kept under a key, if there is one. -/
def arrayOfKey? (state : State) (key : String) : Except Fault (Option String) :=
  state.arrayAmong? (underscoreCuts key.toList)

/-- Names of variables and arrays that begin with a text, in order. -/
def namesFrom (state : State) (head : String) : Except Fault (List String) := do
  let stored ← (state.store.keys.filter fun key => Text.isName key.toList).mapM fun key => do
    pure ((← state.arrayOfKey? key).getD key)
  let all : Names := Std.ExtTreeSet.ofList (stored ++ state.associative.toList)
  pure (all.toList.filter fun name => head.toList.isPrefixOf name.toList)

end State

end Shell
