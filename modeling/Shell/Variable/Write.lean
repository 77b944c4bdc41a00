import Shell.Variable.Read

/-!
Writing variables: assignment, arrays, unsetting and positional parameters.
-/

namespace Shell.State

/-- Refuse to change a variable that cannot be changed. -/
def checkWritable (name : String) : Write Unit := do
  if (← get).store.isReadonly name then throw (.readonly name)

/-- Assign a name that is neither a reference nor a nameref. -/
def assign (name value : String) : Write Unit := do
  checkWritable name
  if name = "RANDOM" then
    modify fun state =>
      { state with queries := .seed (Text.intValue value.toList) :: state.queries }
  else if name = "SECONDS" then
    let now ← reading (·.sources.drawTime)
    let base ← MonadExcept.ofExcept (now.since (.whole (Text.intValue value.toList)))
    modify fun state => { state with secondsBase := some base }
  changeStore (·.put name value)
  if (← get).options.allexport then changeStore (·.addAttribute name Attribute.exported)

/-- Put a value into an indexed array. A scalar becomes the element at zero first. -/
def putElement (array : String) (index : Nat) (value : String) : Write Unit := do
  let state ← get
  if let some scalar := state.store.get? array then
    if !(← MonadExcept.ofExcept (state.isArray array)) then
      changeStore fun store => (store.drop array).put (elementKey array "0") scalar
  let key ← MonadExcept.ofExcept (indexKey array index)
  changeStore (·.put key value)
  changeStore (·.addAttribute array Attribute.indexed)

/-- Assign an array's element. -/
def setElement (name subscript value : String) : Write Unit := do
  match (← get).resolve? name with
  | none => pure ()
  | some array => do
    checkWritable array
    if (← get).isAssociative array then
      let key ← reading fun state => Subscript.key state.value subscript
      changeStore (·.put (elementKey array key) value)
    else
      match ← reading fun state => state.subscriptIndex state.value array subscript with
      | none => throw (.badSubscript array subscript)
      | some index => putElement array index value

/-- Assign a variable or an array's element. An assignment through namerefs that lead nowhere is
dropped. -/
def setVariable (name value : String) : Write Unit := do
  match Reference.parse? name with
  | some reference => setElement reference.array reference.subscript value
  | none =>
    match (← get).resolve? name with
    | none => pure ()
    | some target =>
      match Reference.parse? target with
      | some reference => setElement reference.array reference.subscript value
      | none => assign target value

/-- Make a name an associative array. -/
def declareAssociative (name : String) : Write Unit :=
  modify fun state =>
    { state with
      associative := state.associative.insert name
      store := state.store.addAttribute name Attribute.associative }

/-- Drop a key that has to be in the store. -/
def dropKey (key : String) : Write Unit := do
  if (← get).store.has key then changeStore (·.drop key) else throw (.missingKey key)

/-- The store keys of an array's elements. -/
def elementKeys (state : State) (array : String) : Except Fault (List String) :=
  if state.isAssociative array then .ok ((state.suffixes array).map (elementKey array))
  else do pure ((← state.indices array).map fun index => elementKey array (toString index))

/-- Drop all elements of an array. -/
def clearArray (array : String) : Write Unit := do
  (← MonadExcept.ofExcept ((← get).elementKeys array)).forM dropKey

/-- Put values into an indexed array, one after the other from an index on. -/
def putElements (array : String) : (index : Nat) → List String → Write Unit
  | _, [] => pure ()
  | index, value :: rest => do
    let key ← MonadExcept.ofExcept (indexKey array index)
    changeStore (·.put key value)
    putElements array (index + 1) rest

/-- Replace an indexed array. -/
def setArray (name : String) (values : List String) : Write Unit := do
  match (← get).resolve? name with
  | none => pure ()
  | some array => do
    checkWritable array
    clearArray array
    changeStore (·.drop array)
    putElements array 0 values
    changeStore (·.addAttribute array Attribute.indexed)

/-- Replace an associative array. -/
def setAssociativeArray (name : String) (items : List (String × String)) : Write Unit := do
  match (← get).resolve? name with
  | none => pure ()
  | some array => do
    checkWritable array
    declareAssociative array
    clearArray array
    changeStore fun store =>
      items.foldl (fun store (key, value) => store.put (elementKey array key) value) store

/-- Attributes that a variable loses when it is unset. -/
def lostAttributes : List String :=
  [Attribute.indexed, Attribute.associative, Attribute.nameref, Attribute.exported]

/-- Note that a local variable of the innermost scope was unset. -/
def noteUnset (name : String) (state : State) : State :=
  match state.scopes with
  | scope :: outer =>
    if scope.contains name then
      { state with unsetLocals := state.unsetLocals.insert name outer.length }
    else state
  | [] => state

/-- Unset a name that is neither a reference nor followed as a nameref. -/
def unsetName (name : String) : Write Unit := do
  checkWritable name
  clearArray name
  modify fun state =>
    { state with
      store := lostAttributes.foldl (·.dropAttribute name ·) (state.store.drop name)
      associative := state.associative.erase name }
  modify (noteUnset name)

/-- Unset an array's element, when `unsetWhole` unsets all of an array. -/
def unsetElement (unsetWhole : String → Write Unit) (reference : Reference) : Write Unit := do
  let array := (← get).resolved reference.array
  let subscript := reference.subscript
  checkWritable array
  if isWhole subscript then unsetWhole array
  else if (← get).isAssociative array then
    let key ← reading fun state => Subscript.key state.value subscript
    changeStore (·.drop (elementKey array key))
  else
    match ← reading fun state => state.subscriptIndex state.value array subscript with
    | none => throw (.badSubscript array subscript)
    | some index => do
      let key ← MonadExcept.ofExcept (indexKey array index)
      changeStore (·.drop key)

/-- Unset a variable or an element, when references lead to others at most `depth` times. -/
def unsetWithin : (depth : Nat) → String → Write Unit
  | 0, _ => throw .nestingTooDeep
  | depth + 1, name => do
    match Reference.parse? name with
    | some reference => unsetElement (unsetWithin depth) reference
    | none =>
      match (← get).resolve? name with
      | none => pure ()
      | some target =>
        match Reference.parse? target with
        | some reference => unsetElement (unsetWithin depth) reference
        | none => unsetName target

/-- Unset a variable, an array or an element, following namerefs. -/
def unset (name : String) : Write Unit := do
  unsetWithin ((← get).nesting + 1) name

/-- Unset a nameref itself, or an element. -/
def unsetNameref (name : String) : Write Unit :=
  match Reference.parse? name with
  | some reference => unsetElement unset reference
  | none => unsetName name

/-- A store without the positional parameters from number `i` on. -/
def dropPositionalFrom (store : Store) : (fuel i : Nat) → Store
  | 0, _ => store
  | fuel + 1, i =>
    if store.has (toString i) then dropPositionalFrom (store.drop (toString i)) fuel (i + 1)
    else store

/-- A store with positional parameters from number `i` on. -/
def putPositionalFrom (store : Store) (i : Nat) : List String → Store
  | [] => store
  | value :: rest => putPositionalFrom (store.put (toString i) value) (i + 1) rest

/-- A store with other positional parameters, and their number. -/
def replacePositional (store : Store) (values : List String) : Store :=
  (putPositionalFrom (dropPositionalFrom store store.values.size 1) 1 values).put "#"
    (toString values.length)

/-- Replace the positional parameters. -/
def setPositional (values : List String) : Write Unit :=
  changeStore (replacePositional · values)

end Shell.State
