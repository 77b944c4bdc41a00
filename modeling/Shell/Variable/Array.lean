import Shell.Variable.Nameref

/-!
Arrays in the flat store. Element `i` of an array is kept under the array's name, an underscore
and the decimal text of `i`; an element of an associative array under its key in the same way.
-/

namespace Shell

/-- The store key of an array's element. -/
def elementKey (array suffix : String) : String := array ++ "_" ++ suffix

/-- Insert a number into an ascending list. -/
def insertAscending (n : Nat) : List Nat → List Nat
  | [] => [n]
  | first :: rest => if n ≤ first then n :: first :: rest else first :: insertAscending n rest

/-- Sort numbers. -/
def ascending (numbers : List Nat) : List Nat := numbers.foldr insertAscending []

/-- Where an element stands in its array. -/
inductive Key
  | index (value : Nat)
  | name (text : String)
deriving DecidableEq, Repr

/-- The text of a key. -/
def Key.text : Key → String
  | index value => toString value
  | name text => text

/-- Values as the elements of an array from index zero on. -/
def numbered (values : List String) : List (Key × String) :=
  values.mapIdx fun index value => (.index index, value)

namespace State

/-- The array is associative. -/
def isAssociative (state : State) (name : String) : Bool := state.associative.contains name

/-- What follows the array's name and an underscore in the keys of the store, in order. -/
def suffixes (state : State) (array : String) : List String :=
  state.store.keys.filterMap (dropHead? (elementKey array ""))

/-- The index that a suffix spells. -/
def readIndex (suffix : String) : Except Fault Nat :=
  let digits := Text.chopNewline suffix.toList
  match Text.readNat? digits with
  | some index => .ok index
  | none => .error (.numeralTooLong digits.length)

/-- The indices of an indexed array, ascending. -/
def indices (state : State) (array : String) : Except Fault (List Nat) :=
  ascending <$> ((state.suffixes array).filter fun suffix => Text.isIndex suffix.toList).mapM
    readIndex

/-- The call stack as an array, under the three names it has. A line may have too many digits. -/
def callArray? (state : State) (name : String) : Option (Except Fault (List String)) :=
  if name = "FUNCNAME" then some (.ok state.callNames)
  else if name = "BASH_LINENO" then some (state.callLines.mapM spell)
  else if name = "BASH_SOURCE" then some (.ok state.callSources)
  else none

/-- The element of an array at an index that the store shows. -/
def elementAt (state : State) (array : String) (index : Nat) : Except Fault (Key × String) :=
  let key := elementKey array (toString index)
  match state.store.get? key with
  | some value => .ok (.index index, value)
  | none => .error (.missingKey key)

/-- The elements of an array that is no nameref, in order. -/
def ownElements (state : State) (array : String) : Except Fault (List (Key × String)) :=
  if state.isAssociative array then
    .ok ((state.suffixes array).filterMap fun suffix =>
      (state.store.get? (elementKey array suffix)).map fun value => (.name suffix, value))
  else do (← state.indices array).mapM (state.elementAt array)

/-- The elements of an array, in order. -/
def elements (state : State) (name : String) : Except Fault (List (Key × String)) :=
  match state.callArray? name with
  | some values => numbered <$> values
  | none => state.ownElements (state.resolved name)

/-- The name is declared as an array, or is that of the call stack. -/
def isDeclaredArray (state : State) (name : String) : Bool :=
  (state.callArray? name).isSome || state.isAssociative name ||
    state.store.hasAttribute name Attribute.indexed ||
    state.store.hasAttribute name Attribute.associative

/-- The name is that of an array, by declaration or by its elements. -/
def isArray (state : State) (name : String) : Except Fault Bool :=
  if state.isDeclaredArray name then .ok true
  else (fun indices => !indices.isEmpty) <$> state.indices name

/-- An index, where negative ones count back from the end of the array. -/
def normalIndex? (state : State) (array : String) (index : Int) : Except Fault (Option Nat) :=
  if 0 ≤ index then .ok (some index.toNat)
  else do
    match (← state.indices array).getLast? with
    | none => pure none
    | some last => pure (if 0 ≤ last + 1 + index then some (last + 1 + index).toNat else none)

/-- The store key of the element at an index. The index may have too many digits. -/
def indexKey (array : String) (index : Nat) : Except Fault String :=
  match Text.decimal? index with
  | some digits => .ok (elementKey array digits)
  | none => .error .numberTooLong

end State

end Shell
