import Shell.Field.Split
import Shell.Glob.Edit
import Shell.Variable.Option

/-!
Unquoted expansion of arrays, positional parameters, keys and names into fields.
-/

namespace Shell

/-- What is done to each element before it is split. -/
inductive Transform
  /-- Keep the elements from an offset on, at most so many. -/
  | slice (offset : Int) (length : Option Int)
  /-- Remove what matches at an end. -/
  | remove (pattern : String) (side : Glob.Side) (longest : Bool)
  /-- Replace what matches. -/
  | replace (pattern replacement : String) (scope : Glob.Scope)
  /-- Change the case of what matches. -/
  | recase (pattern : String) (target : Glob.LetterCase) (every : Bool)
deriving DecidableEq, Repr

/-- The first values, at most so many. A negative number is an error of the script. -/
def takeLength (length : Option Int) (values : List String) : Except Stop (List String) :=
  match length with
  | none => .ok values
  | some length =>
    if length < 0 then
      .error <| .ofMade do
        let digits ← spell length
        Signal.make (.exit 1) "" ("bash: " ++ digits ++ ": substring expression < 0\n")
    else .ok (values.take length.toNat)

/-- The values whose index is at least the offset; a negative offset counts back from behind the
last index. -/
def sliceElements (offset : Int) (length : Option Int) (elements : List (Nat × String)) :
    Except Stop (List String) :=
  let behind : Int := (elements.getLast?.map fun (index, _) => (index : Int) + 1).getD 0
  let first := if offset < 0 then offset + behind else offset
  if first < 0 then .ok []
  else takeLength length ((elements.filter fun (index, _) => first ≤ (index : Int)).map (·.2))

/-- Apply a function on characters to a string. -/
def onText (edit : List Char → List Char) (text : String) : String :=
  String.ofList (edit text.toList)

/-- Apply a transformation to values, by their position. -/
def Transform.apply (extended : Bool) (values : List String) :
    Transform → Except Stop (List String)
  | slice offset length =>
    sliceElements offset length (values.mapIdx fun index value => (index, value))
  | remove pattern side longest =>
    .ok (values.map (onText (Glob.remove ⟨extended, false⟩ pattern.toList side longest)))
  | replace pattern replacement scope =>
    .ok (values.map
      (onText (Glob.replace ⟨extended, false⟩ pattern.toList replacement.toList scope)))
  | recase pattern target every =>
    .ok (values.map (onText (Glob.recase pattern.toList target every)))

/-- Index and value, for an element of an indexed array. -/
def indexed? : Key × String → Option (Nat × String)
  | (.index index, value) => some (index, value)
  | (.name _, _) => none

namespace State

/-- Split one value with the separators in force. -/
def splitValue (state : State) (value : String) : List String :=
  Field.splitText state.separatorSetting value

/-- Split values, each on its own, or for a star all joined together. -/
def splitValues (state : State) (star : Bool) (values : List String) : List String :=
  if values.isEmpty then []
  else if star then state.splitValue ((Field.joiner state.separatorSetting).intercalate values)
  else values.flatMap state.splitValue

/-- Apply a transformation, if there is one. -/
def transform (state : State) (operation : Option Transform) (values : List String) :
    Except Stop (List String) :=
  match operation with
  | none => .ok values
  | some operation => operation.apply (state.shopt "extglob") values

/-- Apply a transformation to elements. A slice of an indexed array goes by index. -/
def transformElements (state : State) (operation : Option Transform)
    (elements : List (Key × String)) : Except Stop (List String) :=
  match operation, elements.mapM indexed? with
  | some (.slice offset length), some indexed => sliceElements offset length indexed
  | operation, _ => state.transform operation (elements.map (·.2))

/-- The fields of an unquoted array. -/
def expandArray (state : State) (name : String) (star : Bool) (operation : Option Transform) :
    Expand (List String) := do
  let elements ← (state.readElements name).toExpand
  let values ← MonadExcept.ofExcept (state.transformElements operation elements)
  pure (state.splitValues star values)

/-- The values that an operation on positional parameters works on. A slice counts from the name of
the shell. -/
def positionalFor (state : State) (operation : Option Transform) : Draw (List String) :=
  match operation with
  | some (.slice _ _) => do
    let shellName ← state.value "0"
    pure (shellName :: state.positional)
  | _ => pure state.positional

/-- The fields of unquoted positional parameters. -/
def expandPositional (state : State) (star : Bool) (operation : Option Transform) :
    Expand (List String) := do
  let values ← (state.positionalFor operation).toExpand
  let values ← MonadExcept.ofExcept (state.transform operation values)
  pure (state.splitValues star values)

/-- The fields of an array's unquoted keys. -/
def expandKeys (state : State) (name : String) (star : Bool) : Draw (List String) := do
  let elements ← state.readElements name
  pure (state.splitValues star (elements.map fun (key, _) => key.text))

/-- The fields of the unquoted names that begin with a text. -/
def expandNames (state : State) (head : String) (star : Bool) : Except Fault (List String) :=
  state.splitValues star <$> state.namesFrom head

end State

end Shell
