import Shell.Proofs.Running
import Shell.Proofs.Variable.Reading

/-!
# Namerefs stand for the variables they lead to

A chain of namerefs that is not too long resolves to the name at its end, and
reading or writing through its first name is reading or writing that variable.
There is one exception. The three names of the call stack are looked at before a
nameref is followed when the elements of an array are listed, so that a nameref
with such a name lists the call stack.
-/

namespace Shell.State

open Running

/-- The name is a nameref, and the other one is its target. -/
structure PointsTo (state : State) (name target : String) : Prop where
  nameref : state.store.isNameref name = true
  held : state.store.get? name = some target
  valid : Text.isTarget target = true

/-- So many namerefs lead from one name to another. -/
inductive Chain (state : State) : Nat → String → String → Prop
  | nil (name : String) : Chain state 0 name name
  | cons {length : Nat} {name middle last : String} :
      PointsTo state name middle → Chain state length middle last →
      Chain state (length + 1) name last

variable {state : State}

/-- All chains from a name to one that is no nameref have the same length. -/
theorem Chain.length_unique {first second : Nat} {name last : String}
    (chain : Chain state first name last) (other : Chain state second name last)
    (ends : state.store.isNameref last = false) : first = second := by
  induction chain generalizing second with
  | nil =>
    cases other with
    | nil => rfl
    | cons points _ =>
      rw [points.nameref] at ends
      contradiction
  | cons points _ inductionHypothesis =>
    cases other with
    | nil =>
      rw [points.nameref] at ends
      contradiction
    | cons otherPoints rest =>
      have same := points.held.symm.trans otherPoints.held
      cases same
      rw [inductionHypothesis rest ends]

/-- A name is not among names that are further from the end of its chain. -/
theorem Chain.fresh {length : Nat} {name last : String} (chain : Chain state length name last)
    (ends : state.store.isNameref last = false) {seen : List String}
    (further : ∀ earlier ∈ seen, ∃ longer > length, Chain state longer earlier last) :
    seen.contains name = false := by
  cases again : seen.contains name with
  | false => rfl
  | true =>
    obtain ⟨longer, more, around⟩ := further name (by simpa using again)
    have same := around.length_unique chain ends
    omega

/-- Following a chain takes one round for each nameref and one to see that the end is reached. -/
theorem follow?_chain {length : Nat} {name last : String} (chain : Chain state length name last)
    (ends : state.store.isNameref last = false) (rounds : Nat) (seen : List String)
    (further : ∀ earlier ∈ seen, ∃ longer > length, Chain state longer earlier last) :
    state.follow? rounds seen name = if length < rounds then some last else none := by
  -- The names passed before stay further from the end, so that none of them comes again.
  induction chain generalizing rounds seen with
  | nil name =>
    cases rounds with
    | zero => rfl
    | succ rounds =>
      rw [follow?, Chain.fresh (.nil name) ends further, ends]
      simp
  | @cons length name middle last points rest inductionHypothesis =>
    cases rounds with
    | zero => rfl
    | succ rounds =>
      have whole : Chain state (length + 1) name last := .cons points rest
      have onward : ∀ earlier ∈ name :: seen, ∃ longer > length,
          Chain state longer earlier last := by
        intro earlier member
        rcases List.mem_cons.mp member with rfl | before
        · exact ⟨length + 1, by omega, whole⟩
        · obtain ⟨longer, more, chain⟩ := further earlier before
          exact ⟨longer, by omega, chain⟩
      rw [follow?, whole.fresh ends further, points.nameref, points.held, Option.getD_some]
      simp only [Bool.false_eq_true, if_false, if_true, points.valid]
      rw [inductionHypothesis ends rounds (name :: seen) onward]
      simp

/-- A chain resolves exactly if it is shorter than the depth to which namerefs are followed. -/
theorem resolve?_chain {length : Nat} {name last : String} (chain : Chain state length name last)
    (ends : state.store.isNameref last = false) :
    state.resolve? name = if length < namerefDepth then some last else none := by
  cases chain with
  | nil => simp [resolve?_of_not_nameref ends, namerefDepth]
  | cons points rest =>
    rw [resolve?, resolveWithin?, if_pos points.nameref]
    exact follow?_chain (.cons points rest) ends namerefDepth [] (by simp)

/-- The name is an identifier, and readers and writers of it are led to the same variable. -/
structure StandsFor (state : State) (name target : String) : Prop where
  identifier : Text.isIdentifier name.toList = true
  resolves : state.resolve? name = some target

theorem StandsFor.self {name : String} (identifier : Text.isIdentifier name.toList = true)
    (plain : state.store.isNameref name = false) : StandsFor state name name :=
  ⟨identifier, resolve?_of_not_nameref plain⟩

/-- Reading and writing through one name is reading and writing through the other. -/
structure Interchangeable (state : State) (name other : String) : Prop where
  value : state.value name = state.value other
  isSet : state.isSet name = state.isSet other
  elements : state.elements name = state.elements other
  valueAt : ∀ subscript, subscript ≠ "" →
    state.value (Reference.text ⟨name, subscript⟩) = state.value (Reference.text ⟨other, subscript⟩)
  isSetAt : ∀ subscript, subscript ≠ "" →
    state.isSet (Reference.text ⟨name, subscript⟩) = state.isSet (Reference.text ⟨other, subscript⟩)
  setVariable : ∀ value,
    execute (setVariable name value) state = execute (setVariable other value) state
  setVariableAt : ∀ subscript, subscript ≠ "" → ∀ value,
    execute (State.setVariable (Reference.text ⟨name, subscript⟩) value) state =
      execute (State.setVariable (Reference.text ⟨other, subscript⟩) value) state
  setArray : ∀ values,
    execute (setArray name values) state = execute (setArray other values) state
  setElement : ∀ subscript value,
    execute (setElement name subscript value) state =
      execute (setElement other subscript value) state
  setAssociativeArray : ∀ items,
    execute (setAssociativeArray name items) state =
      execute (setAssociativeArray other items) state
  unset : execute (unset name) state = execute (unset other) state
  unsetAt : ∀ subscript, subscript ≠ "" →
    execute (State.unset (Reference.text ⟨name, subscript⟩)) state =
      execute (State.unset (Reference.text ⟨other, subscript⟩)) state

section Agreement

variable {name target : String}

theorem StandsFor.resolved (stands : StandsFor state name target) :
    state.resolved name = target := by
  rw [State.resolved, if_pos (Text.isName_of_isIdentifier stands.identifier), stands.resolves]
  rfl

theorem StandsFor.parse? (stands : StandsFor state name target) : Reference.parse? name = none :=
  Reference.parse?_of_isIdentifier stands.identifier

theorem StandsFor.parse?_text (stands : StandsFor state name target) {subscript : String}
    (nonempty : subscript ≠ "") :
    Reference.parse? (Reference.text ⟨name, subscript⟩) = some ⟨name, subscript⟩ :=
  Reference.parse?_text stands.identifier nonempty

variable (stands : StandsFor state name target) (plain : StandsFor state target target)

include stands plain

theorem StandsFor.valueWithin (depth : Nat) :
    state.valueWithin depth name = state.valueWithin depth target := by
  cases depth with
  | zero => rfl
  | succ depth => rw [valueWithin_succ, valueWithin_succ, stands.resolved, plain.resolved]

theorem StandsFor.element (read : String → Draw String) (subscript : String) :
    state.element read ⟨name, subscript⟩ = state.element read ⟨target, subscript⟩ := by
  unfold State.element
  rw [stands.resolved, plain.resolved]

theorem StandsFor.valueWithin_text {subscript : String} (nonempty : subscript ≠ "") (depth : Nat) :
    state.valueWithin depth (Reference.text ⟨name, subscript⟩) =
      state.valueWithin depth (Reference.text ⟨target, subscript⟩) := by
  cases depth with
  | zero => rfl
  | succ depth =>
    rw [valueWithin_succ, valueWithin_succ, resolved_text, resolved_text,
      stands.parse?_text nonempty, plain.parse?_text nonempty]
    exact stands.element plain _ subscript

theorem StandsFor.isSet : state.isSet name = state.isSet target := by
  unfold State.isSet
  rw [stands.resolved, plain.resolved]

theorem StandsFor.isElementSet (subscript : String) :
    state.isElementSet ⟨name, subscript⟩ = state.isElementSet ⟨target, subscript⟩ := by
  unfold State.isElementSet
  rw [stands.resolved, plain.resolved]

theorem StandsFor.setElement (subscript value : String) :
    execute (State.setElement name subscript value) state =
      execute (State.setElement target subscript value) state := by
  unfold State.setElement
  rw [execute_get_bind, execute_get_bind, stands.resolves, plain.resolves]

theorem StandsFor.unsetElement (unsetWhole : String → Write Unit) (subscript : String) :
    execute (State.unsetElement unsetWhole ⟨name, subscript⟩) state =
      execute (State.unsetElement unsetWhole ⟨target, subscript⟩) state := by
  unfold State.unsetElement
  rw [execute_get_bind, execute_get_bind, stands.resolved, plain.resolved]

theorem StandsFor.unsetWithin (depth : Nat) :
    execute (State.unsetWithin depth name) state =
      execute (State.unsetWithin depth target) state := by
  cases depth with
  | zero => rfl
  | succ depth =>
    unfold State.unsetWithin
    rw [stands.parse?, plain.parse?]
    change execute (get >>= _) state = execute (get >>= _) state
    rw [execute_get_bind, execute_get_bind, stands.resolves, plain.resolves]

theorem StandsFor.unsetWithin_text {subscript : String} (nonempty : subscript ≠ "") (depth : Nat) :
    execute (State.unsetWithin depth (Reference.text ⟨name, subscript⟩)) state =
      execute (State.unsetWithin depth (Reference.text ⟨target, subscript⟩)) state := by
  cases depth with
  | zero => rfl
  | succ depth =>
    unfold State.unsetWithin
    rw [stands.parse?_text nonempty, plain.parse?_text nonempty]
    exact stands.unsetElement plain _ subscript

theorem StandsFor.setVariable (value : String) :
    execute (State.setVariable name value) state =
      execute (State.setVariable target value) state := by
  unfold State.setVariable
  rw [stands.parse?, plain.parse?]
  change execute (get >>= _) state = execute (get >>= _) state
  rw [execute_get_bind, execute_get_bind, stands.resolves, plain.resolves]

theorem StandsFor.setVariable_text {subscript : String} (nonempty : subscript ≠ "")
    (value : String) :
    execute (State.setVariable (Reference.text ⟨name, subscript⟩) value) state =
      execute (State.setVariable (Reference.text ⟨target, subscript⟩) value) state := by
  unfold State.setVariable
  rw [stands.parse?_text nonempty, plain.parse?_text nonempty]
  exact stands.setElement plain subscript value

theorem StandsFor.setArray (values : List String) :
    execute (State.setArray name values) state = execute (State.setArray target values) state := by
  unfold State.setArray
  rw [execute_get_bind, execute_get_bind, stands.resolves, plain.resolves]

theorem StandsFor.setAssociativeArray (items : List (String × String)) :
    execute (State.setAssociativeArray name items) state =
      execute (State.setAssociativeArray target items) state := by
  unfold State.setAssociativeArray
  rw [execute_get_bind, execute_get_bind, stands.resolves, plain.resolves]

/-- Only the listing of elements may tell a nameref from its target. -/
theorem StandsFor.interchangeable (elements : state.elements name = state.elements target) :
    Interchangeable state name target where
  value := stands.valueWithin plain (state.nesting + 1)
  isSet := stands.isSet plain
  elements := elements
  valueAt _ nonempty := stands.valueWithin_text plain nonempty (state.nesting + 1)
  isSetAt subscript nonempty := by
    rw [isSet_text (stands.parse?_text nonempty), isSet_text (plain.parse?_text nonempty)]
    exact stands.isElementSet plain subscript
  setVariable := stands.setVariable plain
  setVariableAt _ nonempty := stands.setVariable_text plain nonempty
  setArray := stands.setArray plain
  setElement := stands.setElement plain
  setAssociativeArray := stands.setAssociativeArray plain
  unset := stands.unsetWithin plain (state.nesting + 1)
  unsetAt _ nonempty := stands.unsetWithin_text plain nonempty (state.nesting + 1)

end Agreement

/-- A nameref is interchangeable with the variable at the end of its chain, unless it has one of
the names of the call stack and the stack is not what the variable holds. -/
theorem interchangeable_chain_iff {length : Nat} {name target : String}
    (chain : Chain state length name target) (short : length ≤ 99)
    (nameIdentifier : Text.isIdentifier name.toList = true)
    (targetIdentifier : Text.isIdentifier target.toList = true)
    (ends : state.store.isNameref target = false) (ordinary : state.callArray? target = none) :
    Interchangeable state name target ↔
      ∀ stack, state.callArray? name = some stack →
        state.elements target = numbered <$> stack := by
  have plain : StandsFor state target target := .self targetIdentifier ends
  have stands : StandsFor state name target := by
    refine ⟨nameIdentifier, ?_⟩
    rw [resolve?_chain chain ends,
      if_pos (show length < namerefDepth by unfold namerefDepth; omega)]
  constructor
  · intro same stack found
    rw [← same.elements, State.elements, found]
  · intro listed
    refine stands.interchangeable plain ?_
    cases found : state.callArray? name with
    | some stack => rw [listed stack found, State.elements, found]
    | none => rw [State.elements, State.elements, found, ordinary, stands.resolved, plain.resolved]

/-- A nameref to a nameref to an array. -/
def twoNamerefs : State :=
  { store := (((({} : Store).putNameref "ref" "middle").putNameref "middle" "x").put "x_0" "p").put
      "x_1" "q" }

theorem interchangeable_twoNamerefs :
    Chain twoNamerefs 2 "ref" "x" ∧ Interchangeable twoNamerefs "ref" "x" := by
  have first : PointsTo twoNamerefs "ref" "middle" := ⟨by decide, by decide, by decide⟩
  have second : PointsTo twoNamerefs "middle" "x" := ⟨by decide, by decide, by decide⟩
  have chain : Chain twoNamerefs 2 "ref" "x" := .cons first (.cons second (.nil "x"))
  refine ⟨chain, (interchangeable_chain_iff chain (by decide) (by decide) (by decide) (by decide)
    (by decide)).mpr ?_⟩
  intro stack found
  exact nomatch found

/-- A nameref to an array under a name of the call stack. -/
def namerefNamedStack : State :=
  { store := ((({} : Store).putNameref "FUNCNAME" "x").put "x_0" "p").put "x_1" "q" }

theorem not_interchangeable_namerefNamedStack :
    Chain namerefNamedStack 1 "FUNCNAME" "x" ∧
      namerefNamedStack.store.isNameref "x" = false ∧
      namerefNamedStack.callArray? "x" = none ∧
      namerefNamedStack.elements "x" = .ok [(.index 0, "p"), (.index 1, "q")] ∧
      namerefNamedStack.elements "FUNCNAME" = .ok [] ∧
      ¬ Interchangeable namerefNamedStack "FUNCNAME" "x" := by
  have points : PointsTo namerefNamedStack "FUNCNAME" "x" := ⟨by decide, by decide, by decide⟩
  have listed : namerefNamedStack.elements "x" = .ok [(.index 0, "p"), (.index 1, "q")] := rfl
  have stack : namerefNamedStack.elements "FUNCNAME" = .ok [] := rfl
  refine ⟨.cons points (.nil "x"), by decide, by decide, listed, stack, ?_⟩
  intro same
  have equal := same.elements
  rw [listed, stack] at equal
  exact nomatch equal

end Shell.State
