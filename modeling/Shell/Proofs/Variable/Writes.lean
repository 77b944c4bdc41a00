import Shell.Proofs.Variable.Touches

/-!
# The variable that a write goes to

Each operation that writes variables, with the name it is given: the name leads
to a variable, and the operation edits that one.
-/

namespace Shell.State

open Running

theorem edits_queries (name : String) (state : State) (queries : Queries) :
    Edits name state { state with queries := queries } := .of_eq rfl rfl rfl fun _ => rfl

section Assigning

variable {array : String} {state : State} (name : String)

theorem edits_assign (value : String) (state : State) :
    Edits name state (after (assign name value) state) :=
  have touches : Touches name (fun _ => True) True state _ := touches_assign trivial value state
  touches.edits

theorem edits_clearArray (state : State) : Edits name state (after (clearArray name) state) :=
  have touches : Touches name (fun _ => True) True state _ := touches_clearArray name state
  touches.edits

variable {name}

theorem edits_setElement_of_resolve? (found : state.resolve? name = some array)
    (subscript value : String) :
    Edits array state (after (setElement name subscript value) state) :=
  have touches : Touches array (fun _ => True) True state _ :=
    touches_setElement_of_resolve? found subscript value (fun _ _ _ => trivial) fun _ _ _ => trivial
  touches.edits

theorem edits_setArray_of_resolve? (found : state.resolve? name = some array)
    (values : List String) : Edits array state (after (setArray name values) state) :=
  have touches : Touches array (fun _ => True) True state _ :=
    touches_setArray_of_resolve? found values fun _ _ => trivial
  touches.edits

theorem edits_setAssociativeArray_of_resolve? (found : state.resolve? name = some array)
    (items : List (String × String)) :
    Edits array state (after (setAssociativeArray name items) state) :=
  have touches : Touches array (fun _ => True) True state _ :=
    touches_setAssociativeArray_of_resolve? found items fun _ _ => trivial
  touches.edits

theorem Assigns.edits {first second : State} (assigns : Assigns name first second) :
    ∃ target, LeadsTo first name target ∧ Edits target first second := by
  obtain ⟨target, leads, touches⟩ := assigns
  exact ⟨target, leads, touches.edits⟩

theorem edits_setElement (name subscript value : String) (state : State) :
    ∃ target, LeadsTo state name target ∧
      Edits target state (after (setElement name subscript value) state) :=
  (assigns_setElement name subscript value state).edits

theorem edits_setArray (name : String) (values : List String) (state : State) :
    ∃ target, LeadsTo state name target ∧
      Edits target state (after (setArray name values) state) :=
  (assigns_setArray name values state).edits

theorem edits_setAssociativeArray (name : String) (items : List (String × String))
    (state : State) :
    ∃ target, LeadsTo state name target ∧
      Edits target state (after (setAssociativeArray name items) state) :=
  (assigns_setAssociativeArray name items state).edits

theorem edits_setVariable (name value : String) (state : State) :
    ∃ target, LeadsTo state name target ∧
      Edits target state (after (setVariable name value) state) :=
  (assigns_setVariable name value state).edits

end Assigning

/-- An array whose indices can be read is cleared without a failure. -/
theorem execute_clearArray {state : State} {array : String} (readable : state.Readable array) :
    ∃ keys, execute (clearArray array) state =
        (.ok (), { state with store := state.store.dropAll keys }) ∧
      ∀ key, key ∈ keys ↔ state.Lists array key := by
  obtain ⟨keys, listing, distinct, listed⟩ := elementKeys_of_readable readable
  refine ⟨keys, ?_, listed⟩
  unfold clearArray
  rw [execute_get_bind, listing]
  exact execute_dropKeys distinct fun key member => ((listed key).mp member).1

/-- All elements of a regular variable are listed. -/
theorem Regular.lists {state : State} {array : String} (regular : state.Regular array)
    {suffix : String} (present : state.store.has (elementKey array suffix) = true) :
    state.Lists array (elementKey array suffix) := by
  refine ⟨present, suffix, rfl, ?_⟩
  cases associative : state.isAssociative array with
  | true => exact Or.inl rfl
  | false =>
    obtain ⟨n, -, rfl⟩ := regular.indices associative suffix present
    exact Or.inr (isIndex_toString n)

/-- A regular variable has no elements once it is cleared. -/
theorem Regular.cleared {state middle : State} {array : String} (regular : state.Regular array)
    {value : Unit} (ran : execute (clearArray array) state = (.ok value, middle))
    (suffix : String) : middle.store.has (elementKey array suffix) = false := by
  obtain ⟨keys, cleared, listed⟩ := execute_clearArray regular.readable
  rw [ran] at cleared
  obtain ⟨-, rfl⟩ := Prod.mk.inj cleared
  rw [Store.has_eq_isSome_get?]
  change ((state.store.dropAll keys).get? (elementKey array suffix)).isSome = false
  rw [Store.get?_dropAll]
  split
  · rfl
  · rename_i unlisted
    by_contra present
    rw [Bool.not_eq_false, ← Store.has_eq_isSome_get?] at present
    exact unlisted ((listed _).mpr (regular.lists present))

/-- A store in which a variable has lost some attributes. -/
def loseAttributes (store : Store) (name : String) (letters : List String) : Store :=
  letters.foldl (·.dropAttribute name ·) store

theorem loseAttributes_eq (store : Store) (name : String) (letters : List String) :
    loseAttributes store name letters =
      { store with attributes := (loseAttributes store name letters).attributes } := by
  induction letters generalizing store with
  | nil => rfl
  | cons letter rest inductionHypothesis =>
    exact inductionHypothesis (store.dropAttribute name letter)

theorem attributes_loseAttributes (store : Store) {name other : String} (letters : List String)
    (different : other ≠ name) :
    (loseAttributes store name letters).attributes[other]? = store.attributes[other]? := by
  induction letters generalizing store with
  | nil => rfl
  | cons letter rest inductionHypothesis =>
    refine (inductionHypothesis (store.dropAttribute name letter)).trans ?_
    rw [Store.attributes_dropAttribute, if_neg different.symm]

theorem hasAttribute_loseAttributes (store : Store) (name : String) {letter : String}
    {letters : List String} (lost : letter ∈ letters) :
    (loseAttributes store name letters).hasAttribute name letter = false := by
  -- An attribute that is gone does not come back while others are dropped.
  have gone : ∀ (rest : List String) (store : Store), store.hasAttribute name letter = false →
      (loseAttributes store name rest).hasAttribute name letter = false := by
    intro rest
    induction rest with
    | nil => exact fun _ absent => absent
    | cons other rest inductionHypothesis =>
      intro store absent
      apply inductionHypothesis
      simp [Store.hasAttribute_dropAttribute, absent]
  induction letters generalizing store with
  | nil => simp at lost
  | cons other rest inductionHypothesis =>
    rcases List.mem_cons.mp lost with rfl | later
    · apply gone rest
      simp [Store.hasAttribute_dropAttribute]
    · exact inductionHypothesis _ later

/-- The state in which a variable without elements is unset. -/
def unsetPlain (name : String) (state : State) : State :=
  { state with
    store := loseAttributes (state.store.drop name) name lostAttributes
    associative := state.associative.erase name }

theorem get?_unsetPlain (name key : String) (state : State) :
    (unsetPlain name state).store.get? key = (state.store.drop name).get? key := by
  change (loseAttributes (state.store.drop name) name lostAttributes).get? key = _
  rw [loseAttributes_eq]
  rfl

theorem isAssociative_unsetPlain (name other : String) (state : State) :
    (unsetPlain name state).isAssociative other =
      (!(name == other) && state.isAssociative other) := by
  change (state.associative.erase name).contains other = _
  rw [Std.ExtTreeSet.contains_erase, isAssociative, Bool.eq_iff_iff]
  simp

theorem regular_unsetPlain {name : String} {state : State}
    (empty : ∀ suffix, state.store.has (elementKey name suffix) = false) :
    (unsetPlain name state).Regular name := by
  refine ⟨?_, ?_⟩
  · rw [isAssociative_unsetPlain]
    have lost : (unsetPlain name state).store.hasAttribute name Attribute.associative = false :=
      hasAttribute_loseAttributes (state.store.drop name) name
        (show Attribute.associative ∈ lostAttributes by decide)
    rw [lost, beq_self_eq_true, Bool.not_true, Bool.false_and]
  · intro _ suffix present
    rw [Store.has_eq_isSome_get?, get?_unsetPlain, Store.get?_drop,
      if_neg (elementKey_ne_self name suffix).symm, ← Store.has_eq_isSome_get?, empty] at present
    contradiction

/-- A note changes nothing else. -/
theorem noteUnset_eq (name : String) (state : State) :
    ∃ notes, noteUnset name state = { state with unsetLocals := notes } := by
  unfold noteUnset
  split
  · split
    · exact ⟨_, rfl⟩
    · exact ⟨state.unsetLocals, rfl⟩
  · exact ⟨state.unsetLocals, rfl⟩

theorem store_noteUnset (name : String) (state : State) :
    (noteUnset name state).store = state.store := by
  obtain ⟨notes, same⟩ := noteUnset_eq name state
  rw [same]

theorem edits_noteUnset (name other : String) (state : State) :
    Edits name state (noteUnset other state) := by
  obtain ⟨notes, same⟩ := noteUnset_eq other state
  rw [same]
  exact .of_eq rfl rfl rfl fun _ => rfl

/-- A variable that is unset loses its elements first, and then all else, unless it is readonly or
its elements cannot be listed. -/
theorem unsetName_cases (name : String) (puts : String → Prop) (declares : Prop) (state : State) :
    ∃ cleared, Touches name puts declares state cleared ∧
      (after (unsetName name) state = cleared ∨
        execute (clearArray name) state = (.ok (), cleared) ∧
          after (unsetName name) state = noteUnset name (unsetPlain name cleared)) := by
  have clearing : Touches name puts declares state (after (clearArray name) state) :=
    touches_clearArray name state
  unfold unsetName
  cases readonly : state.store.isReadonly name with
  | true => exact ⟨state, .refl state, .inl (after_checkWritable_bind_of_readonly readonly _)⟩
  | false =>
    rw [after_bind_of_ok (execute_checkWritable_of_not readonly)]
    rcases ran : execute (clearArray name) state with ⟨fault | value, cleared⟩
    · rw [after_eq_of_execute ran] at clearing
      exact ⟨cleared, clearing, .inl (after_eq_of_execute (execute_bind_of_error ran))⟩
    · rw [after_eq_of_execute ran] at clearing
      exact ⟨cleared, clearing, .inr ⟨rfl, after_bind_of_ok ran⟩⟩

theorem edits_unsetName (name : String) (state : State) :
    Edits name state (after (unsetName name) state) := by
  obtain ⟨cleared, touches, same | ⟨ran, same⟩⟩ :=
    unsetName_cases name (fun _ => True) True state
  · rw [same]
    exact touches.edits
  rw [same]
  have clearing := touches.edits
  refine Edits.trans ?_ (edits_noteUnset name name _)
  refine
    { values := fun key foreign => ?_
      attributes := fun other different => ?_
      associative := fun other different => ?_
      surroundings := ?_
      seconds := clearing.seconds
      -- Only a variable without elements may stop being associative.
      regular := fun start => regular_unsetPlain (start.cleared ran) }
  · have different : name ≠ key := fun same => foreign (Or.inl same.symm)
    rw [get?_unsetPlain, Store.get?_drop, if_neg different]
    exact clearing.values key foreign
  · exact (attributes_loseAttributes _ _ different).trans (clearing.attributes other different)
  · rw [isAssociative_unsetPlain, beq_false_of_ne different.symm]
    simpa using clearing.associative other different
  · refine Eq.trans ?_ clearing.surroundings
    unfold unsetPlain
    rw [loseAttributes_eq]
    rfl

/-- Unsetting one element edits its array. -/
theorem edits_unsetElement_of_not_whole {unsetWhole : String → Write Unit} {reference : Reference}
    (single : isWhole reference.subscript = false) (state : State) :
    Edits (state.resolved reference.array) state
      (after (unsetElement unsetWhole reference) state) :=
  have touches : Touches _ (fun _ => True) True state
      (after (unsetElement unsetWhole reference) _) :=
    touches_unsetElement single state
  touches.edits

/-- Unsetting all elements of an array unsets the array, if it is not readonly. -/
theorem after_unsetElement_of_whole (unsetWhole : String → Write Unit) {reference : Reference}
    (whole : isWhole reference.subscript = true) (state : State) :
    after (unsetElement unsetWhole reference) state =
      if state.store.isReadonly (state.resolved reference.array) then state
      else after (unsetWhole (state.resolved reference.array)) state := by
  unfold unsetElement
  rw [after_get_bind]
  cases readonly : state.store.isReadonly (state.resolved reference.array) with
  | true => exact after_checkWritable_bind_of_readonly readonly _
  | false =>
    dsimp only
    rw [after, execute_bind_of_ok (execute_checkWritable_of_not readonly), if_pos whole, ← after]
    rfl

theorem edits_unsetElement {unsetWhole : String → Write Unit} (reference : Reference)
    (state : State)
    (whole : ∀ array, ∃ target, LeadsTo state array target ∧
      Edits target state (after (unsetWhole array) state)) :
    ∃ target, LeadsTo state reference.array target ∧
      Edits target state (after (unsetElement unsetWhole reference) state) := by
  cases all : isWhole reference.subscript with
  | false =>
    exact ⟨_, LeadsTo.resolved (.self _), edits_unsetElement_of_not_whole all state⟩
  | true =>
    obtain ⟨target, leads, edits⟩ := whole (state.resolved reference.array)
    refine ⟨target, leads.resolved, ?_⟩
    rw [after_unsetElement_of_whole unsetWhole all]
    split
    · exact Edits.refl target state
    · exact edits

theorem edits_unsetWithin (depth : Nat) (name : String) (state : State) :
    ∃ target, LeadsTo state name target ∧
      Edits target state (after (unsetWithin depth name) state) := by
  induction depth generalizing name with
  | zero => exact ⟨name, .self name, Edits.refl name state⟩
  | succ depth inductionHypothesis =>
    unfold unsetWithin
    cases parsed : Reference.parse? name with
    | some reference =>
      obtain ⟨target, leads, edits⟩ := edits_unsetElement reference state inductionHypothesis
      exact ⟨target, .element parsed leads, edits⟩
    | none =>
      simp only [after_get_bind]
      cases found : state.resolve? name with
      | none => exact ⟨name, .self name, Edits.refl name state⟩
      | some middle =>
        cases parsedMiddle : Reference.parse? middle with
        | some reference =>
          obtain ⟨target, leads, edits⟩ := edits_unsetElement reference state inductionHypothesis
          refine ⟨target, .nameref found (.element parsedMiddle leads), ?_⟩
          simpa only [parsedMiddle] using edits
        | none =>
          refine ⟨middle, .nameref found (.self middle), ?_⟩
          simpa only [parsedMiddle] using edits_unsetName middle state

theorem edits_unset (name : String) (state : State) :
    ∃ target, LeadsTo state name target ∧ Edits target state (after (unset name) state) :=
  edits_unsetWithin (state.nesting + 1) name state

theorem edits_unsetNameref (name : String) (state : State) :
    ∃ target, LeadsTo state name target ∧
      Edits target state (after (unsetNameref name) state) := by
  unfold unsetNameref
  cases parsed : Reference.parse? name with
  | some reference =>
    obtain ⟨target, leads, edits⟩ := edits_unsetElement reference state fun array =>
      edits_unset array state
    exact ⟨target, .element parsed leads, edits⟩
  | none => exact ⟨name, .self name, edits_unsetName name state⟩

end Shell.State
