import Shell.Proofs.Variable.ElementZero

/-!
# The keys that a call adds

A call on an identifier that is no nameref adds few keys to the store: that of the variable, or
those of the elements that it is given. Everything else that is there after the call was there
before, and nothing becomes a nameref or readonly.
-/

namespace Shell.State

open Running

/-- Only keys with a property are new, and no name is a nameref or readonly that was not before. -/
structure Grows (added : String → Prop) (first second : State) : Prop where
  keys : ∀ key, second.store.has key = true → first.store.has key = true ∨ added key
  unhindered : ∀ name, ∀ letter ∈ Store.hindrances,
    second.store.hasAttribute name letter = true → first.store.hasAttribute name letter = true

/-- The name can be written as it stands, whatever identifier it is. -/
def Unhindered (state : State) : Prop :=
  ∀ name, ∀ letter ∈ Store.hindrances, state.store.hasAttribute name letter = false

/-- The keys that a call on a name that is no nameref may add. -/
def Assignment.Adds (state : State) : Assignment → String → Prop
  | .scalar name _, key => key = name
  | .element name subscript _, key =>
    if state.isAssociative name then
      ∃ text, (execute (Subscript.key state.value subscript) state.queries).1 = .ok text ∧
        key = elementKey name text
    else ∃ n < Text.numberLimit, key = elementKey name (toString n)
  | .array name _, key => ∃ n < Text.numberLimit, key = elementKey name (toString n)
  | .associativeArray name items, key => ∃ item ∈ items, key = elementKey name item.1
  | .unset _, _ | .unsetNameref _, _ => False

namespace Grows

variable {added : String → Prop} {first second third : State} {name : String}

theorem of_store (same : second.store = first.store) : Grows added first second where
  keys _ present := .inl (same ▸ present)
  unhindered _ _ _ found := same ▸ found

theorem refl (state : State) : Grows added state state := of_store rfl

theorem trans (grows : Grows added first second) (further : Grows added second third) :
    Grows added first third where
  keys key present := (further.keys key present).elim (grows.keys key) .inr
  unhindered name letter hinders found :=
    grows.unhindered name letter hinders (further.unhindered name letter hinders found)

theorem mono {wider : String → Prop} (widen : ∀ key, added key → wider key)
    (grows : Grows added first second) : Grows wider first second where
  keys key present := (grows.keys key present).imp_right (widen key)
  unhindered := grows.unhindered

theorem put {key : String} (isNew : added key) (value : String) (state : State) :
    Grows added state { state with store := state.store.put key value } where
  keys other present := by
    by_cases same : key = other
    · exact .inr (same ▸ isNew)
    · rw [Store.has_eq_isSome_get?, Store.get?_put, if_neg same, ← Store.has_eq_isSome_get?]
        at present
      exact .inl present
  unhindered _ _ _ found := found

theorem drop (key : String) (state : State) :
    Grows added state { state with store := state.store.drop key } where
  keys other present := by
    by_cases same : key = other
    · simp [Store.has_eq_isSome_get?, same] at present
    · rw [Store.has_eq_isSome_get?, Store.get?_drop, if_neg same, ← Store.has_eq_isSome_get?]
        at present
      exact .inl present
  unhindered _ _ _ found := found

theorem addAttribute (name : String) {letter : String} (harmless : letter ∉ Store.hindrances)
    (state : State) :
    Grows added state { state with store := state.store.addAttribute name letter } where
  keys _ present := .inl present
  unhindered other wanted hinders found := by
    have different : letter ≠ wanted := fun same => harmless (same ▸ hinders)
    simpa [Store.hasAttribute_addAttribute, different] using found

theorem dropAttribute (name letter : String) (state : State) :
    Grows added state { state with store := state.store.dropAttribute name letter } where
  keys _ present := .inl present
  unhindered other wanted _ found := by
    rw [Store.hasAttribute_dropAttribute, Bool.and_eq_true] at found
    exact found.2

/-- Of the keys, an assignment adds those under which it puts values. -/
theorem of_touches {declares : Prop} (touches : Touches name added declares first second) :
    Grows added first second := by
  induction touches with
  | refl state => exact refl state
  | trans _ _ before next => exact before.trans next
  | put state value _ isPut => exact put isPut value state
  | drop state owned => exact drop _ state
  | mark state harmless =>
    refine addAttribute name ?_ state
    rcases harmless with rfl | rfl <;> decide
  | declare state => exact (addAttribute name (by decide) state).trans (of_store rfl)
  | compute => exact of_store rfl

theorem unsetName (name : String) (state : State) :
    Grows added state (after (unsetName name) state) := by
  have dropped : ∀ (letters : List String) (state : State), Grows added state
      { state with store := loseAttributes state.store name letters } := by
    intro letters
    induction letters with
    | nil => exact refl
    | cons letter rest inductionHypothesis =>
      exact fun state => (dropAttribute name letter state).trans (inductionHypothesis _)
  obtain ⟨cleared, touches, same | ⟨-, same⟩⟩ := unsetName_cases name added False state
  · rw [same]
    exact of_touches touches
  · have unset : Grows added cleared (unsetPlain name cleared) :=
      (drop name cleared).trans ((dropped lostAttributes _).trans (of_store rfl))
    rw [same]
    exact (of_touches touches).trans (unset.trans (of_store (store_noteUnset name _)))

end Grows

section Calls

variable {state : State}

theorem unhindered_of_empty (empty : state.store = {}) : state.Unhindered := by
  intro name letter _
  simp [empty, Store.hasAttribute, Store.attributesOf]

/-- An element is put under the key that its subscript stands for, or at some index. -/
theorem touches_element {name subscript : String} (direct : state.resolve? name = some name)
    (value : String) :
    Touches name (Assignment.Adds state (.element name subscript value)) False state
      (after (setElement name subscript value) state) := by
  refine touches_setElement_of_resolve? direct subscript value (fun associative text computed => ?_)
    fun plain n short => ?_
  · rw [Assignment.Adds, if_pos associative]
    exact ⟨text, computed, rfl⟩
  · rw [Assignment.Adds, if_neg (by simp [plain])]
    exact ⟨n, short, rfl⟩

theorem Grows.unhindered_of {added : String → Prop} {first second : State}
    (grows : Grows added first second) (unhindered : first.Unhindered) : second.Unhindered := by
  intro name letter hinders
  rw [Bool.eq_false_iff]
  intro found
  have before := grows.unhindered name letter hinders found
  rw [unhindered name letter hinders] at before
  contradiction

namespace Unhindered

variable (unhindered : state.Unhindered)

include unhindered

theorem free {name : String} (identifier : Text.isIdentifier name.toList = true) :
    state.Free name :=
  ⟨identifier, unhindered name _ (by decide), unhindered name _ (by decide)⟩

theorem grows_perform {call : Assignment} (identifier : Text.isIdentifier call.name.toList = true) :
    Grows (call.Adds state) state (after call.perform state) := by
  have free : state.Free call.name := unhindered.free identifier
  have direct : state.resolve? call.name = some call.name := resolve?_of_not_nameref free.direct
  cases call with
  | scalar name value =>
    rw [Assignment.perform, after_setVariable_of_free (show state.Free name from free)]
    have isPut : Assignment.Adds state (.scalar name value) name := rfl
    exact .of_touches (touches_assign isPut value state : Touches name _ False state _)
  | element name subscript value => exact .of_touches (touches_element direct value)
  | array name values =>
    have isPut : ∀ n < Text.numberLimit,
        Assignment.Adds state (.array name values) (elementKey name (toString n)) :=
      fun n short => ⟨n, short, rfl⟩
    exact .of_touches (touches_setArray_of_resolve? direct values isPut :
      Touches name _ False state _)
  | associativeArray name items =>
    exact .of_touches (touches_setAssociativeArray_of_resolve? direct items
      fun item member => ⟨item, member, rfl⟩)
  | unset name =>
    rw [Assignment.perform, after_unset_of_free (show state.Free name from free)]
    exact Grows.unsetName name state
  | unsetNameref name =>
    have parsed : Reference.parse? name = none := Reference.parse?_of_isIdentifier identifier
    rw [Assignment.perform, State.unsetNameref, parsed]
    exact Grows.unsetName name state

end Unhindered

/-- When its turn comes, each call adds only keys with a property. -/
def AddsOnly (allowed : String → Prop) : State → List Assignment → Prop
  | _, [] => True
  | state, call :: rest =>
    (∀ key, call.Adds state key → allowed key) ∧ AddsOnly allowed (after call.perform state) rest

/-- A run of calls adds only the keys that its calls add. -/
theorem Unhindered.grows_performAll (unhindered : state.Unhindered) {allowed : String → Prop}
    {calls : List Assignment}
    (identifiers : ∀ call ∈ calls, Text.isIdentifier call.name.toList = true)
    (adds : AddsOnly allowed state calls) : Grows allowed state (performAll calls state) := by
  induction calls generalizing state with
  | nil => exact Grows.refl state
  | cons call rest inductionHypothesis =>
    have step := (unhindered.grows_perform (identifiers call List.mem_cons_self)).mono adds.1
    apply step.trans
    apply inductionHypothesis (step.unhindered_of unhindered) _ adds.2
    exact fun other member => identifiers other (List.mem_cons_of_mem _ member)

end Calls

end Shell.State
