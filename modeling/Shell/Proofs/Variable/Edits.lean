import Shell.Proofs.Variable.Elements

/-!
# What assigning a variable changes

Every operation that writes variables edits one variable: values under keys of
others, their attributes and the scopes stay as they were, whether the operation
succeeds or fails half way. A variable that was regular before is regular after.
The variable is one that the given name leads to, through its subscript or
through namerefs.
-/

namespace Shell.State

open Running

/-- A variable is associative exactly if it has the attribute; else its elements are at indices. -/
structure Regular (state : State) (name : String) : Prop where
  registered : state.isAssociative name = state.store.hasAttribute name Attribute.associative
  indices : state.isAssociative name = false → ∀ suffix,
    state.store.has (elementKey name suffix) = true → ∃ n < Text.numberLimit, suffix = toString n

theorem Regular.readable {state : State} {name : String} (regular : state.Regular name) :
    state.Readable name :=
  fun plain suffix present _ => regular.indices plain suffix present

/-- A variable is the same in two states: its value, its elements, its attributes, and whether it
is associative. -/
structure Agrees (name : String) (first second : State) : Prop where
  values : ∀ key, Owns name key → second.store.get? key = first.store.get? key
  attributes : second.store.attributes[name]? = first.store.attributes[name]?
  associative : second.isAssociative name = first.isAssociative name

theorem Agrees.regular {name : String} {first second : State} (agrees : Agrees name first second)
    (start : first.Regular name) : second.Regular name := by
  refine ⟨?_, ?_⟩
  · rw [agrees.associative, start.registered, Store.hasAttribute_congr agrees.attributes]
  · intro plain suffix present
    rw [agrees.associative] at plain
    rw [Store.has_eq_isSome_get?, agrees.values _ (owns_elementKey name suffix),
      ← Store.has_eq_isSome_get?] at present
    exact start.indices plain suffix present

/-- The parts of a state that are left alone by everything that only writes variables. -/
def surroundings (state : State) : State :=
  { state with
    store := { saved := state.store.saved }
    associative := ∅
    unsetLocals := ∅
    queries := []
    secondsBase := none }

/-- The second state is the first one with changes to one variable. -/
structure Edits (name : String) (first second : State) : Prop where
  values : ∀ key, ¬ Owns name key → second.store.get? key = first.store.get? key
  attributes : ∀ other, other ≠ name →
    second.store.attributes[other]? = first.store.attributes[other]?
  associative : ∀ other, other ≠ name → second.isAssociative other = first.isAssociative other
  surroundings : second.surroundings = first.surroundings
  seconds : name ≠ "SECONDS" → second.secondsBase = first.secondsBase
  regular : first.Regular name → second.Regular name

namespace Edits

variable {name : String} {first second third : State}

theorem refl (name : String) (state : State) : Edits name state state :=
  ⟨fun _ _ => rfl, fun _ _ => rfl, fun _ _ => rfl, rfl, fun _ => rfl, id⟩

theorem trans (before : Edits name first second) (next : Edits name second third) :
    Edits name first third where
  values key foreign := (next.values key foreign).trans (before.values key foreign)
  attributes other different :=
    (next.attributes other different).trans (before.attributes other different)
  associative other different :=
    (next.associative other different).trans (before.associative other different)
  surroundings := next.surroundings.trans before.surroundings
  seconds different := (next.seconds different).trans (before.seconds different)
  regular start := next.regular (before.regular start)

/-- A change of something else than variables edits nothing of them. -/
theorem of_eq (store : second.store = first.store)
    (associative : second.associative = first.associative)
    (surroundings : second.surroundings = first.surroundings)
    (seconds : name ≠ "SECONDS" → second.secondsBase = first.secondsBase) :
    Edits name first second where
  values key _ := by rw [store]
  attributes other _ := by rw [store]
  associative other _ := by rw [isAssociative, isAssociative, associative]
  surroundings := surroundings
  seconds := seconds
  regular start := by
    refine ⟨?_, ?_⟩
    · simpa only [isAssociative, store, associative] using start.registered
    · simpa only [isAssociative, store, associative] using start.indices

/-- A change of values under keys of the variable, if each of its elements afterwards was there
before, or is at an index, or the variable is associative. -/
theorem of_values {state : State} {store : Store}
    (values : ∀ key, ¬ Owns name key → store.get? key = state.store.get? key)
    (attributes : store.attributes = state.store.attributes)
    (saved : store.saved = state.store.saved)
    (elements : state.isAssociative name = false → ∀ suffix,
      store.has (elementKey name suffix) = true →
        state.store.has (elementKey name suffix) = true ∨
          ∃ n < Text.numberLimit, suffix = toString n) :
    Edits name state { state with store := store } where
  values := values
  attributes other _ := by rw [attributes]
  associative _ _ := rfl
  surroundings := by simp [State.surroundings, saved]
  seconds _ := rfl
  regular start := by
    refine ⟨?_, ?_⟩
    · have before := start.registered
      simp only [Store.hasAttribute, Store.attributesOf] at before ⊢
      rw [attributes]
      exact before
    · intro plain suffix present
      rcases elements plain suffix present with old | index
      · exact start.indices plain suffix old
      · exact index

theorem put_self (state : State) (name value : String) :
    Edits name state { state with store := state.store.put name value } := by
  refine of_values ?_ rfl rfl ?_
  · intro key foreign
    have different : name ≠ key := fun same => foreign (Or.inl same.symm)
    simp [different]
  · intro _ suffix present
    left
    simpa [Store.has_eq_isSome_get?, (elementKey_ne_self name suffix).symm] using present

theorem put_index (state : State) (name value : String) {n : Nat} (short : n < Text.numberLimit) :
    Edits name state
      { state with store := state.store.put (elementKey name (toString n)) value } := by
  refine of_values ?_ rfl rfl ?_
  · intro key foreign
    have different : elementKey name (toString n) ≠ key := fun same =>
      foreign (Or.inr ⟨_, same.symm⟩)
    rw [Store.get?_put, if_neg different]
  · intro _ suffix present
    by_cases same : suffix = toString n
    · exact Or.inr ⟨n, short, same⟩
    · left
      have different : elementKey name (toString n) ≠ elementKey name suffix := fun equality =>
        same (elementKey_inj.mp equality).symm
      rw [Store.has_eq_isSome_get?, Store.get?_put, if_neg different] at present
      rwa [Store.has_eq_isSome_get?]

theorem put_element {state : State} {name : String}
    (associative : state.isAssociative name = true) (suffix value : String) :
    Edits name state { state with store := state.store.put (elementKey name suffix) value } := by
  refine of_values ?_ rfl rfl ?_
  · intro key foreign
    have different : elementKey name suffix ≠ key := fun same => foreign (Or.inr ⟨_, same.symm⟩)
    rw [Store.get?_put, if_neg different]
  · intro plain
    rw [associative] at plain
    contradiction

theorem drop (state : State) {name key : String} (owned : Owns name key) :
    Edits name state { state with store := state.store.drop key } := by
  refine of_values ?_ rfl rfl ?_
  · intro other foreign
    have different : key ≠ other := fun same => foreign (same ▸ owned)
    simp [different]
  · intro _ suffix present
    left
    rw [Store.has_eq_isSome_get?, Store.get?_drop] at present
    rw [Store.has_eq_isSome_get?]
    split at present
    · contradiction
    · exact present

theorem addAttribute (state : State) (name : String) {letter : String}
    (harmless : letter ≠ Attribute.associative) :
    Edits name state { state with store := state.store.addAttribute name letter } where
  values _ _ := rfl
  attributes other different := by rw [Store.attributes_addAttribute, if_neg different.symm]
  associative _ _ := rfl
  surroundings := rfl
  seconds _ := rfl
  regular start := by
    refine ⟨?_, start.indices⟩
    change state.isAssociative name = (state.store.addAttribute name letter).hasAttribute name _
    rw [Store.hasAttribute_addAttribute, beq_false_of_ne harmless]
    simpa using start.registered

theorem dropAttribute (state : State) (name : String) {letter : String}
    (harmless : letter ≠ Attribute.associative) :
    Edits name state { state with store := state.store.dropAttribute name letter } where
  values _ _ := rfl
  attributes other different := by rw [Store.attributes_dropAttribute, if_neg different.symm]
  associative _ _ := rfl
  surroundings := rfl
  seconds _ := rfl
  regular start := by
    refine ⟨?_, start.indices⟩
    change state.isAssociative name = (state.store.dropAttribute name letter).hasAttribute name _
    rw [Store.hasAttribute_dropAttribute, beq_false_of_ne harmless]
    simpa using start.registered

theorem declare (state : State) (name : String) :
    Edits name state (after (declareAssociative name) state) where
  values _ _ := rfl
  attributes other different := by
    change (state.store.addAttribute name Attribute.associative).attributes[other]? = _
    rw [Store.attributes_addAttribute, if_neg different.symm]
  associative other different := by
    change (state.associative.insert name).contains other = state.associative.contains other
    simp [Std.ExtTreeSet.contains_insert, different.symm]
  surroundings := rfl
  seconds _ := rfl
  regular start := by
    have declared : (after (declareAssociative name) state).isAssociative name = true :=
      Std.ExtTreeSet.contains_insert_self
    refine ⟨?_, fun plain => ?_⟩
    · rw [declared]
      change true = (state.store.addAttribute name Attribute.associative).hasAttribute name _
      simp [Store.hasAttribute_addAttribute]
    · rw [declared] at plain
      contradiction

end Edits

end Shell.State
