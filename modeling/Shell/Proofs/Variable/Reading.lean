import Shell.Proofs.Text.Reference
import Shell.Variable.Write

/-!
# Reading by the form of a name

The text of a reference is read as an element, and an identifier that is no nameref
as a variable that the shell computes or that the store holds. Only random numbers and
the time make two readings of an identifier differ. What was asked of their sources
before is no part of what is read, nor is what open calls have saved of the variables
that they hide.
-/

namespace Shell.State

variable {state : State}

/-- No nameref is looked up under the text of a reference. -/
theorem resolved_text (reference : Reference) : state.resolved reference.text = reference.text := by
  rw [State.resolved, Reference.isName_text]
  rfl

/-- A nameref whose text names nothing leads nowhere else. -/
theorem resolved_of_not_isTarget
    (untargeted : Text.isTarget ((state.store.get? name).getD "") = false) :
    state.resolved name = name := by
  cases direct : state.store.isNameref name with
  | false => exact resolved_of_not_nameref direct
  | true =>
    have led : state.follow? namerefDepth [] name = some name := by
      obtain ⟨depth, deep⟩ : ∃ depth, namerefDepth = depth + 1 := ⟨99, rfl⟩
      rw [deep, follow?, List.contains_nil, if_neg Bool.false_ne_true, if_pos direct]
      simp [untargeted]
    simp [resolved, resolve?, resolveWithin?, direct, led]

/-- How a name is read, by its form: with a subscript or without one. -/
theorem exists_value_eq (state : State) (name : String) :
    ∃ read, state.value name =
      match Reference.parse? (state.resolved name) with
      | some reference => state.element read reference
      | none => (state.computed? (state.resolved name)).getD
        (MonadExcept.ofExcept (state.stored (state.resolved name))) :=
  ⟨state.valueWithin state.nesting, valueWithin_succ state state.nesting name⟩

/-- Whether a name is set, by its form: with a subscript or without one. -/
theorem isSet_eq (state : State) (name : String) :
    state.isSet name =
      match Reference.parse? (state.resolved name) with
      | some reference => state.isElementSet reference
      | none =>
        if alwaysSet.contains (state.resolved name) then pure true
        else if isWhole (state.resolved name) then pure !state.positional.isEmpty
        else if state.resolved name = "!" then pure (state.backgroundId != 0)
        else MonadExcept.ofExcept (state.isStored (state.resolved name)) := by
  unfold isSet
  generalize state.resolved name = name
  dsimp only
  cases parsed : Reference.parse? name with
  | none => rfl
  | some reference =>
    -- None of the names with a meaning of their own has a subscript.
    have special : ∀ known, Reference.parse? known = none → name ≠ known := by
      rintro known unread rfl
      rw [unread] at parsed
      contradiction
    have always : alwaysSet.contains name = false := by
      rw [List.contains_eq_mem, decide_eq_false_iff_not]
      intro member
      have unread : ∀ known ∈ alwaysSet, Reference.parse? known = none := by decide
      exact special name (unread name member) rfl
    have whole : isWhole name = false := by
      simp [isWhole, special "@" (by decide), special "*" (by decide)]
    rw [always, whole, if_neg Bool.false_ne_true, if_neg Bool.false_ne_true,
      if_neg (special "!" (by decide))]

theorem isSet_text {reference : Reference}
    (parsed : Reference.parse? reference.text = some reference) :
    state.isSet reference.text = state.isElementSet reference := by
  rw [isSet_eq, resolved_text, parsed]

section Visible

variable (state : State)

/-- What readings depend on: neither what was asked before, nor what open calls have saved. -/
def visible (state : State) : State :=
  { state with
    store := state.store.copy
    scopes := []
    shadows := []
    unsetLocals := ∅
    localExports := []
    queries := [] }

theorem follow?_visible (rounds : Nat) (seen : List String) (name : String) :
    state.visible.follow? rounds seen name = state.follow? rounds seen name := by
  induction rounds generalizing seen name with
  | zero => rfl
  | succ rounds inductionHypothesis =>
    simp only [follow?, inductionHypothesis]
    rfl

theorem resolved_visible (name : String) : state.visible.resolved name = state.resolved name := by
  simp only [resolved, resolve?, resolveWithin?, follow?_visible]
  rfl

theorem positional_visible : state.visible.positional = state.positional := by
  have alike : ∀ fuel number,
      state.visible.positionalFrom fuel number = state.positionalFrom fuel number := by
    intro fuel
    induction fuel with
    | zero => exact fun _ => rfl
    | succ fuel inductionHypothesis =>
      intro number
      simp only [positionalFrom, inductionHypothesis]
      rfl
  exact alike _ _

theorem computed?_visible (name : String) :
    state.visible.computed? name = state.computed? name := by
  simp only [computed?, positional_visible]
  rfl

theorem elements_visible (name : String) :
    state.visible.elements name = state.elements name := by
  rw [elements, resolved_visible]
  rfl

theorem element_visible (read : String → Draw String) (reference : Reference) :
    state.visible.element read reference = state.element read reference := by
  simp only [element, readElements, resolved_visible, elements_visible]
  rfl

theorem value_visible (name : String) : state.visible.value name = state.value name := by
  have alike : ∀ depth, state.visible.valueWithin depth = state.valueWithin depth := by
    intro depth
    induction depth with
    | zero => rfl
    | succ depth inductionHypothesis =>
      funext name
      simp only [valueWithin_succ, inductionHypothesis, resolved_visible, computed?_visible,
        element_visible]
      rfl
  exact congrFun (alike (state.nesting + 1)) name

theorem isSet_visible (name : String) : state.visible.isSet name = state.isSet name := by
  have read : state.visible.value = state.value := funext state.value_visible
  simp only [isSet, isElementSet, readElements, resolved_visible, elements_visible,
    positional_visible, read]
  rfl

theorem value_queries (queries : Queries) (name : String) :
    State.value { state with queries := queries } name = state.value name :=
  (value_visible _ name).symm.trans (state.value_visible name)

end Visible

section Identifier

variable {name : String}

/-- Only random numbers and the time differ from one reading to the next. -/
theorem computed?_eq_some {read : Draw String} (found : state.computed? name = some read)
    (steady : name ≠ "RANDOM") (timeless : name ≠ "SECONDS") :
    ∃ result, read = MonadExcept.ofExcept result := by
  unfold State.computed? at found
  split at found
  case h_12 => exact absurd rfl steady
  case h_13 => exact absurd rfl timeless
  case h_16 => exact nomatch found
  case h_1 | h_2 | h_3 | h_4 | h_11 => exact ⟨_, (Option.some.inj found).symm⟩
  all_goals exact ⟨.ok _, (Option.some.inj found).symm⟩

variable (identifier : Text.isIdentifier name.toList = true)

section Settled

variable (settled : state.resolved name = name)

include identifier settled

/-- A name that leads nowhere else is read itself. -/
theorem value_of_resolved :
    state.value name = (state.computed? name).getD (MonadExcept.ofExcept (state.stored name)) := by
  obtain ⟨read, form⟩ := exists_value_eq state name
  rw [form, settled, Reference.parse?_of_isIdentifier identifier]

theorem isSet_of_resolved :
    state.isSet name =
      if alwaysSet.contains name then pure true
      else MonadExcept.ofExcept (state.isStored name) := by
  have special : ∀ known, Text.isIdentifier known.toList = false → name ≠ known := by
    rintro known other rfl
    rw [identifier] at other
    contradiction
  have whole : isWhole name = false := by
    simp [isWhole, special "@" (by decide), special "*" (by decide)]
  rw [State.isSet, settled, Reference.parse?_of_isIdentifier identifier]
  dsimp only
  rw [whole, if_neg Bool.false_ne_true, if_neg (special "!" (by decide))]

end Settled

variable (plain : state.store.isNameref name = false)

include identifier plain

theorem value_of_isIdentifier :
    state.value name = (state.computed? name).getD (MonadExcept.ofExcept (state.stored name)) :=
  value_of_resolved identifier (resolved_of_not_nameref plain)

theorem isSet_of_isIdentifier :
    state.isSet name =
      if alwaysSet.contains name then pure true else MonadExcept.ofExcept (state.isStored name) :=
  isSet_of_resolved identifier (resolved_of_not_nameref plain)

theorem value_eq_ofExcept (steady : name ≠ "RANDOM") (timeless : name ≠ "SECONDS") :
    ∃ result, state.value name = MonadExcept.ofExcept result := by
  rw [value_of_isIdentifier identifier plain]
  cases found : state.computed? name with
  | none => exact ⟨_, rfl⟩
  | some read => exact computed?_eq_some found steady timeless

theorem isSet_eq_ofExcept :
    ∃ result, state.isSet name = MonadExcept.ofExcept result := by
  rw [isSet_of_isIdentifier identifier plain]
  split
  · exact ⟨.ok true, rfl⟩
  · exact ⟨_, rfl⟩

end Identifier

end Shell.State
