import Shell.Proofs.Variable.Writes

/-!
# What open calls save about a variable

Each open call has a layer: the values and the attributes that its local variables
had before. A state is sound for a variable if every layer that saves something of
the variable saves all of it, and if the record of hidden values names exactly the
calls that have it as a local variable.
-/

namespace Shell

/-- What one open call saves. -/
structure Layer where
  values : Table (Option String)
  attributes : Table (Option Attributes)

namespace Layer

/-- A layer saves nothing of a variable, or its attributes and its own value, and elements that the
attributes allow for. -/
structure Sound (name : String) (layer : Layer) : Prop where
  owned : ∀ suffix, layer.values.contains (elementKey name suffix) = true →
    layer.values.contains name = true
  attributes : layer.attributes.contains name = layer.values.contains name
  present : ∀ suffix, layer.values[elementKey name suffix]? ≠ some none
  indices : ∀ saved, layer.attributes[name]? = some saved →
    (saved.getD ∅).contains Attribute.associative = false → ∀ suffix,
      layer.values.contains (elementKey name suffix) = true →
        ∃ n < Text.numberLimit, suffix = toString n

/-- Two layers save the same of a variable. -/
structure Keeps (name : String) (first second : Layer) : Prop where
  values : ∀ key, Owns name key → second.values[key]? = first.values[key]?
  attributes : second.attributes[name]? = first.attributes[name]?

/-- The layer saves all of a variable as it is in the state. -/
structure Saves (name : String) (state : State) (layer : Layer) : Prop where
  self : layer.values[name]? = some (state.store.get? name)
  elements : ∀ suffix, layer.values[elementKey name suffix]? =
    (state.store.get? (elementKey name suffix)).map some
  attributes : layer.attributes[name]? = some state.store.attributes[name]?

theorem Keeps.refl (name : String) (layer : Layer) : Keeps name layer layer :=
  ⟨fun _ _ => rfl, rfl⟩

theorem Keeps.trans {name : String} {first second third : Layer} (before : Keeps name first second)
    (next : Keeps name second third) : Keeps name first third :=
  ⟨fun key owned => (next.values key owned).trans (before.values key owned),
    next.attributes.trans before.attributes⟩

theorem Keeps.contains {name : String} {first second : Layer} (keeps : Keeps name first second)
    {key : String} (owned : Owns name key) :
    second.values.contains key = first.values.contains key := by
  rw [← Std.ExtTreeMap.isSome_getElem?_eq_contains, keeps.values key owned,
    Std.ExtTreeMap.isSome_getElem?_eq_contains]

theorem Sound.of_keeps {name : String} {first second : Layer} (sound : first.Sound name)
    (keeps : Keeps name first second) : second.Sound name := by
  have self := keeps.contains (owns_self name)
  have elements := fun suffix => keeps.contains (owns_elementKey name suffix)
  refine ⟨?_, ?_, ?_, ?_⟩
  · intro suffix
    rw [elements, self]
    exact sound.owned suffix
  · rw [self, ← sound.attributes, ← Std.ExtTreeMap.isSome_getElem?_eq_contains, keeps.attributes,
      Std.ExtTreeMap.isSome_getElem?_eq_contains]
  · intro suffix
    rw [keeps.values _ (owns_elementKey name suffix)]
    exact sound.present suffix
  · intro saved found plain suffix
    rw [keeps.attributes] at found
    rw [elements]
    exact sound.indices saved found plain suffix

/-- The innermost layer can be replaced by one that keeps what it saves. -/
theorem forall_sound_of_keeps {name : String} {first second : Layer} {rest : List Layer}
    (sound : ∀ layer ∈ first :: rest, layer.Sound name) (keeps : Keeps name first second) :
    ∀ layer ∈ second :: rest, layer.Sound name := by
  intro layer member
  rcases List.mem_cons.mp member with rfl | inRest
  · exact (sound first List.mem_cons_self).of_keeps keeps
  · exact sound layer (List.mem_cons_of_mem _ inRest)

theorem Saves.of_keeps {name : String} {state : State} {first second : Layer}
    (saves : first.Saves name state) (keeps : Keeps name first second) :
    second.Saves name state where
  self := (keeps.values name (owns_self name)).trans saves.self
  elements suffix := (keeps.values _ (owns_elementKey name suffix)).trans (saves.elements suffix)
  attributes := keeps.attributes.trans saves.attributes

/-- A layer that saves a regular variable is sound. -/
theorem Saves.sound {name : String} {state : State} {layer : Layer}
    (saves : layer.Saves name state) (regular : state.Regular name) : layer.Sound name := by
  have self : layer.values.contains name = true := by
    rw [← Std.ExtTreeMap.isSome_getElem?_eq_contains, saves.self]
    rfl
  refine ⟨fun _ _ => self, ?_, ?_, ?_⟩
  · rw [self, ← Std.ExtTreeMap.isSome_getElem?_eq_contains, saves.attributes]
    rfl
  · intro suffix
    rw [saves.elements]
    cases state.store.get? (elementKey name suffix) <;> simp
  · intro saved found plain suffix present
    rw [saves.attributes] at found
    cases found
    refine regular.indices ?_ suffix ?_
    · rw [regular.registered]
      exact plain
    · rw [← Std.ExtTreeMap.isSome_getElem?_eq_contains, saves.elements] at present
      rw [Store.has_eq_isSome_get?]
      simpa using present

end Layer

namespace State

/-- The layers of the open calls, innermost first. -/
def layers (state : State) : List Layer := List.zipWith Layer.mk state.scopes state.store.saved

/-- The values of a name that are hidden, innermost first. -/
def shadowsOf (name : String) : List (String × List Shadow) → List Shadow
  | [] => []
  | (other, shadows) :: rest => if other = name then shadows else shadowsOf name rest

/-- The calls that have a name as a local variable, innermost first. -/
def levelsOf (name : String) : List (Table (Option String)) → List Nat
  | [] => []
  | scope :: outer =>
    if scope.contains name then outer.length :: levelsOf name outer else levelsOf name outer

/-- Nothing stands in the way of putting a variable back when the open calls end. -/
structure Sound (name : String) (state : State) : Prop where
  regular : state.Regular name
  saved : state.store.saved.length = state.scopes.length
  exports : state.localExports.length = state.scopes.length
  layers : ∀ layer ∈ state.layers, layer.Sound name
  distinct : (state.shadows.map (·.1)).Nodup
  apart : ∀ other ∈ state.shadows.map (·.1), Apart name other
  levels : (shadowsOf name state.shadows).map (·.scope) = levelsOf name state.scopes

section Shadows

variable {name other : String} {shadow : Shadow} {shadows : List (String × List Shadow)}

theorem shadowsOf_addShadow (name other : String) (shadow : Shadow)
    (shadows : List (String × List Shadow)) :
    shadowsOf name (addShadow other shadow shadows) =
      if other = name then shadow :: shadowsOf name shadows else shadowsOf name shadows := by
  induction shadows with
  | nil => by_cases same : other = name <;> simp [addShadow, shadowsOf, same]
  | cons entry rest inductionHypothesis =>
    obtain ⟨first, hidden⟩ := entry
    by_cases found : first = other
    · subst found
      by_cases same : first = name <;> simp [addShadow, shadowsOf, same]
    · simp only [addShadow, if_neg found, shadowsOf, inductionHypothesis]
      by_cases same : first = name
      · subst same
        simp [Ne.symm found]
      · simp [same]

theorem mem_names_addShadow {wanted : String} :
    wanted ∈ (addShadow other shadow shadows).map (·.1) ↔
      wanted = other ∨ wanted ∈ shadows.map (·.1) := by
  induction shadows with
  | nil => simp [addShadow]
  | cons entry rest inductionHypothesis =>
    obtain ⟨first, hidden⟩ := entry
    by_cases found : first = other
    · subst found
      simp [addShadow]
    · simp only [addShadow, if_neg found, List.map_cons, List.mem_cons, inductionHypothesis]
      exact ⟨fun cases => by tauto, fun cases => by tauto⟩

theorem nodup_names_addShadow (distinct : (shadows.map (·.1)).Nodup) :
    ((addShadow other shadow shadows).map (·.1)).Nodup := by
  induction shadows with
  | nil => simp [addShadow]
  | cons entry rest inductionHypothesis =>
    obtain ⟨first, hidden⟩ := entry
    obtain ⟨fresh, distinctRest⟩ := List.nodup_cons.mp distinct
    by_cases found : first = other
    · simpa [addShadow, found] using distinct
    · simp only [addShadow, if_neg found, List.map_cons, List.nodup_cons, mem_names_addShadow]
      refine ⟨?_, inductionHypothesis distinctRest⟩
      rintro (same | inRest)
      · exact found same
      · exact fresh inRest

theorem shadowsOf_eq_nil (absent : name ∉ shadows.map (·.1)) : shadowsOf name shadows = [] := by
  induction shadows with
  | nil => rfl
  | cons entry rest inductionHypothesis =>
    obtain ⟨first, hidden⟩ := entry
    rw [List.map_cons, List.mem_cons, not_or] at absent
    rw [shadowsOf, if_neg (Ne.symm absent.1), inductionHypothesis absent.2]

theorem shadowsOf_of_mem {hidden : List Shadow} (distinct : (shadows.map (·.1)).Nodup)
    (member : (name, hidden) ∈ shadows) : shadowsOf name shadows = hidden := by
  induction shadows with
  | nil => simp at member
  | cons entry rest inductionHypothesis =>
    obtain ⟨first, others⟩ := entry
    obtain ⟨fresh, distinctRest⟩ := List.nodup_cons.mp distinct
    rcases List.mem_cons.mp member with same | inRest
    · cases same
      simp [shadowsOf]
    · have different : first ≠ name := by
        rintro rfl
        exact fresh (List.mem_map.mpr ⟨_, inRest, rfl⟩)
      rw [shadowsOf, if_neg different, inductionHypothesis distinctRest inRest]

/-- The calls that hide a name, once those of one call are forgotten. -/
theorem shadowsOf_forget (scope : Nat) (distinct : (shadows.map (·.1)).Nodup) :
    shadowsOf name (shadows.filterMap fun (name, shadows) =>
      match shadows.dropWhile fun shadow => shadow.scope == scope with
      | [] => none
      | rest => some (name, rest)) =
      (shadowsOf name shadows).dropWhile fun shadow => shadow.scope == scope := by
  induction shadows with
  | nil => rfl
  | cons entry rest inductionHypothesis =>
    obtain ⟨first, hidden⟩ := entry
    obtain ⟨fresh, distinctRest⟩ := List.nodup_cons.mp distinct
    have others := inductionHypothesis distinctRest
    rw [List.filterMap_cons]
    by_cases same : first = name
    · subst same
      rw [shadowsOf_eq_nil fresh] at others
      cases left : hidden.dropWhile fun shadow => shadow.scope == scope with
      | nil => simpa [shadowsOf, left] using others
      | cons shadow more => simp [shadowsOf, left]
    · cases left : hidden.dropWhile fun shadow => shadow.scope == scope with
      | nil => simpa [shadowsOf, left, same] using others
      | cons shadow more => simpa [shadowsOf, left, same] using others

theorem names_forget_sublist (scope : Nat) (shadows : List (String × List Shadow)) :
    ((shadows.filterMap fun (name, shadows) =>
      match shadows.dropWhile fun shadow => shadow.scope == scope with
      | [] => none
      | rest => some (name, rest)).map (·.1)).Sublist (shadows.map (·.1)) := by
  induction shadows with
  | nil => exact List.Sublist.refl _
  | cons entry rest inductionHypothesis =>
    obtain ⟨first, hidden⟩ := entry
    rw [List.filterMap_cons]
    cases left : hidden.dropWhile fun shadow => shadow.scope == scope with
    | nil => simpa [left] using inductionHypothesis.cons first
    | cons shadow more => simpa [left] using inductionHypothesis.cons_cons first

end Shadows

/-- The names that a call hides are those whose innermost hidden value it hides. -/
theorem mem_hiddenBy {state : State} {name : String} {scope : Nat}
    (distinct : (state.shadows.map (·.1)).Nodup) :
    name ∈ state.hiddenBy scope ↔
      (shadowsOf name state.shadows).head?.map (·.scope) = some scope := by
  unfold hiddenBy
  rw [List.mem_map]
  constructor
  · rintro ⟨⟨first, hidden⟩, member, rfl⟩
    obtain ⟨inShadows, top⟩ := List.mem_filter.mp member
    rw [shadowsOf_of_mem distinct inShadows]
    cases hidden with
    | nil => simp at top
    | cons shadow more => simpa using top
  · intro top
    by_cases known : name ∈ state.shadows.map (·.1)
    · obtain ⟨⟨first, hidden⟩, inShadows, rfl⟩ := List.mem_map.mp known
      rw [shadowsOf_of_mem distinct inShadows] at top
      refine ⟨(first, hidden), List.mem_filter.mpr ⟨inShadows, ?_⟩, rfl⟩
      cases hidden with
      | nil => simp at top
      | cons shadow more => simpa using top
    · rw [shadowsOf_eq_nil known] at top
      simp at top

theorem hiddenBy_sublist (state : State) (scope : Nat) :
    (state.hiddenBy scope).Sublist (state.shadows.map (·.1)) :=
  List.filter_sublist.map _

end State

end Shell
