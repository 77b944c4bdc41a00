import Shell.Proofs.Variable.Independence

/-!
# The elements of an array as a finite map

The store keeps the elements of an array under texts. If the keys of a map are
written as such texts, and no two of them alike, then putting and dropping values
in the store inserts into the map and erases from it. The listing of an array shows
the map in the order of its keys.
-/

namespace Shell

/-- Lists in strictly ascending order are equal if they have the same members. -/
theorem eq_of_ordered {α : Type} {before : α → α → Prop}
    (asymmetric : ∀ {item other}, before item other → ¬ before other item) {first second : List α}
    (firstOrdered : first.Pairwise before) (secondOrdered : second.Pairwise before)
    (same : ∀ item, item ∈ first ↔ item ∈ second) : first = second := by
  have distinct : ∀ {items : List α}, items.Pairwise before → items.Nodup := by
    intro items ordered
    refine ordered.imp fun {item other} earlier => ?_
    rintro rfl
    exact asymmetric earlier earlier
  refine List.Perm.eq_of_pairwise ?_ firstOrdered secondOrdered ?_
  · intro item other _ _ earlier later
    exact absurd later (asymmetric earlier)
  · exact (List.perm_ext_iff_of_nodup (distinct firstOrdered) (distinct secondOrdered)).mpr same

section Map

variable {α : Type} [Ord α] [Std.TransOrd α] [Std.LawfulEqOrd α]

/-- The entries of a map are listed in the order of their keys. -/
theorem toList_eq_of_ordered {map : Std.ExtTreeMap α String compare} {entries : List (α × String)}
    (ordered : entries.Pairwise fun before later => compare before.1 later.1 = .lt)
    (same : ∀ key value, (key, value) ∈ entries ↔ map[key]? = some value) :
    map.toList = entries := by
  refine eq_of_ordered Std.OrientedCmp.not_lt_of_lt map.ordered_keys_toList ordered ?_
  rintro ⟨key, value⟩
  rw [Std.ExtTreeMap.mem_toList_iff_getElem?_eq_some, same]

/-- Finitely many values can be put into a map. -/
theorem exists_map {keys : List α} {valueOf : α → Option String}
    (finite : ∀ key, key ∉ keys → valueOf key = none) :
    ∃ map : Std.ExtTreeMap α String compare, ∀ key, map[key]? = valueOf key := by
  classical
  induction keys generalizing valueOf with
  | nil =>
    refine ⟨∅, fun key => ?_⟩
    rw [finite key List.not_mem_nil]
    simp
  | cons first rest inductionHypothesis =>
    obtain ⟨map, values⟩ := @inductionHypothesis
      (fun key => if key = first then none else valueOf key) fun key other => by
        by_cases same : key = first
        · simp [same]
        · simp [same, finite key (by simp [same, other])]
    cases stored : valueOf first with
    | none =>
      refine ⟨map, fun key => ?_⟩
      rw [values]
      split
      · rename_i same
        rw [same, stored]
      · rfl
    | some value =>
      refine ⟨map.insert first value, fun key => ?_⟩
      rw [Std.ExtTreeMap.getElem?_insert, values]
      by_cases same : key = first
      · simp [same, stored]
      · simp [same, Ne.symm same]

omit [Ord α] [Std.TransOrd α] [Std.LawfulEqOrd α] in
theorem entry_injective {shown : α → Key} (distinct : Function.Injective shown) :
    Function.Injective fun entry : α × String => (shown entry.1, entry.2) := by
  intro entry other same
  obtain ⟨keys, values⟩ := Prod.mk.inj same
  exact Prod.ext (distinct keys) values

omit [Std.LawfulEqOrd α] in
/-- The entries of a map are known from a listing. -/
theorem eq_of_listing {shown : α → Key} (distinct : Function.Injective shown)
    {first second : Std.ExtTreeMap α String compare}
    (same : (first.toList.map fun entry => (shown entry.1, entry.2)) =
      second.toList.map fun entry => (shown entry.1, entry.2)) : first = second :=
  Std.ExtTreeMap.toList_inj.mp (List.map_injective_iff.mpr (entry_injective distinct) same)

end Map

theorem compare_eq_lt_iff {first second : String} :
    compare first second = .lt ↔ first.toList < second.toList := by
  change compareOfLessAndEq first second = .lt ↔ _
  rw [compareOfLessAndEq_eq_lt]
  rfl

/-- Suffixes stand in the order of their keys. -/
theorem compare_of_elementKey {array first second : String}
    (less : compare (elementKey array first) (elementKey array second) = .lt) :
    compare first second = .lt := by
  cases order : compare first second with
  | lt => rfl
  | eq =>
    rw [Std.LawfulEqOrd.eq_of_compare order, Std.ReflOrd.compare_self] at less
    contradiction
  | gt =>
    have smaller := compare_eq_lt_iff.mp (Std.OrientedCmp.lt_of_gt order)
    have greater : compare (elementKey array second) (elementKey array first) = .lt := by
      rw [compare_eq_lt_iff, toList_elementKey, toList_elementKey]
      exact List.append_left_lt (List.cons_lt_cons_self.mpr smaller)
    exact absurd greater (Std.OrientedCmp.not_lt_of_lt less)

/-- Reading item by item, if what is read of each item is known. -/
theorem mapM_eq_ok {ε α β : Type} {read : α → Except ε β} {answer : α → β} {items : List α}
    (each : ∀ item ∈ items, read item = .ok (answer item)) :
    items.mapM read = .ok (items.map answer) := by
  induction items with
  | nil => rfl
  | cons first rest inductionHypothesis =>
    refine mapM_cons_eq_ok_iff.mpr ⟨_, _, each first List.mem_cons_self, ?_, rfl⟩
    exact inductionHypothesis fun item member => each item (List.mem_cons_of_mem _ member)

namespace Store

variable {α : Type} [Ord α] [Std.TransOrd α]

/-- The values under the keys of an array's elements are those of a map, when `shown` gives the
keys of the array for those of the map. -/
structure Holds (store : Store) (array : String) (shown : α → Key)
    (map : Std.ExtTreeMap α String compare) : Prop where
  values : ∀ key, store.get? (elementKey array (shown key).text) = map[key]?
  covers : ∀ suffix, store.has (elementKey array suffix) = true → ∃ key, suffix = (shown key).text

namespace Holds

variable {store other : Store} {array : String} {shown : α → Key}
  {map : Std.ExtTreeMap α String compare}

theorem congr (holds : store.Holds array shown map)
    (same : ∀ suffix, other.get? (elementKey array suffix) = store.get? (elementKey array suffix)) :
    other.Holds array shown map where
  values key := (same _).trans (holds.values key)
  covers suffix present := by
    rw [has_eq_isSome_get?, same, ← has_eq_isSome_get?] at present
    exact holds.covers suffix present

theorem has_iff (holds : store.Holds array shown map) {key : α} :
    store.has (elementKey array (shown key).text) = true ↔ key ∈ map := by
  rw [has_eq_isSome_get?, holds.values, Std.ExtTreeMap.isSome_getElem?_iff_mem]

theorem empty (none : ∀ suffix, store.has (elementKey array suffix) = false) :
    store.Holds array shown ∅ where
  values key := by
    have absent := none (shown key).text
    rw [has_eq_isSome_get?, Option.isSome_eq_false_iff, Option.isNone_iff_eq_none] at absent
    simp [absent]
  covers suffix present := by
    rw [none] at present
    contradiction

variable [Std.LawfulEqOrd α]

section Distinct

variable (distinct : Function.Injective fun key => (shown key).text)

include distinct

theorem put (holds : store.Holds array shown map) (key : α) (value : String) :
    (store.put (elementKey array (shown key).text) value).Holds array shown
      (map.insert key value) where
  values place := by
    rw [get?_put, Std.ExtTreeMap.getElem?_insert, holds.values]
    by_cases same : key = place
    · simp [same]
    · have apart : (shown key).text ≠ (shown place).text := distinct.ne same
      simp [same, elementKey_inj, apart]
  covers suffix present := by
    by_cases same : (shown key).text = suffix
    · exact ⟨key, same.symm⟩
    · rw [has_eq_isSome_get?, get?_put, if_neg (mt elementKey_inj.mp same),
        ← has_eq_isSome_get?] at present
      exact holds.covers suffix present

theorem drop (holds : store.Holds array shown map) (key : α) :
    (store.drop (elementKey array (shown key).text)).Holds array shown (map.erase key) where
  values place := by
    rw [get?_drop, Std.ExtTreeMap.getElem?_erase, holds.values]
    by_cases same : key = place
    · simp [same]
    · have apart : (shown key).text ≠ (shown place).text := distinct.ne same
      simp [same, elementKey_inj, apart]
  covers suffix present := by
    rw [has_eq_isSome_get?, get?_drop] at present
    split at present
    · contradiction
    · rw [← has_eq_isSome_get?] at present
      exact holds.covers suffix present

end Distinct

end Holds

/-- If the suffixes are the texts of some keys, the array has a map. -/
theorem exists_holds [Std.LawfulEqOrd α] {state : State} {array : String} {shown : α → Key}
    (distinct : Function.Injective fun key => (shown key).text) {keys : List α}
    (listed : keys.map (fun key => (shown key).text) = state.suffixes array) :
    ∃ map : Std.ExtTreeMap α String compare, state.store.Holds array shown map := by
  have exact : ∀ suffix, state.store.has (elementKey array suffix) = true →
      ∃ key ∈ keys, (shown key).text = suffix := by
    intro suffix present
    rwa [← State.mem_suffixes, ← listed, List.mem_map] at present
  have finite : ∀ key, key ∉ keys →
      state.store.get? (elementKey array (shown key).text) = none := by
    intro key other
    by_contra stored
    rw [← ne_eq, Option.ne_none_iff_isSome, ← has_eq_isSome_get?] at stored
    obtain ⟨same, member, text⟩ := exact _ stored
    exact other (distinct text ▸ member)
  obtain ⟨map, values⟩ := exists_map finite
  refine ⟨map, fun key => (values key).symm, fun suffix present => ?_⟩
  obtain ⟨key, -, rfl⟩ := exact suffix present
  exact ⟨key, rfl⟩

end Store

namespace State

open Running

/-- A reading that asks the world nothing leaves the state as it is. -/
theorem execute_reading_ofExcept {α : Type} {read : State → Draw α} {state : State}
    {result : Except Fault α} (steady : read state = MonadExcept.ofExcept result) :
    execute (reading read) state = (result, state) := by
  have drawn : execute (read state) state.queries = (result, state.queries) := by
    rw [steady]
    exact execute_ofExcept result state.queries
  exact execute_reading_of read drawn

/-- Once all that is listed is dropped, no element is left, if all elements are listed. -/
theorem has_dropAll_eq_false {state : State} {array : String} {keys : List String}
    (listed : ∀ key, key ∈ keys ↔ state.Lists array key)
    (each : ∀ suffix, state.store.has (elementKey array suffix) = true →
      state.isAssociative array = true ∨ Text.isIndex suffix.toList = true) (suffix : String) :
    (state.store.dropAll keys).has (elementKey array suffix) = false := by
  rw [Store.has_eq_isSome_get?, Store.get?_dropAll]
  split
  · rfl
  · rename_i unlisted
    rw [← Store.has_eq_isSome_get?]
    by_contra present
    rw [Bool.not_eq_false] at present
    exact unlisted ((listed _).mpr ⟨present, suffix, rfl, each suffix present⟩)

variable {state : State} {reference : Reference}
  (parsed : Reference.parse? reference.text = some reference)

include parsed

/-- The text of a reference is read as the element. -/
theorem value_text : ∃ read, state.value reference.text = state.element read reference := by
  obtain ⟨read, form⟩ := exists_value_eq state reference.text
  refine ⟨read, ?_⟩
  rw [form, resolved_text, parsed]

/-- Unsetting the text of a reference unsets the element. -/
theorem unset_text : ∃ unsetWhole, execute (State.unset reference.text) state =
    execute (unsetElement unsetWhole reference) state := by
  refine ⟨unsetWithin state.nesting, ?_⟩
  rw [State.unset, execute_get_bind, unsetWithin, parsed]

/-- Drop the element of an array at a single subscript. -/
def dropElement (array subscript : String) : Write Unit := do
  if (← get).isAssociative array then
    let key ← reading fun state => Subscript.key state.value subscript
    changeStore (·.drop (elementKey array key))
  else
    match ← reading fun state => state.subscriptIndex state.value array subscript with
    | none => throw (.badSubscript array subscript)
    | some index => do
      let key ← MonadExcept.ofExcept (indexKey array index)
      changeStore (·.drop key)

/-- An element is dropped, if its array can be written. -/
theorem execute_unset_text (direct : state.store.isNameref reference.array = false)
    (single : isWhole reference.subscript = false) :
    execute (State.unset reference.text) state =
      execute (do
        checkWritable reference.array
        dropElement reference.array reference.subscript : Write Unit) state := by
  obtain ⟨unsetWhole, opened⟩ := @unset_text state _ parsed
  rw [opened, unsetElement, execute_get_bind]
  dsimp only
  rw [resolved_of_not_nameref direct, single]
  rfl

omit parsed

variable {array subscript : String}

theorem execute_dropElement_of_key (associative : state.isAssociative array = true) {key : String}
    (named : Subscript.key state.value subscript = pure key) :
    execute (dropElement array subscript) state =
      (.ok (), { state with store := state.store.drop (elementKey array key) }) := by
  have drawn : execute (reading fun state => Subscript.key state.value subscript) state =
      (.ok key, state) := execute_reading_ofExcept named
  rw [dropElement, execute_get_bind, if_pos associative, execute_bind_of_ok drawn]
  rfl

theorem execute_dropElement_of_index (plain : state.isAssociative array = false)
    {result : Except Fault (Option Nat)}
    (named : state.subscriptIndex state.value array subscript = MonadExcept.ofExcept result) :
    execute (dropElement array subscript) state = execute (do
      match ← MonadExcept.ofExcept result with
      | none => throw (.badSubscript array subscript)
      | some index => do
        let key ← MonadExcept.ofExcept (indexKey array index)
        changeStore (·.drop key) : Write Unit) state := by
  have drawn : execute (reading fun state => state.subscriptIndex state.value array subscript)
      state = (result, state) := execute_reading_ofExcept named
  rw [dropElement, execute_get_bind, plain, if_neg Bool.false_ne_true, execute_bind, drawn]
  rcases result with fault | _ | index
  · rfl
  · rfl
  · rfl

end State

end Shell
