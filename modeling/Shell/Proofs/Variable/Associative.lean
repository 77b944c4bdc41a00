import Shell.Proofs.Variable.Constant
import Shell.Proofs.Variable.Contents
import Shell.Proofs.Variable.Readonly

/-!
# Associative arrays as finite maps

Every text that follows the name of an associative array in a key of the store is a key
of the array, so that the array is a finite map whatever is in the store. The keys are
listed in the order of the store. A key between quotation marks goes through the reading
of references and subscripts as it is, unless it has a dollar sign in it.
-/

namespace Shell.State

open Running

/-- A name that can be written and is not that of the call stack. -/
structure Keyed (state : State) (name : String) : Prop extends state.Free name where
  ordinary : state.callArray? name = none

/-- The listing of an associative array shows a map from keys to values. -/
structure Mapped (state : State) (name : String) (map : Std.ExtTreeMap String String compare) :
    Prop extends state.Keyed name where
  associative : state.isAssociative name = true
  elements : state.elements name = .ok (map.toList.map fun entry => (.name entry.1, entry.2))

variable {state : State} {name : String} {map : Std.ExtTreeMap String String compare}

theorem text_injective : Function.Injective fun key : String => (Key.name key).text := fun _ _ => id

namespace Keyed

variable (keyed : state.Keyed name)

include keyed

/-- An associative array that holds a map shows it. -/
theorem mapped (associative : state.isAssociative name = true)
    (holds : state.store.Holds name .name map) : state.Mapped name map where
  toKeyed := keyed
  associative := associative
  elements := by
    have keys : state.suffixes name = map.keys := by
      refine eq_of_ordered Std.OrientedCmp.not_lt_of_lt
        ((ordered_suffixes state name).imp compare_of_elementKey) map.ordered_keys fun key => ?_
      rw [mem_suffixes, Std.ExtTreeMap.mem_keys]
      exact holds.has_iff
    rw [State.elements, keyed.ordinary, resolved_of_not_nameref keyed.direct]
    dsimp only
    rw [ownElements, if_pos associative, keys, ← Std.ExtTreeMap.map_fst_toList_eq_keys,
      List.filterMap_map, ← List.filterMap_eq_map]
    refine congrArg Except.ok (List.filterMap_congr ?_)
    rintro ⟨key, value⟩ member
    rw [Std.ExtTreeMap.mem_toList_iff_getElem?_eq_some] at member
    have stored : state.store.get? (elementKey name key) = some value :=
      (holds.values key).trans member
    simp [stored]

/-- Whatever is in the store, an associative array is a map. -/
theorem exists_mapped (associative : state.isAssociative name = true) :
    ∃ map, state.store.Holds name .name map ∧ state.Mapped name map := by
  obtain ⟨map, holds⟩ := @Store.exists_holds _ _ _ _ state name _ text_injective
    (state.suffixes name) (List.map_id _)
  exact ⟨map, holds, keyed.mapped associative holds⟩

/-- The store may change where the array still holds a map. -/
theorem mapped_of_store (associative : state.isAssociative name = true) {store : Store}
    (attributes : store.attributes = state.store.attributes)
    (holds : store.Holds name .name map) :
    State.Mapped { state with store := store } name map := by
  have alike : ∀ letter, store.hasAttribute name letter = state.store.hasAttribute name letter :=
    Store.hasAttribute_congr (by rw [attributes])
  have still : State.Keyed { state with store := store } name :=
    ⟨⟨keyed.identifier, (alike _).trans keyed.direct, (alike _).trans keyed.writable⟩,
      keyed.ordinary⟩
  exact still.mapped associative holds

end Keyed

namespace Mapped

variable (mapped : state.Mapped name map)

include mapped

/-- What the listing shows is what the store holds. -/
theorem holds : state.store.Holds name .name map := by
  obtain ⟨second, holds, alsoMapped⟩ := mapped.exists_mapped mapped.associative
  have listed := mapped.elements.symm.trans alsoMapped.elements
  have distinct : Function.Injective Key.name := fun _ _ => Key.name.inj
  rwa [eq_of_listing distinct (Except.ok.inj listed)]

theorem put (key value : String) :
    State.Mapped { state with store := state.store.put (elementKey name key) value } name
      (map.insert key value) :=
  mapped.mapped_of_store mapped.associative rfl (mapped.holds.put text_injective key value)

theorem drop (key : String) :
    State.Mapped { state with store := state.store.drop (elementKey name key) } name
      (map.erase key) :=
  mapped.mapped_of_store mapped.associative rfl (mapped.holds.drop text_injective key)

section Quoted

open Subscript

variable {key : String} (plain : '$' ∉ key.toList)

omit mapped in
theorem parse?_quoted (keyed : state.Keyed name) (key : String) :
    Reference.parse? (Reference.text ⟨name, quotedKey key⟩) = some ⟨name, quotedKey key⟩ :=
  Reference.parse?_text keyed.identifier (ne_empty_of_head (toList_quotedKey key))

omit mapped in
theorem isWhole_quoted (key : String) : isWhole (quotedKey key) = false :=
  isWhole_of_head (toList_quotedKey key) (by decide)

include plain

/-- The element under a quoted key is the value of the key. -/
theorem value_quoted :
    state.value (Reference.text ⟨name, quotedKey key⟩) = pure (map[key]?.getD "") := by
  have stored : state.store.get? (elementKey name key) = map[key]? := mapped.holds.values key
  obtain ⟨read, element⟩ := value_text (parse?_quoted mapped.toKeyed key)
  rw [element]
  dsimp only [State.element]
  rw [resolved_of_not_nameref mapped.direct, mapped.ordinary, isWhole_quoted, mapped.associative,
    key_quotedKey read plain, ← stored]
  rfl

theorem execute_setElement_quoted (value : String) :
    execute (setElement name (quotedKey key) value) state =
      (.ok (), { state with store := state.store.put (elementKey name key) value }) := by
  have drawn : execute (reading fun state => Subscript.key state.value (quotedKey key)) state =
      (.ok key, state) := execute_reading_ofExcept (key_quotedKey _ plain)
  rw [setElement, execute_get_bind, resolve?_of_not_nameref mapped.direct]
  dsimp only
  rw [execute_bind_of_ok (execute_checkWritable_of_not mapped.writable), execute_get_bind,
    if_pos mapped.associative, execute_bind_of_ok drawn]
  rfl

theorem execute_unset_quoted :
    execute (State.unset (Reference.text ⟨name, quotedKey key⟩)) state =
      (.ok (), { state with store := state.store.drop (elementKey name key) }) := by
  rw [execute_unset_text (parse?_quoted mapped.toKeyed key) mapped.direct (isWhole_quoted key),
    execute_bind_of_ok (execute_checkWritable_of_not mapped.writable)]
  exact execute_dropElement_of_key mapped.associative (key_quotedKey _ plain)

end Quoted

end Mapped

section Items

variable {items : List (String × String)}

/-- Putting items one by one, the later ones in the place of earlier ones, inserts them. -/
theorem holds_putItems {store : Store} (holds : store.Holds name .name map) :
    (items.foldl (fun store (key, value) => store.put (elementKey name key) value) store).Holds name
      .name (items.foldl (fun map (key, value) => map.insert key value) map) := by
  induction items generalizing store map with
  | nil => exact holds
  | cons item rest inductionHypothesis =>
    exact inductionHypothesis (holds.put text_injective item.1 item.2)

theorem attributes_putItems (store : Store) :
    (items.foldl (fun store (key, value) => store.put (elementKey name key) value)
      store).attributes = store.attributes := by
  induction items generalizing store with
  | nil => rfl
  | cons item rest inductionHypothesis => exact inductionHypothesis _

/-- The entries of a map made of items with different keys are the items. -/
theorem getElem?_insertItems (distinct : (items.map Prod.fst).Nodup) (key value : String) :
    (items.foldl (fun map (key, value) => map.insert key value) map)[key]? = some value ↔
      (key, value) ∈ items ∨ (key ∉ items.map Prod.fst ∧ map[key]? = some value) := by
  induction items generalizing map with
  | nil => simp
  | cons item rest inductionHypothesis =>
    obtain ⟨fresh, distinctRest⟩ := List.nodup_cons.mp distinct
    rw [List.foldl_cons, inductionHypothesis distinctRest, Std.ExtTreeMap.getElem?_insert]
    obtain ⟨first, stored⟩ := item
    by_cases same : first = key
    · subst same
      have other : first ∉ rest.map Prod.fst := fresh
      have absent : (first, value) ∉ rest := fun member =>
        other (List.mem_map.mpr ⟨_, member, rfl⟩)
      simp [absent, other, eq_comm]
    · simp [same, Ne.symm same]

/-- An associative array is replaced by its items, whatever the store held under its name. -/
theorem Keyed.execute_setAssociativeArray (keyed : state.Keyed name)
    (distinct : (items.map Prod.fst).Nodup) :
    ∃ map last, execute (setAssociativeArray name items) state = (.ok (), last) ∧
      map.toList.Perm items ∧ last.Mapped name map := by
  let declared : State :=
    { state with
      associative := state.associative.insert name
      store := state.store.addAttribute name Attribute.associative }
  have associative : declared.isAssociative name = true := Std.ExtTreeSet.contains_insert_self
  have kept : ∀ letter, letter ≠ Attribute.associative →
      declared.store.hasAttribute name letter = state.store.hasAttribute name letter := by
    intro letter other
    rw [Store.hasAttribute_addAttribute, beq_false_of_ne other.symm, Bool.and_false, Bool.false_or]
  have still : declared.Keyed name :=
    ⟨⟨keyed.identifier, (kept _ (by decide)).trans keyed.direct,
      (kept _ (by decide)).trans keyed.writable⟩, keyed.ordinary⟩
  have readable : declared.Readable name := fun indexed => absurd associative (by simp [indexed])
  obtain ⟨keys, cleared, listed⟩ := execute_clearArray readable
  have holds : (declared.store.dropAll keys).Holds name .name ∅ :=
    .empty (has_dropAll_eq_false listed fun _ _ => .inl associative)
  have mapped := still.mapped_of_store associative
    ((attributes_putItems _).trans (Store.attributes_dropAll _ _))
      (@holds_putItems _ _ items _ holds)
  refine ⟨_, _, ?_, ?_, mapped⟩
  · have registered : execute (declareAssociative name) state = (.ok (), declared) := rfl
    rw [setAssociativeArray, execute_get_bind, resolve?_of_not_nameref keyed.direct]
    dsimp only
    rw [execute_bind_of_ok (execute_checkWritable_of_not keyed.writable),
      execute_bind_of_ok registered, execute_bind_of_ok cleared]
    rfl
  · have nodup : ∀ {entries : List (String × String)}, (entries.map Prod.fst).Nodup →
        entries.Nodup := fun different => different.of_map _
    refine (List.perm_ext_iff_of_nodup (nodup ?_) (nodup distinct)).mpr ?_
    · rw [Std.ExtTreeMap.map_fst_toList_eq_keys]
      exact Std.ExtTreeMap.nodup_keys
    · rintro ⟨key, value⟩
      rw [Std.ExtTreeMap.mem_toList_iff_getElem?_eq_some, getElem?_insertItems distinct]
      simp

end Items

/-- An associative array is a finite map that is listed in the order of its keys: it is replaced by
items, whatever was stored under its name, and a key between quotation marks stands for itself, if
it has no dollar sign in it, when an element is written, read and unset. -/
theorem Keyed.represents_finite_map (keyed : state.Keyed name) :
    (∀ items : List (String × String), (items.map Prod.fst).Nodup →
      ∃ (listed : List (String × String)) (last : State), listed.Perm items ∧
        (listed.Pairwise fun before later => compare before.1 later.1 = .lt) ∧
        execute (setAssociativeArray name items) state = (.ok (), last) ∧
        last.Keyed name ∧ last.isAssociative name = true ∧
        last.elements name = .ok (listed.map fun entry => (.name entry.1, entry.2))) ∧
    (state.isAssociative name = true → ∃ map, state.Mapped name map ∧
      ∀ key, '$' ∉ key.toList →
        (∀ value, ∃ last,
          execute (setElement name (Subscript.quotedKey key) value) state = (.ok (), last) ∧
          last = { state with store := state.store.put (elementKey name key) value } ∧
          last.Mapped name (map.insert key value) ∧
          last.value (Reference.text ⟨name, Subscript.quotedKey key⟩) = pure value ∧
          ∀ other, other ≠ key → '$' ∉ other.toList →
            last.value (Reference.text ⟨name, Subscript.quotedKey other⟩) =
              state.value (Reference.text ⟨name, Subscript.quotedKey other⟩)) ∧
        ∃ last, execute (unset (Reference.text ⟨name, Subscript.quotedKey key⟩)) state =
            (.ok (), last) ∧
          last = { state with store := state.store.drop (elementKey name key) } ∧
          last.Mapped name (map.erase key)) := by
  refine ⟨fun items distinct => ?_, fun associative => ?_⟩
  · obtain ⟨map, last, replaced, same, mapped⟩ := keyed.execute_setAssociativeArray distinct
    exact ⟨map.toList, last, same, map.ordered_keys_toList, replaced, mapped.toKeyed,
      mapped.associative, mapped.elements⟩
  · obtain ⟨map, -, mapped⟩ := keyed.exists_mapped associative
    refine ⟨map, mapped, fun key plain => ⟨fun value => ?_, ?_⟩⟩
    · refine ⟨_, mapped.execute_setElement_quoted plain value, rfl, mapped.put key value, ?_, ?_⟩
      · rw [(mapped.put key value).value_quoted plain]
        simp
      · intro other different otherPlain
        rw [(mapped.put key value).value_quoted otherPlain, mapped.value_quoted otherPlain,
          Std.ExtTreeMap.getElem?_insert]
        simp [Ne.symm different]
    · exact ⟨_, mapped.execute_unset_quoted plain, rfl, mapped.drop key⟩

/-- An associative array with a key that stands for all elements where it is not quoted. -/
def starredArray : State :=
  { store := (({} : Store).put "m_*" "p").put "m_it's" "q"
    associative := Std.ExtTreeSet.ofList ["m"] }

theorem keyed_starredArray : starredArray.Keyed "m" where
  identifier := by decide
  direct := by decide
  writable := by decide
  ordinary := by decide

/-- Two items take the place of the array in the order of their keys, and of the array only the
key that is quoted is unset. -/
theorem starredArray_is_a_map :
    starredArray.Keyed "m" ∧
      (∃ last, execute (setAssociativeArray "m" [("b", "2"), ("a", "1")]) starredArray =
          (.ok (), last) ∧ last.elements "m" = .ok [(.name "a", "1"), (.name "b", "2")]) ∧
      ∃ map last, starredArray.Mapped "m" map ∧
        execute (unset "m['*']") starredArray = (.ok (), last) ∧
          last.Mapped "m" (map.erase "*") := by
  obtain ⟨replaced, kept⟩ := keyed_starredArray.represents_finite_map
  refine ⟨keyed_starredArray, ?_, ?_⟩
  · obtain ⟨listed, last, same, ordered, ran, -, -, elements⟩ :=
      replaced [("b", "2"), ("a", "1")] (by decide)
    have sorted : listed = [("a", "1"), ("b", "2")] := by
      refine eq_of_ordered Std.OrientedCmp.not_lt_of_lt ordered (by decide) fun item => ?_
      rw [same.mem_iff]
      simp [or_comm]
    exact ⟨last, ran, by rw [elements, sorted]; rfl⟩
  · obtain ⟨map, mapped, keys⟩ := kept (by decide)
    obtain ⟨-, last, ran, -, left⟩ := keys "*" (by decide)
    exact ⟨map, last, mapped, ran, left⟩

end Shell.State
