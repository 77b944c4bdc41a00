import Shell.Proofs.Variable.Contents
import Shell.Proofs.Variable.Readonly

/-!
# Indexed arrays as sparse maps

The elements of an indexed array are found again by the texts of their keys. If these
are decimal, the array is a finite map from indices to values, as long as no index has
too many digits to be read.
-/

namespace Shell

theorem pairwise_insertAscending {n : Nat} {numbers : List Nat} (ordered : numbers.Pairwise (· < ·))
    (fresh : n ∉ numbers) : (insertAscending n numbers).Pairwise (· < ·) := by
  induction numbers with
  | nil => simp [insertAscending]
  | cons first rest inductionHypothesis =>
    rw [List.mem_cons, not_or] at fresh
    rw [insertAscending]
    split
    · rename_i before
      have less : n < first := by omega
      refine List.pairwise_cons.mpr ⟨fun other member => ?_, ordered⟩
      rcases List.mem_cons.mp member with rfl | later
      · exact less
      · exact less.trans (List.rel_of_pairwise_cons ordered later)
    · rename_i after
      refine List.pairwise_cons.mpr ⟨fun other member => ?_, ?_⟩
      · rcases List.mem_cons.mp ((perm_insertAscending n rest).mem_iff.mp member) with rfl | later
        · omega
        · exact List.rel_of_pairwise_cons ordered later
      · exact inductionHypothesis (List.Pairwise.of_cons ordered) fresh.2

theorem pairwise_ascending {numbers : List Nat} (distinct : numbers.Nodup) :
    (ascending numbers).Pairwise (· < ·) := by
  induction numbers with
  | nil => exact .nil
  | cons first rest inductionHypothesis =>
    obtain ⟨fresh, distinctRest⟩ := List.nodup_cons.mp distinct
    refine pairwise_insertAscending (inductionHypothesis distinctRest) ?_
    exact fun member => fresh ((perm_ascending rest).mem_iff.mp member)

theorem toString_injective : Function.Injective fun n : Nat => toString n := by
  intro first second same
  have digits : Nat.toDigits 10 first = Nat.toDigits 10 second :=
    (toString_eq_iff.mp rfl).symm.trans (toString_eq_iff.mp same)
  rw [← @Nat.ofDigitChars_ten_toDigits first, digits, Nat.ofDigitChars_ten_toDigits]

namespace State

/-- A name whose values are all at indices: it can be written, is neither that of an associative
array nor of the call stack, has no value of its own, and only decimal texts follow it in keys. -/
structure Indexed (state : State) (name : String) : Prop extends state.Free name where
  plain : state.isAssociative name = false
  ordinary : state.callArray? name = none
  unbound : state.store.get? name = none
  canonical : ∀ suffix, state.store.has (elementKey name suffix) = true →
    Text.isCanonical suffix.toList = true

/-- The listing of an array shows a map from indices to values. -/
structure Sparse (state : State) (name : String) (map : Std.ExtTreeMap Nat String compare) :
    Prop extends state.Indexed name where
  elements : state.elements name =
    .ok (map.toList.map fun entry => (.index entry.1, entry.2))

variable {state : State} {name : String} {map : Std.ExtTreeMap Nat String compare}

namespace Indexed

theorem exists_index (indexed : state.Indexed name) {suffix : String}
    (present : state.store.has (elementKey name suffix) = true) :
    ∃ n : Nat, suffix = toString n := by
  obtain ⟨n, digits⟩ := Text.isCanonical_iff.mp (indexed.canonical suffix present)
  exact ⟨n, toString_eq_iff.mpr digits⟩

theorem elements_eq (indexed : state.Indexed name) :
    state.elements name = state.indices name >>= (·.mapM (state.elementAt name)) := by
  have listing : state.ownElements name =
      state.indices name >>= (·.mapM (state.elementAt name)) := by
    rw [ownElements, indexed.plain, if_neg Bool.false_ne_true]
  rw [State.elements, indexed.ordinary, resolved_of_not_nameref indexed.direct]
  exact listing

/-- All suffixes are read as indices, if none is too long. -/
theorem exists_numbers (indexed : state.Indexed name) (readable : state.Readable name) :
    ∃ numbers : List Nat, numbers.map (fun n => toString n) = state.suffixes name ∧
      state.indices name = .ok (ascending numbers) := by
  have whole : ((state.suffixes name).filter fun suffix => Text.isIndex suffix.toList) =
      state.suffixes name := by
    refine List.filter_eq_self.mpr fun suffix member => ?_
    obtain ⟨n, rfl⟩ := indexed.exists_index (mem_suffixes.mp member)
    exact isIndex_toString n
  rw [← whole]
  exact readable.exists_numbers indexed.plain

theorem readable_of_indices (indexed : state.Indexed name) {numbers : List Nat}
    (read : state.indices name = .ok numbers) : state.Readable name := by
  refine State.readable_of_indices (fun suffix present _ => ?_) read
  obtain ⟨n, rfl⟩ := indexed.exists_index present
  rw [toString_eq_iff.mp rfl]
  exact Text.newline_notMem_toDigits n

/-- The indices of an array that holds a map are the keys of the map. -/
theorem indices_of_holds (indexed : state.Indexed name) (readable : state.Readable name)
    (holds : state.store.Holds name .index map) : state.indices name = .ok map.keys := by
  obtain ⟨numbers, spelled, read⟩ := indexed.exists_numbers readable
  have distinct : numbers.Nodup := by
    have nodup : (state.suffixes name).Nodup := nodup_suffixes
    rw [← spelled] at nodup
    exact nodup.of_map _
  have same : ascending numbers = map.keys := by
    refine eq_of_ordered (fun less => Nat.lt_asymm less) (pairwise_ascending distinct)
      (map.ordered_keys.imp Nat.compare_eq_lt.mp) fun n => ?_
    rw [(perm_ascending numbers).mem_iff, ← List.mem_map_of_injective toString_injective, spelled,
      mem_suffixes, Std.ExtTreeMap.mem_keys]
    exact holds.has_iff
  rw [read, same]

/-- An array that holds a map shows it. -/
theorem sparse (indexed : state.Indexed name) (readable : state.Readable name)
    (holds : state.store.Holds name .index map) : state.Sparse name map where
  toIndexed := indexed
  elements := by
    have each : ∀ index ∈ map.keys,
        state.elementAt name index = .ok (.index index, map[index]?.getD "") := by
      intro index member
      have stored := holds.values index
      rw [Std.ExtTreeMap.mem_keys, ← Std.ExtTreeMap.isSome_getElem?_iff_mem,
        Option.isSome_iff_exists] at member
      obtain ⟨value, found⟩ := member
      rw [found] at stored ⊢
      simp only [elementAt]
      rw [show state.store.get? (elementKey name (toString index)) = some value from stored]
      rfl
    rw [indexed.elements_eq, indexed.indices_of_holds readable holds]
    refine (mapM_eq_ok each).trans (congrArg Except.ok ?_)
    rw [← Std.ExtTreeMap.map_fst_toList_eq_keys, List.map_map]
    refine List.map_congr_left ?_
    rintro ⟨index, value⟩ member
    rw [Std.ExtTreeMap.mem_toList_iff_getElem?_eq_some] at member
    simp [member]

theorem exists_sparse (indexed : state.Indexed name) (readable : state.Readable name) :
    ∃ map, state.store.Holds name .index map ∧ state.Sparse name map := by
  obtain ⟨numbers, spelled, -⟩ := indexed.exists_numbers readable
  have distinct : Function.Injective fun index => (Key.index index).text := toString_injective
  obtain ⟨map, holds⟩ := Store.exists_holds distinct spelled
  exact ⟨map, holds, indexed.sparse readable holds⟩

/-- The store may change where the name has no value of its own, and still hold a map. -/
theorem sparse_of_store (indexed : state.Indexed name) {store : Store}
    (direct : store.isNameref name = false) (writable : store.isReadonly name = false)
    (unbound : store.get? name = none) (holds : store.Holds name .index map)
    (short : ∀ index ∈ map, index < Text.numberLimit) :
    State.Sparse { state with store := store } name map := by
  refine sparse ⟨⟨indexed.identifier, direct, writable⟩, indexed.plain, indexed.ordinary, unbound,
    fun suffix present => ?_⟩ ?_ holds
  · obtain ⟨index, rfl⟩ := holds.covers suffix present
    exact Text.isCanonical_iff.mpr ⟨index, toString_eq_iff.mp rfl⟩
  · intro _ suffix present _
    obtain ⟨index, rfl⟩ := holds.covers suffix present
    exact ⟨index, short index (holds.has_iff.mp present), rfl⟩

end Indexed

namespace Sparse

theorem readable (sparse : state.Sparse name map) : state.Readable name := by
  have listed := sparse.elements
  rw [sparse.elements_eq] at listed
  cases read : state.indices name with
  | ok numbers => exact sparse.readable_of_indices read
  | error fault =>
    rw [read] at listed
    contradiction

/-- What the listing shows is what the store holds. -/
theorem holds (sparse : state.Sparse name map) : state.store.Holds name .index map := by
  obtain ⟨second, holds, alsoSparse⟩ := sparse.exists_sparse sparse.readable
  have listed := sparse.elements.symm.trans alsoSparse.elements
  have distinct : Function.Injective Key.index := fun _ _ => Key.index.inj
  rwa [eq_of_listing distinct (Except.ok.inj listed)]

theorem short (sparse : state.Sparse name map) {index : Nat} (member : index ∈ map) :
    index < Text.numberLimit := by
  have present := sparse.holds.has_iff.mpr member
  obtain ⟨n, small, spelled⟩ := sparse.readable sparse.plain _ present (isIndex_toString index)
  rwa [toString_injective spelled]

theorem indices (sparse : state.Sparse name map) : state.indices name = .ok map.keys :=
  sparse.indices_of_holds sparse.readable sparse.holds

theorem hasAttribute_markIndexed (store : Store) {letter : String}
    (other : letter ≠ Attribute.indexed) :
    (store.addAttribute name Attribute.indexed).hasAttribute name letter =
      store.hasAttribute name letter := by
  rw [Store.hasAttribute_addAttribute, beq_false_of_ne other.symm, Bool.and_false, Bool.false_or]

/-- The state in which an element is put at an index. -/
theorem put (sparse : state.Sparse name map) (index : Nat) (value : String)
    (small : index < Text.numberLimit) :
    State.Sparse { state with
      store := (state.store.put (elementKey name (toString index)) value).addAttribute name
        Attribute.indexed } name (map.insert index value) := by
  refine sparse.sparse_of_store ((hasAttribute_markIndexed _ (by decide)).trans sparse.direct)
    ((hasAttribute_markIndexed _ (by decide)).trans sparse.writable) ?_ ?_ fun place member => ?_
  · rw [Store.get?_addAttribute, Store.get?_put, if_neg (elementKey_ne_self name _), sparse.unbound]
  · exact (sparse.holds.put toString_injective index value).congr fun _ => rfl
  · rcases Std.ExtTreeMap.mem_insert.mp member with same | before
    · rwa [← Std.LawfulEqOrd.eq_of_compare same]
    · exact sparse.short before

/-- The state in which the element at an index is dropped. -/
theorem drop (sparse : state.Sparse name map) (index : Nat) :
    State.Sparse { state with store := state.store.drop (elementKey name (toString index)) } name
      (map.erase index) := by
  refine sparse.sparse_of_store sparse.direct sparse.writable ?_
    (sparse.holds.drop toString_injective index) fun place member => ?_
  · rw [Store.get?_drop, if_neg (elementKey_ne_self name _), sparse.unbound]
  · exact sparse.short (Std.ExtTreeMap.mem_of_mem_erase member)

end Sparse

end State

end Shell
