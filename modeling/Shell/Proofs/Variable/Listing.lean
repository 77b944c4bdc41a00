import Shell.Proofs.Variable.Growth
import Shell.Proofs.Variable.Sparse

/-!
# Listing an indexed array

The elements of an array are found by what follows its name in the keys of the store. The listing
of an array that is not associative is well defined exactly if every one of these texts that passes
for an index is the decimal text of a number that can be read. A run of calls keeps all arrays so,
if the names and keys that it writes are no such texts themselves.
-/

namespace Shell

/-- Items that are read as the same are the same, if no two results are. -/
theorem eq_of_mapM_nodup {ε α β : Type} {read : α → Except ε β} {items : List α}
    {results : List β} (ran : items.mapM read = .ok results) (distinct : results.Nodup)
    {first second : α} (inItems : first ∈ items) (alsoIn : second ∈ items) {result : β}
    (readFirst : read first = .ok result) (readSecond : read second = .ok result) :
    first = second := by
  induction items generalizing results with
  | nil => contradiction
  | cons item rest inductionHypothesis =>
    obtain ⟨own, others, head, tail, rfl⟩ := mapM_cons_eq_ok_iff.mp ran
    obtain ⟨fresh, distinctOthers⟩ := List.nodup_cons.mp distinct
    -- An item behind the first one with its result would make that result occur twice.
    have apart : ∀ other ∈ rest, read other = .ok result → own ≠ result := by
      rintro other member same rfl
      obtain ⟨found, inOthers, readOther⟩ := exists_of_mapM_eq_ok tail member
      rw [same] at readOther
      cases readOther
      exact fresh inOthers
    rcases List.mem_cons.mp inItems with rfl | laterFirst
    · rcases List.mem_cons.mp alsoIn with rfl | laterSecond
      · rfl
      · exact absurd (Except.ok.inj (head.symm.trans readFirst)) (apart _ laterSecond readSecond)
    · rcases List.mem_cons.mp alsoIn with rfl | laterSecond
      · exact absurd (Except.ok.inj (head.symm.trans readSecond)) (apart _ laterFirst readFirst)
      · exact inductionHypothesis tail distinctOthers laterFirst laterSecond

namespace State

variable {state : State} {name : String}

/-- The listing of an array succeeds: its indices ascend, and it shows what the store holds under
the decimal texts of numbers, and nothing else. -/
structure ListsBindings (state : State) (name : String) (listed : List (Nat × String)) : Prop where
  elements : state.elements name = .ok (listed.map fun entry => (.index entry.1, entry.2))
  ascending : (listed.map Prod.fst).Pairwise (· < ·)
  bindings : ∀ index value, (index, value) ∈ listed ↔
    state.store.get? (elementKey name (toString index)) = some value

section Listing

/-- A suffix that passes for an index spells the number that it is read as, before one newline. -/
theorem lt_numberLimit_of_readIndex {suffix : String} {n : Nat}
    (index : Text.isIndex suffix.toList = true) (read : readIndex suffix = .ok n) :
    n < Text.numberLimit := by
  obtain ⟨spelled, digits⟩ := Text.isCanonical_iff.mp index
  unfold readIndex at read
  dsimp only at read
  rw [digits, Text.readNat?_toDigits] at read
  split at read
  · rename_i value found
    obtain ⟨short, same⟩ := Option.ite_none_right_eq_some.mp found
    cases read
    rwa [← Option.some.inj same]
  · contradiction

theorem elements_of_indexed (direct : state.store.isNameref name = false)
    (indexed : state.isAssociative name = false) (ordinary : state.callArray? name = none) :
    state.elements name = state.indices name >>= (·.mapM (state.elementAt name)) := by
  rw [State.elements, ordinary, resolved_of_not_nameref direct]
  change state.ownElements name = _
  rw [ownElements, indexed]
  rfl

theorem elementAt_eq_ok_iff {index : Nat} {entry : Key × String} :
    state.elementAt name index = .ok entry ↔
      ∃ value, state.store.get? (elementKey name (toString index)) = some value ∧
        entry = (.index index, value) := by
  unfold elementAt
  dsimp only
  cases state.store.get? (elementKey name (toString index)) with
  | none => simp
  | some value => simp [eq_comm]

/-- The elements at some indices come in the order of the indices. -/
theorem map_fst_of_mapM_elementAt {numbers : List Nat} {entries : List (Key × String)}
    (ran : numbers.mapM (state.elementAt name) = .ok entries) :
    entries.map Prod.fst = numbers.map Key.index := by
  induction numbers generalizing entries with
  | nil =>
    cases ran
    rfl
  | cons first rest inductionHypothesis =>
    obtain ⟨entry, others, head, tail, rfl⟩ := mapM_cons_eq_ok_iff.mp ran
    obtain ⟨value, -, rfl⟩ := elementAt_eq_ok_iff.mp head
    simp [inductionHypothesis tail]

/-- Indices of which no two are the same and which all lead to elements are spelled as the decimal
texts of numbers. -/
theorem readable_of_nodup_indices {numbers : List Nat} (read : state.indices name = .ok numbers)
    (distinct : numbers.Nodup)
    (present : ∀ n ∈ numbers, state.store.has (elementKey name (toString n)) = true) :
    state.Readable name := by
  intro _ suffix stored index
  obtain ⟨unordered, ran, rfl⟩ := indices_eq_ok_iff.mp read
  have member : suffix ∈ (state.suffixes name).filter fun suffix => Text.isIndex suffix.toList :=
    List.mem_filter.mpr ⟨mem_suffixes.mpr stored, index⟩
  obtain ⟨n, inNumbers, readIt⟩ := exists_of_mapM_eq_ok ran member
  have short := lt_numberLimit_of_readIndex index readIt
  -- The number leads to an element, so that its own decimal text is a suffix as well.
  have alsoPresent := present n ((perm_ascending unordered).mem_iff.mpr inNumbers)
  have spelled : toString n ∈
      (state.suffixes name).filter fun suffix => Text.isIndex suffix.toList :=
    List.mem_filter.mpr ⟨mem_suffixes.mpr alsoPresent, isIndex_toString n⟩
  have nodup := (perm_ascending unordered).nodup_iff.mp distinct
  exact ⟨n, short, eq_of_mapM_nodup ran nodup member spelled readIt (readIndex_toString short)⟩

variable (direct : state.store.isNameref name = false)
  (indexed : state.isAssociative name = false) (ordinary : state.callArray? name = none)

include direct indexed ordinary

/-- What is listed can be read, and no index is listed twice. -/
theorem ListsBindings.readable {listed : List (Nat × String)}
    (lists : state.ListsBindings name listed) : state.Readable name := by
  have found := lists.elements
  rw [elements_of_indexed direct indexed ordinary] at found
  cases read : state.indices name with
  | error fault =>
    rw [read] at found
    contradiction
  | ok numbers =>
    rw [read] at found
    have order : listed.map Prod.fst = numbers := by
      have shown := map_fst_of_mapM_elementAt found
      rw [List.map_map] at shown
      apply List.map_injective_iff.mpr fun _ _ => Key.index.inj
      rw [← shown, List.map_map]
      rfl
    have ascends := lists.ascending
    rw [order] at ascends
    refine readable_of_nodup_indices read (ascends.imp Nat.ne_of_lt) fun n member => ?_
    rw [← order] at member
    obtain ⟨⟨_, value⟩, inListed, rfl⟩ := List.mem_map.mp member
    rw [Store.has_eq_isSome_get?, (lists.bindings _ value).mp inListed]
    rfl

/-- Where all indices can be read, the listing is that of the numbers they spell. -/
theorem exists_listsBindings (readable : state.Readable name) :
    ∃ listed, state.ListsBindings name listed := by
  obtain ⟨numbers, spelled, listing⟩ := readable.exists_numbers indexed
  have mem : ∀ n : Nat, n ∈ numbers ↔ state.store.has (elementKey name (toString n)) = true := by
    intro n
    rw [← mem_suffixes, ← List.mem_map_of_injective toString_injective, spelled, List.mem_filter]
    exact and_iff_left (isIndex_toString n)
  have distinct : numbers.Nodup := by
    have nodup : ((state.suffixes name).filter fun suffix => Text.isIndex suffix.toList).Nodup :=
      nodup_suffixes.filter _
    rw [← spelled] at nodup
    exact nodup.of_map _
  have stored : ∀ n ∈ ascending numbers, ∃ value,
      state.store.get? (elementKey name (toString n)) = some value := by
    intro n member
    have present := (mem n).mp ((perm_ascending numbers).mem_iff.mp member)
    rwa [Store.has_eq_isSome_get?, Option.isSome_iff_exists] at present
  let valueAt (n : Nat) : String := (state.store.get? (elementKey name (toString n))).getD ""
  have shown : ∀ {n : Nat} {value : String},
      state.store.get? (elementKey name (toString n)) = some value → valueAt n = value := by
    intro n value found
    exact (congrArg (·.getD "") found).trans rfl
  refine ⟨(ascending numbers).map fun n => (n, valueAt n), ?_, ?_, ?_⟩
  · have each : ∀ n ∈ ascending numbers,
        state.elementAt name n = .ok (.index n, valueAt n) := by
      intro n member
      obtain ⟨value, found⟩ := stored n member
      exact elementAt_eq_ok_iff.mpr ⟨value, found, by rw [shown found]⟩
    rw [elements_of_indexed direct indexed ordinary, listing, List.map_map]
    exact mapM_eq_ok each
  · simpa [List.map_map, Function.comp_def] using pairwise_ascending distinct
  · intro index value
    simp only [List.mem_map, Prod.mk.injEq]
    constructor
    · rintro ⟨n, member, rfl, rfl⟩
      obtain ⟨value, found⟩ := stored n member
      rw [shown found, found]
    · intro found
      refine ⟨index, (perm_ascending numbers).mem_iff.mpr ((mem index).mpr ?_), rfl, shown found⟩
      rw [Store.has_eq_isSome_get?, found]
      rfl

end Listing

/-- Whatever array the key is an element of, what passes for its index is the decimal text of a
number that can be read. -/
def SpellsIndices (key : String) : Prop :=
  ∀ array suffix, key = elementKey array suffix → Text.isIndex suffix.toList = true →
    ∃ n < Text.numberLimit, suffix = toString n

theorem spellsIndices_of_notMem {key : String} (single : '_' ∉ key.toList) : SpellsIndices key := by
  rintro array suffix rfl
  simp at single

theorem elementKey_elementKey (array inner suffix : String) :
    elementKey (elementKey array inner) suffix = elementKey array (elementKey inner suffix) := by
  simp [elementKey, String.append_assoc]

/-- A key of an associative array is an index of that array, or one of an array whose name is longer
and ends inside of the key. -/
theorem spellsIndices_elementKey_iff {array key : String} :
    SpellsIndices (elementKey array key) ↔
      (Text.isIndex key.toList = true → ∃ n < Text.numberLimit, key = toString n) ∧
        SpellsIndices key := by
  constructor
  · intro spells
    refine ⟨spells array key rfl, ?_⟩
    rintro inner suffix rfl
    exact spells (elementKey array inner) suffix (elementKey_elementKey array inner suffix).symm
  · rintro ⟨own, spells⟩ other suffix same index
    rcases elementKey_eq_elementKey same with rfl | ⟨inner, rfl⟩ | ⟨inner, rfl⟩
    · obtain rfl := elementKey_inj.mp same
      exact own index
    · rw [elementKey_elementKey] at same
      exact spells inner suffix (elementKey_inj.mp same) index
    · -- The suffix would have to hold the underscore in front of the key.
      rw [elementKey_elementKey] at same
      obtain rfl := elementKey_inj.mp same
      exact absurd (by simp) (Text.underscore_notMem_of_isIndex index)

theorem spellsIndices_index (array : String) {n : Nat} (short : n < Text.numberLimit) :
    SpellsIndices (elementKey array (toString n)) := by
  refine spellsIndices_elementKey_iff.mpr ⟨fun _ => ⟨n, short, rfl⟩, spellsIndices_of_notMem ?_⟩
  exact Text.underscore_notMem_of_isIndex (isIndex_toString n)

/-- After any calls, the listing of a name that is not that of an associative array, of a nameref or
of the call stack is well defined exactly if every key that extends it by what passes for an index
extends it by the decimal text of a number that can be read. If the calls start from an empty store
and are on identifiers, that is so for all names, as long as no scalar and no key of an associative
array puts in a key that passes for an element at another index. -/
theorem listing_is_well_defined_iff (start : State) (calls : List Assignment) {name : String}
    (indexed : (performAll calls start).isAssociative name = false)
    (ordinary : (performAll calls start).callArray? name = none) :
    ((performAll calls start).store.isNameref name = false →
      ((∃ listed, (performAll calls start).ListsBindings name listed) ↔
        (performAll calls start).Readable name)) ∧
    (start.store = {} → (∀ call ∈ calls, Text.isIdentifier call.name.toList = true) →
      AddsOnly SpellsIndices start calls →
        ∃ listed, (performAll calls start).ListsBindings name listed) := by
  refine ⟨fun direct => ⟨?_, exists_listsBindings direct indexed ordinary⟩, ?_⟩
  · rintro ⟨listed, lists⟩
    exact lists.readable direct indexed ordinary
  · intro empty identifiers adds
    have unhindered := unhindered_of_empty empty
    have grows := unhindered.grows_performAll identifiers adds
    have direct : (performAll calls start).store.isNameref name = false :=
      grows.unhindered_of unhindered name _ (by decide)
    apply exists_listsBindings direct indexed ordinary
    intro _ suffix present index
    rcases grows.keys _ present with before | spells
    · simp [empty, Store.has] at before
    · exact spells name suffix rfl index

/-- An array with a gap, and an associative array with keys that have underscores in them. -/
def tidyCalls : List Assignment :=
  [.array "a" ["p", "q"], .element "a" "5" "r",
    .associativeArray "m" [("k_0", "v"), ("1\n_", "w")], .scalar "x" "y", .unset "x"]

theorem addsOnly_tidyCalls : AddsOnly SpellsIndices {} tidyCalls := by
  simp only [tidyCalls, AddsOnly, and_true]
  refine ⟨?_, ?_, ?_, ?_, ?_⟩
  · rintro key ⟨n, short, rfl⟩
    exact spellsIndices_index "a" short
  · intro key added
    rw [Assignment.Adds, if_neg (by decide +kernel)] at added
    obtain ⟨n, short, rfl⟩ := added
    exact spellsIndices_index "a" short
  · have inner : SpellsIndices "k_0" := by
      rw [show "k_0" = elementKey "k" (toString 0) by decide +kernel]
      exact spellsIndices_index "k" Text.numberLimit_pos
    have noIndex : SpellsIndices "1\n_" := by
      rw [show "1\n_" = elementKey "1\n" "" by decide +kernel, spellsIndices_elementKey_iff]
      exact ⟨fun index => absurd index (by decide), spellsIndices_of_notMem (by decide)⟩
    rintro key ⟨item, member, rfl⟩
    rcases List.mem_cons.mp member with rfl | last
    · exact spellsIndices_elementKey_iff.mpr ⟨fun index => absurd index (by decide), inner⟩
    · obtain rfl := List.mem_singleton.mp last
      exact spellsIndices_elementKey_iff.mpr ⟨fun index => absurd index (by decide), noIndex⟩
  · rintro key rfl
    exact spellsIndices_of_notMem (by decide)
  · intro key added
    contradiction

theorem tidyCalls_are_listed :
    AddsOnly SpellsIndices {} tidyCalls ∧
      (∃ listed, (performAll tidyCalls {}).ListsBindings "a" listed) ∧
      (∃ listed, (performAll tidyCalls {}).ListsBindings "m_k" listed) ∧
      (performAll tidyCalls {}).elements "a" =
        .ok [(.index 0, "p"), (.index 1, "q"), (.index 5, "r")] := by
  have own := @listing_is_well_defined_iff {} tidyCalls "a" (by decide +kernel) rfl
  have inner := @listing_is_well_defined_iff {} tidyCalls "m_k" (by decide +kernel) rfl
  exact ⟨addsOnly_tidyCalls, own.2 rfl (by decide) addsOnly_tidyCalls,
    inner.2 rfl (by decide) addsOnly_tidyCalls, by decide +kernel⟩

/-- A key of an associative array that ends in an index and a newline. -/
def newlineCalls : List Assignment := [.associativeArray "a" [("b_1\n", "v")]]

/-- The listing of an array that nothing was written to looks up a key that is not there. -/
theorem newlineCalls_are_not_listed :
    (performAll newlineCalls {}).store.isNameref "a_b" = false ∧
      (performAll newlineCalls {}).isAssociative "a_b" = false ∧
      (performAll newlineCalls {}).callArray? "a_b" = none ∧
      (performAll newlineCalls {}).elements "a_b" = .error (.missingKey "a_b_1") := by
  decide +kernel

end State

end Shell
