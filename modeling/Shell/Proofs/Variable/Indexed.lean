import Shell.Proofs.Variable.Constant
import Shell.Proofs.Variable.ElementZero
import Shell.Proofs.Variable.Sparse

/-!
# Reading and writing indexed arrays

Four operations take a subscript: reading an element, testing whether it is set,
assigning it and unsetting it. All four come to the same index by it, also where it
counts back from the end of an array that the writes themselves change. Together with
the replacement of a whole array by a list, they make an indexed array a sparse map
over the natural numbers. What sets a limit to that are indices with more digits than
numerals may have.
-/

namespace Shell.State

open Running

variable {state : State} {name : String} {map : Std.ExtTreeMap Nat String compare}

/-- One more than the highest index of a map. -/
def extent (map : Std.ExtTreeMap Nat String compare) : Nat := (map.maxKey?.map (· + 1)).getD 0

/-- A subscript addresses an index of an array: reading the element, testing whether it is set,
assigning it and unsetting it all go to that index of the map. -/
structure Addresses (state : State) (name : String) (map : Std.ExtTreeMap Nat String compare)
    (subscript : String) (index : Nat) : Prop where
  value : state.value (Reference.text ⟨name, subscript⟩) = pure (map[index]?.getD "")
  isSet : state.isSet (Reference.text ⟨name, subscript⟩) = pure map[index]?.isSome
  assign : ∀ value, ∃ last, execute (setElement name subscript value) state = (.ok (), last) ∧
    last.Sparse name (map.insert index value)
  unset : ∃ last, execute (unset (Reference.text ⟨name, subscript⟩)) state = (.ok (), last) ∧
    last.Sparse name (map.erase index)

/-- A subscript that addresses no element: it reads as unset, and is neither assigned nor unset. -/
structure Rejects (state : State) (name subscript : String) : Prop where
  value : state.value (Reference.text ⟨name, subscript⟩) = pure ""
  isSet : state.isSet (Reference.text ⟨name, subscript⟩) = pure false
  assign : ∀ value, ∃ fault, execute (setElement name subscript value) state = (.error fault, state)
  unset : ∃ fault, execute (unset (Reference.text ⟨name, subscript⟩)) state = (.error fault, state)

section Subscript

variable {subscript : String} {index : Nat}

theorem Sparse.normalIndex?_neg (sparse : state.Sparse name map) {k : Nat} (positive : 1 ≤ k) :
    state.normalIndex? name (-(k : Int)) =
      .ok (if k ≤ extent map then some (extent map - k) else none) := by
  have listed : map.keys.getLast? = map.maxKey? := Std.ExtTreeMap.maxKey?_eq_getLast?_keys.symm
  rw [normalIndex?, if_neg (by omega), sparse.indices, extent]
  dsimp only [bind, Except.bind]
  rw [listed]
  cases map.maxKey? with
  | none => simp [Nat.not_le.mpr positive, pure, Except.pure]
  | some last =>
    simp only [Option.map_some, Option.getD_some, pure, Except.pure, Except.ok.injEq]
    by_cases inside : k ≤ last + 1
    · rw [if_pos inside, if_pos (by omega)]
      congr 1
      omega
    · rw [if_neg inside, if_neg (by omega)]

/-- An element is assigned under the index that the subscript comes to. -/
theorem Indexed.execute_setElement (indexed : state.Indexed name)
    {result : Except Fault (Option Nat)}
    (named : state.subscriptIndex state.value name subscript = MonadExcept.ofExcept result)
    (value : String) :
    execute (setElement name subscript value) state = execute (do
      match ← MonadExcept.ofExcept result with
      | none => throw (.badSubscript name subscript)
      | some index => storeAt name index value : Write Unit) state := by
  have drawn : execute (reading fun state => state.subscriptIndex state.value name subscript)
      state = (result, state) := execute_reading_ofExcept named
  rw [setElement, execute_get_bind, resolve?_of_not_nameref indexed.direct]
  dsimp only
  rw [execute_bind_of_ok (execute_checkWritable_of_not indexed.writable), execute_get_bind,
    indexed.plain, if_neg Bool.false_ne_true, execute_bind, drawn]
  rcases result with fault | _ | index
  · rfl
  · rfl
  · dsimp only
    rw [putElement, execute_get_bind, indexed.unbound]
    rfl

section Single

variable (single : isWhole subscript = false)

include single

namespace Indexed

variable (indexed : state.Indexed name)

include indexed

theorem element_eq (read : String → Draw String) :
    state.element read ⟨name, subscript⟩ = (do
      match (← (state.subscriptIndex read name subscript).recover).join with
      | none => pure ""
      | some index =>
        let key ← MonadExcept.ofExcept (indexKey name index)
        pure ((state.store.get? key).getD "")) := by
  dsimp only [State.element]
  rw [resolved_of_not_nameref indexed.direct, indexed.ordinary, indexed.plain, single,
    indexed.unbound]
  refine bind_congr fun answer => ?_
  cases answer.join with
  | none => rfl
  | some index =>
    refine bind_congr fun key => ?_
    cases state.store.get? key <;> simp

theorem isElementSet_eq :
    state.isElementSet ⟨name, subscript⟩ = (do
      match (← (state.subscriptIndex state.value name subscript).recover).join with
      | none => pure false
      | some index =>
        let key ← MonadExcept.ofExcept (indexKey name index)
        pure (state.store.has key)) := by
  dsimp only [isElementSet]
  rw [resolved_of_not_nameref indexed.direct, indexed.ordinary, indexed.plain, single,
    Store.has_eq_isSome_get? state.store name, indexed.unbound]
  refine bind_congr fun answer => ?_
  cases answer.join with
  | none => rfl
  | some index => simp

/-- An element is unset under the index that the subscript comes to. -/
theorem execute_unset (nonempty : subscript ≠ "") {result : Except Fault (Option Nat)}
    (named : state.subscriptIndex state.value name subscript = MonadExcept.ofExcept result) :
    execute (State.unset (Reference.text ⟨name, subscript⟩)) state = execute (do
      match ← MonadExcept.ofExcept result with
      | none => throw (.badSubscript name subscript)
      | some index => do
        let key ← MonadExcept.ofExcept (indexKey name index)
        changeStore (·.drop key) : Write Unit) state := by
  have parsed : Reference.parse? (Reference.text ⟨name, subscript⟩) = some ⟨name, subscript⟩ :=
    Reference.parse?_text indexed.identifier nonempty
  rw [execute_unset_text parsed indexed.direct single,
    execute_bind_of_ok (execute_checkWritable_of_not indexed.writable)]
  exact execute_dropElement_of_index indexed.plain named

end Indexed

variable (nonempty : subscript ≠ "")

include nonempty

/-- An index that can be spelled is the same one in all four operations. -/
theorem Sparse.addresses (sparse : state.Sparse name map)
    (named : ∀ read, state.subscriptIndex read name subscript = pure (some index))
    (short : index < Text.numberLimit) : state.Addresses name map subscript index := by
  have parsed : Reference.parse? (Reference.text ⟨name, subscript⟩) = some ⟨name, subscript⟩ :=
    Reference.parse?_text sparse.identifier nonempty
  have stored : state.store.get? (elementKey name (toString index)) = map[index]? :=
    sparse.holds.values index
  have key : indexKey name index = .ok (elementKey name (toString index)) := indexKey_of_lt short
  have comes : state.subscriptIndex state.value name subscript =
      MonadExcept.ofExcept (.ok (some index)) := named _
  refine ⟨?_, ?_, fun value => ?_, ?_⟩
  · obtain ⟨read, element⟩ := value_text parsed
    rw [element, sparse.element_eq single, named, ← stored]
    change (do
      let key ← MonadExcept.ofExcept (indexKey name index)
      pure ((state.store.get? key).getD "") : Draw String) = _
    rw [key]
    rfl
  · rw [isSet_text parsed, sparse.isElementSet_eq single, named, ← stored]
    change (do
      let key ← MonadExcept.ofExcept (indexKey name index)
      pure (state.store.has key) : Draw Bool) = _
    rw [key, ← Store.has_eq_isSome_get?]
    rfl
  · refine ⟨_, ?_, sparse.put index value short⟩
    rw [sparse.execute_setElement comes]
    change execute (storeAt name index value) state = _
    rw [storeAt, key]
    rfl
  · refine ⟨_, ?_, sparse.drop index⟩
    rw [sparse.execute_unset single nonempty comes]
    change execute (do
      let key ← MonadExcept.ofExcept (indexKey name index)
      changeStore (·.drop key) : Write Unit) state = _
    rw [key]
    rfl

/-- A subscript that comes to no index, or to a fault that is forgotten when reading. -/
theorem Indexed.rejects (indexed : state.Indexed name) {result : Except Fault (Option Nat)}
    (named : ∀ read, state.subscriptIndex read name subscript = MonadExcept.ofExcept result)
    (lost : result = .ok none ∨ ∃ fault, result = .error fault ∧ fault.isRecoverable = true) :
    state.Rejects name subscript := by
  have parsed : Reference.parse? (Reference.text ⟨name, subscript⟩) = some ⟨name, subscript⟩ :=
    Reference.parse?_text indexed.identifier nonempty
  have missing : ∃ answer, answer.join = none ∧
      (MonadExcept.ofExcept result : Draw (Option Nat)).recover = pure answer := by
    rcases lost with rfl | ⟨fault, rfl, recoverable⟩
    · exact ⟨some none, rfl, rfl⟩
    · refine ⟨none, rfl, ?_⟩
      change (if fault.isRecoverable = true then pure none else throw fault : Draw _) = pure none
      rw [if_pos recoverable]
  obtain ⟨answer, nowhere, recovered⟩ := missing
  refine ⟨?_, ?_, fun value => ?_, ?_⟩
  · obtain ⟨read, element⟩ := value_text parsed
    rw [element, indexed.element_eq single, named, recovered, pure_bind, nowhere]
  · rw [isSet_text parsed, indexed.isElementSet_eq single, named, recovered, pure_bind, nowhere]
  · rw [indexed.execute_setElement (named _)]
    rcases lost with rfl | ⟨fault, rfl, -⟩
    · exact ⟨_, rfl⟩
    · exact ⟨_, rfl⟩
  · rw [indexed.execute_unset single nonempty (named _)]
    rcases lost with rfl | ⟨fault, rfl, -⟩
    · exact ⟨_, rfl⟩
    · exact ⟨_, rfl⟩

end Single

/-- No subscript both addresses an index and is rejected. -/
theorem Addresses.not_rejects (addresses : state.Addresses name map subscript index) :
    ¬ state.Rejects name subscript := by
  intro rejects
  obtain ⟨last, assigned, -⟩ := addresses.assign ""
  obtain ⟨fault, refused⟩ := rejects.assign ""
  cases assigned.symm.trans refused

end Subscript

section Numeral

variable (read : String → Draw String) (n : Nat)

theorem subscriptIndex_toString (short : n < Text.numberLimit) :
    state.subscriptIndex read name (toString n) = pure (some n) := by
  rw [subscriptIndex, Subscript.evaluate_toString, Subscript.numeral, if_pos short, pure_bind,
    normalIndex?, if_pos (Int.natCast_nonneg n)]
  rfl

theorem subscriptIndex_toString_of_le (long : Text.numberLimit ≤ n) :
    state.subscriptIndex read name (toString n) =
      MonadExcept.ofExcept (.error (.numeralTooLong (Nat.toDigits 10 n).length)) := by
  rw [subscriptIndex, Subscript.evaluate_toString, Subscript.numeral, if_neg (Nat.not_lt.mpr long)]
  rfl

theorem Sparse.subscriptIndex_negative (sparse : state.Sparse name map) {k : Nat}
    (positive : 1 ≤ k) (short : k < Text.numberLimit) :
    state.subscriptIndex read name ("-" ++ toString k) =
      pure (if k ≤ extent map then some (extent map - k) else none) := by
  rw [subscriptIndex, Subscript.evaluate_negative, Subscript.numeral, if_pos short, map_pure,
    pure_bind, sparse.normalIndex?_neg positive]
  rfl

theorem subscriptIndex_negative_of_le (long : Text.numberLimit ≤ n) :
    state.subscriptIndex read name ("-" ++ toString n) =
      MonadExcept.ofExcept (.error (.numeralTooLong (Nat.toDigits 10 n).length)) := by
  rw [subscriptIndex, Subscript.evaluate_negative, Subscript.numeral, if_neg (Nat.not_lt.mpr long)]
  rfl

theorem single_toString : isWhole (toString n) = false ∧ toString n ≠ "" := by
  have spelled : (toString n).toList = Nat.toDigits 10 n := toString_eq_iff.mp rfl
  cases digits : Nat.toDigits 10 n with
  | nil => exact absurd digits Nat.toDigits_ne_nil
  | cons c rest =>
    have digit : c.isDigit = true := Text.isDigit_of_mem_toDigits (digits ▸ List.mem_cons_self)
    rw [digits] at spelled
    refine ⟨Subscript.isWhole_of_head spelled ⟨?_, ?_⟩, Subscript.ne_empty_of_head spelled⟩
    · rintro rfl
      contradiction
    · rintro rfl
      contradiction

theorem single_negative : isWhole ("-" ++ toString n) = false ∧ "-" ++ toString n ≠ "" := by
  have spelled : ("-" ++ toString n).toList = '-' :: (toString n).toList := String.toList_append
  exact ⟨Subscript.isWhole_of_head spelled (by decide), Subscript.ne_empty_of_head spelled⟩

/-- A decimal text addresses its number, if it is not too long to be read. -/
theorem Sparse.addresses_toString_iff (sparse : state.Sparse name map) :
    state.Addresses name map (toString n) n ↔ n < Text.numberLimit := by
  obtain ⟨single, nonempty⟩ := single_toString n
  constructor
  · intro addresses
    by_contra long
    refine addresses.not_rejects (sparse.rejects single nonempty
      (fun read => subscriptIndex_toString_of_le read n (Nat.not_lt.mp long)) ?_)
    exact .inr ⟨_, rfl, rfl⟩
  · intro short
    exact sparse.addresses single nonempty (fun read => subscriptIndex_toString read n short) short

/-- No index below the extent is too long. -/
theorem Sparse.short_of_lt_extent (sparse : state.Sparse name map) {index : Nat}
    (below : index < extent map) : index < Text.numberLimit := by
  unfold extent at below
  cases highest : map.maxKey? with
  | none =>
    rw [highest] at below
    simp at below
  | some last =>
    rw [highest] at below
    have member : last ∈ map := (Std.ExtTreeMap.maxKey?_eq_some_iff_mem_and_forall.mp highest).1
    have limit := sparse.short member
    simp only [Option.map_some, Option.getD_some] at below
    omega

/-- Subscripts with a minus sign count back from the end. -/
theorem Sparse.addresses_negative_iff (sparse : state.Sparse name map) {k : Nat} (positive : 1 ≤ k)
    (inside : k ≤ extent map) :
    state.Addresses name map ("-" ++ toString k) (extent map - k) ↔ k < Text.numberLimit := by
  obtain ⟨single, nonempty⟩ := single_negative k
  constructor
  · intro addresses
    by_contra long
    refine addresses.not_rejects (sparse.rejects single nonempty
      (fun read => subscriptIndex_negative_of_le read k (Nat.not_lt.mp long)) ?_)
    exact .inr ⟨_, rfl, rfl⟩
  · intro short
    refine sparse.addresses single nonempty (fun read => ?_)
      (sparse.short_of_lt_extent (by omega))
    rw [sparse.subscriptIndex_negative read positive short, if_pos inside]

/-- Beyond the beginning of the array there is nothing to count back to. -/
theorem Sparse.rejects_negative (sparse : state.Sparse name map) {k : Nat}
    (outside : extent map < k) : state.Rejects name ("-" ++ toString k) := by
  obtain ⟨single, nonempty⟩ := single_negative k
  by_cases short : k < Text.numberLimit
  · refine sparse.rejects single nonempty (fun read => ?_) (.inl rfl)
    rw [sparse.subscriptIndex_negative read (by omega) short, if_neg (by omega)]
    rfl
  · refine sparse.rejects single nonempty
      (fun read => subscriptIndex_negative_of_le read k (Nat.not_lt.mp short)) ?_
    exact .inr ⟨_, rfl, rfl⟩

end Numeral

section Values

/-- The store with values put at indices in a row. -/
def putFrom (array : String) (store : Store) : (index : Nat) → List String → Store
  | _, [] => store
  | index, value :: rest =>
    putFrom array (store.put (elementKey array (toString index)) value) (index + 1) rest

variable {array : String} {values : List String} {index : Nat}

theorem attributes_putFrom (store : Store) :
    (putFrom array store index values).attributes = store.attributes := by
  induction values generalizing index store with
  | nil => rfl
  | cons value rest inductionHypothesis => exact inductionHypothesis _

theorem get?_putFrom (store : Store) :
    (putFrom array store index values).get? array = store.get? array := by
  induction values generalizing index store with
  | nil => rfl
  | cons value rest inductionHypothesis =>
    rw [putFrom, inductionHypothesis, Store.get?_put, if_neg (elementKey_ne_self array _)]

/-- Values in a row go to the indices from the first one on. -/
theorem exists_holds_putFrom {store : Store} (holds : store.Holds array .index map) :
    ∃ second : Std.ExtTreeMap Nat String compare,
      (putFrom array store index values).Holds array .index second ∧
      ∀ place, second[place]? = if place < index then map[place]?
        else values[place - index]?.or map[place]? := by
  induction values generalizing index store map with
  | nil => exact ⟨map, holds, fun place => by simp⟩
  | cons value rest inductionHypothesis =>
    obtain ⟨second, filled, entries⟩ :=
      @inductionHypothesis _ (index + 1) _ (holds.put toString_injective index value)
    refine ⟨second, filled, fun place => ?_⟩
    rw [entries, Std.ExtTreeMap.getElem?_insert]
    rcases Nat.lt_trichotomy place index with before | rfl | after
    · simp [before, Nat.lt_succ_of_lt before, before.ne']
    · simp
    · obtain ⟨gap, rfl⟩ : ∃ gap, place = index + 1 + gap := ⟨place - (index + 1), by omega⟩
      have position : index + 1 + gap - index = gap + 1 := by omega
      have apart : compare index (index + 1 + gap) ≠ .eq := by
        intro same
        have equality := Std.LawfulEqOrd.eq_of_compare same
        omega
      have fromNext : ¬ index + 1 + gap < index + 1 := by omega
      have fromHere : ¬ index + 1 + gap < index := by omega
      rw [if_neg fromNext, if_neg apart, if_neg fromHere, position, List.getElem?_cons_succ,
        Nat.add_sub_cancel_left]

theorem execute_putElements (fits : index + values.length ≤ Text.numberLimit) (state : State) :
    execute (putElements array index values) state =
      (.ok (), { state with store := putFrom array state.store index values }) := by
  induction values generalizing index state with
  | nil => rfl
  | cons value rest inductionHypothesis =>
    rw [List.length_cons] at fits
    have key : execute (MonadExcept.ofExcept (indexKey array index) : Write String) state =
        (.ok (elementKey array (toString index)), state) := by
      rw [execute_ofExcept, indexKey_of_lt (by omega)]
    rw [putElements, execute_bind_of_ok key, execute_bind_of_ok (execute_changeStore _ state),
      inductionHypothesis (by omega)]
    rfl

/-- Values that were put in a row have indices that can be spelled. -/
theorem fits_of_execute_putElements {last : State} (nonempty : values ≠ [])
    (ran : execute (putElements array index values) state = (.ok (), last)) :
    index + values.length ≤ Text.numberLimit := by
  induction values generalizing index state with
  | nil => exact absurd rfl nonempty
  | cons value rest inductionHypothesis =>
    rw [putElements] at ran
    obtain ⟨key, same, computed, put⟩ := execute_bind_eq_ok.mp ran
    rw [execute_ofExcept] at computed
    obtain ⟨short, rfl⟩ := indexKey_eq_ok (Prod.mk.inj computed).1
    obtain ⟨_, middle, -, others⟩ := execute_bind_eq_ok.mp put
    by_cases more : rest = []
    · subst more
      exact short
    · have fits := inductionHypothesis more others
      rw [List.length_cons]
      omega

/-- Values in a row, listed by their indices. -/
theorem toList_of_row (entry : ∀ index : Nat, map[index]? = values[index]?) :
    map.toList = values.mapIdx fun index value => (index, value) := by
  refine toList_eq_of_ordered ?_ fun index value => ?_
  · rw [List.pairwise_iff_getElem]
    intro first second _ _ before
    rw [List.getElem_mapIdx, List.getElem_mapIdx, Nat.compare_eq_lt]
    exact before
  · rw [entry, List.mem_mapIdx, List.getElem?_eq_some_iff]
    simp [Prod.ext_iff]

/-- Values put in a row into a variable without elements make it an array of just these. -/
theorem Indexed.exists_sparse_putFrom (indexed : state.Indexed name)
    (fits : values.length ≤ Text.numberLimit) {store : Store}
    (attributes : store.attributes = state.store.attributes) (scalar : store.get? name = none)
    (empty : ∀ suffix, store.has (elementKey name suffix) = false) :
    ∃ map : Std.ExtTreeMap Nat String compare,
      State.Sparse { state with
        store := (putFrom name store 0 values).addAttribute name Attribute.indexed } name map ∧
      ∀ index : Nat, map[index]? = values[index]? := by
  obtain ⟨map, holds, entries⟩ := @exists_holds_putFrom ∅ name values 0 _ (.empty empty)
  have entry : ∀ index : Nat, map[index]? = values[index]? := fun index => by
    rw [entries]
    simp
  have kept : ∀ letter, letter ≠ Attribute.indexed →
      ((putFrom name store 0 values).addAttribute name Attribute.indexed).hasAttribute name letter =
        state.store.hasAttribute name letter := by
    intro letter other
    rw [Sparse.hasAttribute_markIndexed _ other]
    exact Store.hasAttribute_congr (by rw [attributes_putFrom, attributes]) letter
  refine ⟨map, indexed.sparse_of_store ((kept _ (by decide)).trans indexed.direct)
    ((kept _ (by decide)).trans indexed.writable) ?_ (holds.congr fun _ => rfl)
      fun index member => ?_, entry⟩
  · rw [Store.get?_addAttribute, get?_putFrom, scalar]
  · rw [← Std.ExtTreeMap.isSome_getElem?_iff_mem, entry, Option.isSome_iff_exists] at member
    obtain ⟨value, found⟩ := member
    obtain ⟨inside, -⟩ := List.getElem?_eq_some_iff.mp found
    omega

/-- An array is replaced without a failure if its indices can be read and the new ones be spelled.
-/
theorem Indexed.execute_setArray (indexed : state.Indexed name) (readable : state.Readable name)
    (fits : values.length ≤ Text.numberLimit) :
    ∃ last, execute (setArray name values) state = (.ok (), last) ∧ last.Indexed name ∧
      last.elements name = .ok (values.mapIdx fun index value => (.index index, value)) := by
  obtain ⟨keys, cleared, listed⟩ := execute_clearArray readable
  -- Nothing is left of the old elements.
  have empty : ∀ suffix,
      ((state.store.dropAll keys).drop name).has (elementKey name suffix) = false := by
    intro suffix
    rw [Store.has_eq_isSome_get?, Store.get?_drop, if_neg (elementKey_ne_self name suffix).symm,
      ← Store.has_eq_isSome_get?]
    refine has_dropAll_eq_false listed (fun suffix present => .inr ?_) suffix
    obtain ⟨index, rfl⟩ := indexed.exists_index present
    exact isIndex_toString index
  have attributes : ((state.store.dropAll keys).drop name).attributes = state.store.attributes := by
    rw [Store.attributes_drop, Store.attributes_dropAll]
  have scalar : ((state.store.dropAll keys).drop name).get? name = none := by
    rw [Store.get?_drop, if_pos rfl]
  obtain ⟨map, sparse, entry⟩ := indexed.exists_sparse_putFrom fits attributes scalar empty
  have row : 0 + values.length ≤ Text.numberLimit := by omega
  refine ⟨_, ?_, sparse.toIndexed, ?_⟩
  · rw [setArray, execute_get_bind, resolve?_of_not_nameref indexed.direct]
    dsimp only
    rw [execute_bind_of_ok (execute_checkWritable_of_not indexed.writable),
      execute_bind_of_ok cleared, execute_bind_of_ok (execute_changeStore _ _)]
    rw [execute_bind_of_ok (execute_putElements row _)]
    rfl
  · rw [sparse.elements, toList_of_row entry]
    congr 1
    apply List.ext_getElem
    · simp
    · simp

/-- What was replaced could be read, and what it was replaced by can be spelled. -/
theorem Indexed.fits_of_execute_setArray (indexed : state.Indexed name) {last : State}
    (ran : execute (setArray name values) state = (.ok (), last)) :
    state.Readable name ∧ values.length ≤ Text.numberLimit := by
  rw [setArray, execute_get_bind, resolve?_of_not_nameref indexed.direct] at ran
  dsimp only at ran
  rw [execute_bind_of_ok (execute_checkWritable_of_not indexed.writable)] at ran
  obtain ⟨_, cleared, clearing, ran⟩ := execute_bind_eq_ok.mp ran
  obtain ⟨_, _, -, ran⟩ := execute_bind_eq_ok.mp ran
  obtain ⟨_, filled, putting, -⟩ := execute_bind_eq_ok.mp ran
  constructor
  · rw [clearArray, execute_get_bind] at clearing
    obtain ⟨keys, _, listing, -⟩ := execute_bind_eq_ok.mp clearing
    rw [execute_ofExcept, elementKeys, indexed.plain] at listing
    cases read : state.indices name with
    | ok numbers => exact indexed.readable_of_indices read
    | error fault =>
      rw [read] at listing
      cases (Prod.mk.inj listing).1
  · by_cases empty : values = []
    · simp [empty]
    · simpa using fits_of_execute_putElements empty putting

end Values

/-- An indexed array is a sparse map over the natural numbers, exactly as far as indices have no
more digits than numerals may have: it is replaced by a list, its elements are written and dropped
at the decimal texts of indices, and negative subscripts count back from its end. -/
theorem Indexed.represents_sparse_map (indexed : state.Indexed name) :
    ((∃ map, state.Sparse name map) ↔ state.Readable name) ∧
    (∀ values : List String,
      (∃ last, execute (setArray name values) state = (.ok (), last) ∧ last.Indexed name ∧
        last.elements name = .ok (values.mapIdx fun index value => (.index index, value))) ↔
      state.Readable name ∧ values.length ≤ Text.numberLimit) ∧
    ∀ map, state.Sparse name map →
      (∀ index, state.Addresses name map (toString index) index ↔ index < Text.numberLimit) ∧
      (∀ k, 1 ≤ k → k ≤ extent map →
        (state.Addresses name map ("-" ++ toString k) (extent map - k) ↔ k < Text.numberLimit)) ∧
      ∀ k, extent map < k → state.Rejects name ("-" ++ toString k) := by
  refine ⟨⟨?_, fun readable => ?_⟩, fun values => ⟨?_, ?_⟩, fun map sparse => ⟨?_, ?_, ?_⟩⟩
  · rintro ⟨map, sparse⟩
    exact sparse.readable
  · obtain ⟨map, -, sparse⟩ := indexed.exists_sparse readable
    exact ⟨map, sparse⟩
  · rintro ⟨last, ran, -⟩
    exact indexed.fits_of_execute_setArray ran
  · rintro ⟨readable, fits⟩
    exact indexed.execute_setArray readable fits
  · exact fun index => sparse.addresses_toString_iff index
  · exact fun k positive inside => sparse.addresses_negative_iff positive inside
  · exact fun k outside => sparse.rejects_negative outside

/-- An array with a gap between its elements, at indices of one and of two digits. -/
def gappedArray : State :=
  { store := ((({} : Store).put "x_0" "p").put "x_9" "q").put "x_10" "r" }

theorem indexed_gappedArray : gappedArray.Indexed "x" where
  identifier := by decide
  direct := by decide
  writable := by decide
  plain := by decide
  ordinary := by decide
  unbound := by decide
  canonical suffix present := by
    have listed : gappedArray.suffixes "x" = ["0", "10", "9"] := by decide
    rw [← mem_suffixes, listed] at present
    revert suffix
    decide

theorem readable_gappedArray : gappedArray.Readable "x" := by
  have small : ∀ n < 100, n < Text.numberLimit := by
    intro n less
    unfold Text.numberLimit
    have wide : 2 ≤ Text.digitLimit := by decide
    generalize Text.digitLimit = limit at wide ⊢
    calc
      n < 10 ^ 2 := less
      _ ≤ 10 ^ limit := Nat.pow_le_pow_right (by decide) wide
  intro _ suffix present _
  have listed : gappedArray.suffixes "x" = [toString 0, toString 10, toString 9] := by decide
  rw [← mem_suffixes, listed] at present
  simp only [List.mem_cons, List.not_mem_nil, or_false] at present
  rcases present with rfl | rfl | rfl
  · exact ⟨0, small 0 (by omega), rfl⟩
  · exact ⟨10, small 10 (by omega), rfl⟩
  · exact ⟨9, small 9 (by omega), rfl⟩

/-- In the array with a gap, two from the end is the index nine, and twelve is too far to count. -/
theorem gappedArray_counts_back :
    gappedArray.Indexed "x" ∧ ∃ map, gappedArray.Sparse "x" map ∧
      map.toList = [(0, "p"), (9, "q"), (10, "r")] ∧
      gappedArray.Addresses "x" map "-2" 9 ∧ gappedArray.Rejects "x" "-12" := by
  obtain ⟨shows, -, laws⟩ := indexed_gappedArray.represents_sparse_map
  obtain ⟨map, sparse⟩ := shows.mpr readable_gappedArray
  have listing : gappedArray.elements "x" =
      .ok ([(0, "p"), (9, "q"), (10, "r")].map fun entry => (.index entry.1, entry.2)) := by
    decide
  have distinct : Function.Injective Key.index := fun _ _ => Key.index.inj
  have entries : map.toList = [(0, "p"), (9, "q"), (10, "r")] :=
    List.map_injective_iff.mpr (entry_injective distinct)
      (Except.ok.inj (sparse.elements.symm.trans listing))
  have wide : extent map = 11 := by
    rw [extent, Std.ExtTreeMap.maxKey?_eq_getLast?_keys, ← Std.ExtTreeMap.map_fst_toList_eq_keys,
      entries]
    rfl
  obtain ⟨-, inside, outside⟩ := laws map sparse
  have second := (inside 2 (by omega) (by omega)).mpr (sparse.short_of_lt_extent (by omega))
  rw [wide] at second
  exact ⟨indexed_gappedArray, map, sparse, entries, second, outside 12 (by omega)⟩

/-- An array with an element at an index that is too long to be read. -/
def unreadableArray : State :=
  { store := ({} : Store).put (elementKey "x" Text.longIndex) "v" }

theorem unreadableArray_is_kept :
    unreadableArray.Indexed "x" ∧
      ¬ ∃ last, execute (setArray "x" ["p"]) unreadableArray = (.ok (), last) := by
  have stored : ∀ key, unreadableArray.store.get? key =
      if elementKey "x" Text.longIndex = key then some "v" else none := by
    intro key
    rw [unreadableArray, Store.get?_put]
    simp [Store.get?]
  have indexed : unreadableArray.Indexed "x" :=
    { identifier := by decide
      direct := rfl
      writable := rfl
      plain := by decide
      ordinary := by decide
      unbound := by rw [stored, if_neg (elementKey_ne_self "x" _)]
      canonical := fun suffix present => by
        have same : elementKey "x" Text.longIndex = elementKey "x" suffix := by
          by_contra other
          rw [Store.has_eq_isSome_get?, stored, if_neg other] at present
          contradiction
        rw [← elementKey_inj.mp same, ← Text.chopNewline_of_notMem Text.newline_notMem_longIndex]
        exact Text.isIndex_longIndex }
  have present : unreadableArray.store.has (elementKey "x" Text.longIndex) = true := by
    rw [Store.has_eq_isSome_get?, stored, if_pos rfl]
    rfl
  refine ⟨indexed, ?_⟩
  rintro ⟨last, ran⟩
  obtain ⟨readable, -⟩ := indexed.fits_of_execute_setArray ran
  obtain ⟨map, -, sparse⟩ := indexed.exists_sparse readable
  obtain ⟨fault, failed⟩ := indices_of_longIndex present
  cases sparse.indices.symm.trans failed

section Runs

/-- An element counted from the beginning of an array, or back from its last one. -/
inductive Position
  | forth (index : Nat)
  | back (gap : Nat)

namespace Position

/-- The number that is spelled for a position, without its sign. -/
def number : Position → Nat
  | forth index => index
  | back gap => gap + 1

/-- The subscript for a position. -/
def text : Position → String
  | forth index => toString index
  | back gap => "-" ++ toString (gap + 1)

/-- The index of a position in a map; nothing before its beginning. -/
def index? (map : Std.ExtTreeMap Nat String compare) : Position → Option Nat
  | forth index => some index
  | back gap => if gap < extent map then some (extent map - (gap + 1)) else none

end Position

/-- A change of one element. -/
inductive ElementEdit
  | assign (position : Position) (value : String)
  | unset (position : Position)

namespace ElementEdit

/-- The position that is changed. -/
def position : ElementEdit → Position
  | assign position _ => position
  | unset position => position

/-- Change the element of an array. -/
def perform (name : String) : ElementEdit → Write Unit
  | assign position value => setElement name position.text value
  | unset position => State.unset (Reference.text ⟨name, position.text⟩)

/-- The map after a change of one element. -/
def applied (map : Std.ExtTreeMap Nat String compare) :
    ElementEdit → Std.ExtTreeMap Nat String compare
  | assign position value => (position.index? map).elim map fun index => map.insert index value
  | unset position => (position.index? map).elim map fun index => map.erase index

end ElementEdit

/-- A position that can be spelled addresses its index, and one before the beginning nothing. -/
theorem Sparse.addresses_or_rejects (sparse : state.Sparse name map) {position : Position}
    (short : position.number < Text.numberLimit) :
    (∃ index, position.index? map = some index ∧ state.Addresses name map position.text index) ∨
      (position.index? map = none ∧ state.Rejects name position.text) := by
  cases position with
  | forth index => exact .inl ⟨index, rfl, sparse.addresses_toString_iff index |>.mpr short⟩
  | back gap =>
    by_cases inside : gap < extent map
    · left
      exact ⟨_, if_pos inside, (sparse.addresses_negative_iff (by omega) inside).mpr short⟩
    · right
      exact ⟨if_neg inside, sparse.rejects_negative (by omega)⟩

/-- Changing an element changes the map, or neither of them. -/
theorem Sparse.edited (sparse : state.Sparse name map) {edit : ElementEdit}
    (short : edit.position.number < Text.numberLimit) :
    (after (edit.perform name) state).Sparse name (edit.applied map) := by
  rcases sparse.addresses_or_rejects short with ⟨index, found, addresses⟩ | ⟨lost, rejects⟩
  · cases edit with
    | assign position value =>
      obtain ⟨last, ran, edited⟩ := addresses.assign value
      rw [ElementEdit.applied, show position.index? map = some index from found]
      exact after_eq_of_execute ran ▸ edited
    | unset position =>
      obtain ⟨last, ran, edited⟩ := addresses.unset
      rw [ElementEdit.applied, show position.index? map = some index from found]
      exact after_eq_of_execute ran ▸ edited
  · cases edit with
    | assign position value =>
      obtain ⟨fault, ran⟩ := rejects.assign value
      rw [ElementEdit.applied, show position.index? map = none from lost]
      exact (after_eq_of_execute ran).symm ▸ sparse
    | unset position =>
      obtain ⟨fault, ran⟩ := rejects.unset
      rw [ElementEdit.applied, show position.index? map = none from lost]
      exact (after_eq_of_execute ran).symm ▸ sparse

/-- Elements may be changed in any order, also by what counts back from an end that moves. -/
theorem Sparse.edited_all {edits : List ElementEdit}
    (short : ∀ edit ∈ edits, edit.position.number < Text.numberLimit)
    (sparse : state.Sparse name map) :
    State.Sparse (edits.foldl (fun state edit => after (edit.perform name) state) state) name
      (edits.foldl (fun map edit => edit.applied map) map) := by
  induction edits generalizing state map with
  | nil => exact sparse
  | cons edit rest inductionHypothesis =>
    have others : ∀ edit ∈ rest, edit.position.number < Text.numberLimit := fun edit member =>
      short edit (List.mem_cons_of_mem _ member)
    exact inductionHypothesis others (sparse.edited (short edit List.mem_cons_self))

end Runs

end Shell.State
