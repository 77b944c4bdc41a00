import Mathlib.Data.List.Nodup
import Shell.Proofs.Running
import Shell.Proofs.Variable.Ownership

/-!
# Listing and dropping the elements of an array

The keys that are listed for an associative array are all keys that extend its
name; those for another array are the ones at indices. An index with too many
digits cannot be read, and then nothing is listed. All that is listed is there,
so that dropping it cannot fail.
-/

namespace Shell

open Running

theorem isPrefixOf?_eq_some {α : Type} [BEq α] [LawfulBEq α] {head text rest : List α} :
    head.isPrefixOf? text = some rest ↔ text = head ++ rest := by
  induction head generalizing text with
  | nil => simp [List.isPrefixOf?, eq_comm]
  | cons first head inductionHypothesis =>
    cases text with
    | nil => simp [List.isPrefixOf?]
    | cons c text =>
      by_cases same : first = c
      · subst same
        simp [List.isPrefixOf?, inductionHypothesis]
      · simp [List.isPrefixOf?, same, Ne.symm same]

theorem dropHead?_elementKey {array key suffix : String} :
    dropHead? (elementKey array "") key = some suffix ↔ key = elementKey array suffix := by
  rw [dropHead?, Option.map_eq_some_iff]
  constructor
  · rintro ⟨rest, found, rfl⟩
    apply String.toList_inj.mp
    simpa using isPrefixOf?_eq_some.mp found
  · rintro rfl
    exact ⟨suffix.toList, isPrefixOf?_eq_some.mpr (by simp), by simp⟩

theorem toString_eq_iff {n : Nat} {text : String} :
    text = toString n ↔ text.toList = Nat.toDigits 10 n := by
  rw [Nat.toString_eq_ofList_toDigits, ← String.toList_inj, String.toList_ofList]

theorem perm_insertAscending (n : Nat) (numbers : List Nat) :
    (insertAscending n numbers).Perm (n :: numbers) := by
  induction numbers with
  | nil => exact .refl _
  | cons first rest inductionHypothesis =>
    rw [insertAscending]
    split
    · exact .refl _
    · exact (inductionHypothesis.cons first).trans (.swap n first rest)

theorem perm_ascending (numbers : List Nat) : (ascending numbers).Perm numbers := by
  induction numbers with
  | nil => exact .refl _
  | cons first rest inductionHypothesis =>
    exact (perm_insertAscending first (ascending rest)).trans (inductionHypothesis.cons first)

/-- Items are read one by one, if the first of them is read and then the others. -/
theorem mapM_cons_eq_ok_iff {ε α β : Type} {read : α → Except ε β} {first : α} {rest : List α}
    {results : List β} : (first :: rest).mapM read = .ok results ↔
      ∃ result others, read first = .ok result ∧ rest.mapM read = .ok others ∧
        results = result :: others := by
  rw [List.mapM_cons]
  cases read first with
  | error stop => simp [bind, Except.bind]
  | ok result =>
    cases rest.mapM read with
    | error stop => simp [bind, Except.bind]
    | ok others => simp [bind, Except.bind, pure, Except.pure, eq_comm]

/-- What is read item by item has a result for each item. -/
theorem exists_of_mapM_eq_ok {ε α β : Type} {read : α → Except ε β} {items : List α}
    {results : List β} (ran : items.mapM read = .ok results) {item : α} (member : item ∈ items) :
    ∃ result ∈ results, read item = .ok result := by
  induction items generalizing results with
  | nil => simp at member
  | cons first rest inductionHypothesis =>
    obtain ⟨result, others, head, tail, rfl⟩ := mapM_cons_eq_ok_iff.mp ran
    rcases List.mem_cons.mp member with rfl | inRest
    · exact ⟨result, List.mem_cons_self, head⟩
    · obtain ⟨other, found, read⟩ := inductionHypothesis tail inRest
      exact ⟨other, List.mem_cons_of_mem _ found, read⟩

/-- What fails item by item fails with one of the items. -/
theorem exists_of_mapM_eq_error {ε α β : Type} {read : α → Except ε β} {items : List α} {fault : ε}
    (ran : items.mapM read = .error fault) : ∃ item ∈ items, read item = .error fault := by
  induction items with
  | nil => contradiction
  | cons first rest inductionHypothesis =>
    rw [List.mapM_cons] at ran
    cases head : read first with
    | error stop =>
      rw [head] at ran
      cases ran
      exact ⟨first, List.mem_cons_self, head⟩
    | ok result =>
      cases tail : rest.mapM read with
      | error stop =>
        rw [head, tail] at ran
        cases ran
        obtain ⟨item, member, failed⟩ := inductionHypothesis tail
        exact ⟨item, List.mem_cons_of_mem _ member, failed⟩
      | ok others =>
        rw [head, tail] at ran
        contradiction

/-- What is read item by item comes from the items. -/
theorem exists_item_of_mapM {ε α β : Type} {read : α → Except ε β} {items : List α}
    {results : List β} (ran : items.mapM read = .ok results) {result : β}
    (member : result ∈ results) : ∃ item ∈ items, read item = .ok result := by
  induction items generalizing results with
  | nil =>
    cases ran
    simp at member
  | cons first rest inductionHypothesis =>
    obtain ⟨answer, others, head, tail, rfl⟩ := mapM_cons_eq_ok_iff.mp ran
    rcases List.mem_cons.mp member with rfl | later
    · exact ⟨first, List.mem_cons_self, head⟩
    · obtain ⟨item, found, answered⟩ := inductionHypothesis tail later
      exact ⟨item, List.mem_cons_of_mem _ found, answered⟩

namespace State

variable {state : State} {array : String}

theorem mem_suffixes {suffix : String} :
    suffix ∈ state.suffixes array ↔ state.store.has (elementKey array suffix) = true := by
  simp only [suffixes, List.mem_filterMap, dropHead?_elementKey, Store.mem_keys]
  constructor
  · rintro ⟨_, present, rfl⟩
    exact present
  · intro present
    exact ⟨_, present, rfl⟩

theorem nodup_suffixes : (state.suffixes array).Nodup := by
  apply List.Pairwise.filterMap _ _ state.store.nodup_keys
  intro first second different suffix found other foundOther
  rintro rfl
  exact different ((dropHead?_elementKey.mp found).trans (dropHead?_elementKey.mp foundOther).symm)

/-- The key is one of those that are listed for the array. -/
def Lists (state : State) (array key : String) : Prop :=
  state.store.has key = true ∧ ∃ suffix, key = elementKey array suffix ∧
    (state.isAssociative array = true ∨ Text.isIndex suffix.toList = true)

/-- The indices of an array that is not associative are decimal texts that are not too long. -/
def Readable (state : State) (array : String) : Prop :=
  state.isAssociative array = false → ∀ suffix,
    state.store.has (elementKey array suffix) = true → Text.isIndex suffix.toList = true →
      ∃ n < Text.numberLimit, suffix = toString n

theorem readIndex_toString {n : Nat} (short : n < Text.numberLimit) :
    readIndex (toString n) = .ok n := by
  have digits : (toString n).toList = Nat.toDigits 10 n := toString_eq_iff.mp rfl
  rw [readIndex, digits, Text.chopNewline_of_notMem (Text.newline_notMem_toDigits n),
    Text.readNat?_toDigits, if_pos short]

theorem isIndex_toString (n : Nat) : Text.isIndex (toString n).toList = true := by
  have digits : (toString n).toList = Nat.toDigits 10 n := toString_eq_iff.mp rfl
  rw [digits]
  exact (Text.isIndex_iff (Text.newline_notMem_toDigits n)).mpr ⟨n, rfl⟩

/-- A suffix that spells an index, in one line, is read as the number that it spells, if that is not
too long. -/
theorem readIndex_eq_ok_iff {suffix : String} (index : Text.isIndex suffix.toList = true)
    (single : '\n' ∉ suffix.toList) {n : Nat} :
    readIndex suffix = .ok n ↔ n < Text.numberLimit ∧ suffix = toString n := by
  constructor
  · intro read
    obtain ⟨m, digits⟩ := (Text.isIndex_iff single).mp index
    rw [readIndex, Text.chopNewline_of_notMem single, digits, Text.readNat?_toDigits] at read
    split at read
    · rename_i value found
      obtain ⟨short, same⟩ := Option.ite_none_right_eq_some.mp found
      obtain rfl := Option.some.inj same
      cases read
      exact ⟨short, toString_eq_iff.mpr digits⟩
    · contradiction
  · rintro ⟨short, rfl⟩
    exact readIndex_toString short

theorem mapM_readIndex {suffixes : List String}
    (readable : ∀ suffix ∈ suffixes, ∃ n < Text.numberLimit, suffix = toString n) :
    ∃ numbers, suffixes.mapM readIndex = .ok numbers ∧
      numbers.map (fun n => toString n) = suffixes := by
  induction suffixes with
  | nil => exact ⟨[], rfl, rfl⟩
  | cons suffix rest inductionHypothesis =>
    obtain ⟨n, short, rfl⟩ := readable suffix (by simp)
    obtain ⟨numbers, read, spelled⟩ := inductionHypothesis fun other member =>
      readable other (List.mem_cons_of_mem _ member)
    refine ⟨n :: numbers, ?_, by rw [List.map_cons, spelled]⟩
    rw [List.mapM_cons, readIndex_toString short, read]
    rfl

/-- Where all indices can be read, the suffixes that pass for one are the decimal texts of the
indices, in another order. -/
theorem Readable.exists_numbers (readable : state.Readable array)
    (plain : state.isAssociative array = false) :
    ∃ numbers : List Nat,
      numbers.map (fun n => toString n) =
        ((state.suffixes array).filter fun suffix => Text.isIndex suffix.toList) ∧
      state.indices array = .ok (ascending numbers) := by
  have short : ∀ suffix ∈ (state.suffixes array).filter fun suffix => Text.isIndex suffix.toList,
      ∃ n < Text.numberLimit, suffix = toString n := by
    intro suffix member
    obtain ⟨present, index⟩ := List.mem_filter.mp member
    exact readable plain suffix (mem_suffixes.mp present) index
  obtain ⟨numbers, read, spelled⟩ := mapM_readIndex short
  refine ⟨numbers, spelled, ?_⟩
  rw [State.indices, read]
  rfl

/-- What is listed for an array with readable indices: each key once, and no other. -/
theorem elementKeys_of_readable (readable : state.Readable array) :
    ∃ keys, state.elementKeys array = .ok keys ∧ keys.Nodup ∧
      ∀ key, key ∈ keys ↔ state.Lists array key := by
  have injective : Function.Injective (elementKey array) := fun _ _ => elementKey_inj.mp
  cases associative : state.isAssociative array with
  | true =>
    refine ⟨(state.suffixes array).map (elementKey array), by simp [elementKeys, associative],
      nodup_suffixes.map injective, ?_⟩
    intro key
    simp only [List.mem_map, mem_suffixes, Lists, associative, true_or, and_true]
    constructor
    · rintro ⟨suffix, present, rfl⟩
      exact ⟨present, suffix, rfl⟩
    · rintro ⟨present, suffix, rfl⟩
      exact ⟨suffix, present, rfl⟩
  | false =>
    obtain ⟨numbers, spelled, read⟩ := readable.exists_numbers associative
    have listing : state.elementKeys array =
        .ok ((ascending numbers).map fun n => elementKey array (toString n)) := by
      simp only [elementKeys, associative, read]
      rfl
    have reordered : ((ascending numbers).map fun n => elementKey array (toString n)).Perm
        (((state.suffixes array).filter fun suffix => Text.isIndex suffix.toList).map
          (elementKey array)) := by
      rw [← spelled, List.map_map]
      exact (perm_ascending numbers).map _
    refine ⟨_, listing, reordered.nodup_iff.mpr ((nodup_suffixes.filter _).map injective), ?_⟩
    intro key
    simp only [reordered.mem_iff, List.mem_map, List.mem_filter, mem_suffixes, Lists, associative,
      Bool.false_eq_true, false_or]
    constructor
    · rintro ⟨suffix, ⟨present, index⟩, rfl⟩
      exact ⟨present, suffix, rfl, index⟩
    · rintro ⟨present, suffix, rfl, index⟩
      exact ⟨suffix, ⟨present, index⟩, rfl⟩

/-- The indices are what the suffixes are read as that pass for one. -/
theorem indices_eq_ok_iff {numbers : List Nat} :
    state.indices array = .ok numbers ↔
      ∃ unordered, ((state.suffixes array).filter fun suffix =>
        Text.isIndex suffix.toList).mapM readIndex = .ok unordered ∧
          ascending unordered = numbers := by
  unfold indices
  cases ((state.suffixes array).filter fun suffix => Text.isIndex suffix.toList).mapM readIndex <;>
    simp [Functor.map, Except.map]

/-- A suffix that spells an index, in one line, is read as one of the indices. -/
theorem exists_mem_indices {numbers : List Nat} {suffix : String}
    (read : state.indices array = .ok numbers) (present : suffix ∈ state.suffixes array)
    (index : Text.isIndex suffix.toList = true) (single : '\n' ∉ suffix.toList) :
    ∃ n ∈ numbers, suffix = toString n := by
  obtain ⟨unordered, ran, rfl⟩ := indices_eq_ok_iff.mp read
  obtain ⟨n, member, readIt⟩ := exists_of_mapM_eq_ok ran (List.mem_filter.mpr ⟨present, index⟩)
  exact ⟨n, (perm_ascending unordered).mem_iff.mpr member,
    ((readIndex_eq_ok_iff index single).mp readIt).2⟩

/-- A name that is followed by an index in a key is not taken for that of a scalar. -/
theorem isArray_ne_false {suffix : String}
    (present : state.store.has (elementKey array suffix) = true)
    (index : Text.isIndex suffix.toList = true) (single : '\n' ∉ suffix.toList) :
    state.isArray array ≠ .ok false := by
  intro other
  unfold isArray at other
  split at other
  · contradiction
  · cases read : state.indices array with
    | error fault =>
      rw [read] at other
      contradiction
    | ok numbers =>
      rw [read] at other
      have empty : numbers = [] := by simpa [Functor.map, Except.map] using other
      obtain ⟨n, member, -⟩ := exists_mem_indices read (mem_suffixes.mpr present) index single
      simp [empty] at member

section Single

variable (single : ∀ suffix, state.store.has (elementKey array suffix) = true →
  Text.isIndex suffix.toList = true → '\n' ∉ suffix.toList)

include single

/-- If no index has a newline, those of an array that were read can be read. -/
theorem readable_of_indices {numbers : List Nat} (read : state.indices array = .ok numbers) :
    state.Readable array := by
  intro _ suffix present index
  obtain ⟨unordered, ran, -⟩ := indices_eq_ok_iff.mp read
  obtain ⟨n, -, readIt⟩ :=
    exists_of_mapM_eq_ok ran (List.mem_filter.mpr ⟨mem_suffixes.mpr present, index⟩)
  exact ⟨n, (readIndex_eq_ok_iff index (single suffix present index)).mp readIt⟩

/-- It is known whether a name is that of an array if it is declared, or if its indices can be
read. -/
theorem exists_isArray_iff (plain : state.isAssociative array = false) :
    (∃ answer, state.isArray array = .ok answer) ↔
      state.isDeclaredArray array = true ∨ state.Readable array := by
  unfold isArray
  cases state.isDeclaredArray array with
  | true => simp
  | false =>
    simp only [Bool.false_eq_true, if_false, false_or]
    constructor
    · rintro ⟨answer, known⟩
      cases read : state.indices array with
      | error fault =>
        rw [read] at known
        contradiction
      | ok numbers => exact readable_of_indices single read
    · intro readable
      obtain ⟨numbers, -, read⟩ := readable.exists_numbers plain
      exact ⟨_, congrArg _ read⟩

end Single

/-- A key that is there, in one line, is listed exactly if it is that of an element. -/
theorem mem_elementKeys_iff {key : String} {keys : List String}
    (listing : state.elementKeys array = .ok keys) (present : state.store.has key = true)
    (single : '\n' ∉ key.toList) : key ∈ keys ↔ state.Lists array key := by
  unfold elementKeys at listing
  unfold Lists
  cases associative : state.isAssociative array with
  | true =>
    rw [associative] at listing
    cases listing
    simp only [List.mem_map, mem_suffixes, true_or, and_true, present, true_and]
    constructor
    · rintro ⟨suffix, -, rfl⟩
      exact ⟨suffix, rfl⟩
    · rintro ⟨suffix, rfl⟩
      exact ⟨suffix, present, rfl⟩
  | false =>
    rw [associative] at listing
    cases read : state.indices array with
    | error fault =>
      rw [read] at listing
      contradiction
    | ok numbers =>
      rw [read] at listing
      cases listing
      simp only [present, true_and, Bool.false_eq_true, false_or, List.mem_map]
      constructor
      · rintro ⟨n, -, rfl⟩
        exact ⟨toString n, rfl, isIndex_toString n⟩
      · rintro ⟨suffix, rfl, index⟩
        have line : '\n' ∉ suffix.toList := by
          intro newline
          exact single (by simp [newline])
        obtain ⟨n, member, rfl⟩ := exists_mem_indices read (mem_suffixes.mpr present) index line
        exact ⟨n, member, rfl⟩

/-- All that is listed are keys of elements. -/
theorem eq_elementKey_of_mem {keys : List String} (listing : state.elementKeys array = .ok keys)
    {key : String} (member : key ∈ keys) : ∃ suffix, key = elementKey array suffix := by
  unfold elementKeys at listing
  split at listing
  · cases listing
    obtain ⟨suffix, -, rfl⟩ := List.mem_map.mp member
    exact ⟨suffix, rfl⟩
  · cases read : state.indices array with
    | error fault =>
      rw [read] at listing
      contradiction
    | ok numbers =>
      rw [read] at listing
      cases listing
      obtain ⟨n, -, rfl⟩ := List.mem_map.mp member
      exact ⟨toString n, rfl⟩

/-- All that is listed belongs to the array. -/
theorem owns_of_mem_elementKeys {keys : List String} (listing : state.elementKeys array = .ok keys)
    {key : String} (member : key ∈ keys) : Owns array key :=
  .inr (eq_elementKey_of_mem listing member)

/-- Without newlines in its keys, an array whose indices are not all readable is not listed. -/
theorem elementKeys_of_not_readable
    (single : ∀ suffix, state.store.has (elementKey array suffix) = true → '\n' ∉ suffix.toList)
    (unreadable : ¬ state.Readable array) : ∃ fault, state.elementKeys array = .error fault := by
  cases listing : state.elementKeys array with
  | error fault => exact ⟨fault, rfl⟩
  | ok keys =>
    refine absurd (fun plain => ?_) unreadable
    cases read : state.indices array with
    | error fault =>
      rw [elementKeys, plain, read] at listing
      contradiction
    | ok numbers =>
      exact readable_of_indices (fun suffix present _ => single suffix present) read plain

/-- An index with too many digits keeps all indices of an array from being read. -/
theorem indices_of_longIndex
    (present : state.store.has (elementKey array Text.longIndex) = true) :
    ∃ fault, state.indices array = .error fault := by
  have failed : readIndex Text.longIndex =
      .error (.numeralTooLong Text.longIndex.toList.length) := by
    rw [readIndex, Text.chopNewline_of_notMem Text.newline_notMem_longIndex,
      Text.readNat?_longIndex]
  have listed : Text.longIndex ∈
      (state.suffixes array).filter fun suffix => Text.isIndex suffix.toList :=
    List.mem_filter.mpr ⟨mem_suffixes.mpr present, Text.isIndex_longIndex⟩
  cases read : state.indices array with
  | error fault => exact ⟨fault, rfl⟩
  | ok numbers =>
    obtain ⟨unordered, ran, -⟩ := indices_eq_ok_iff.mp read
    obtain ⟨n, -, readIt⟩ := exists_of_mapM_eq_ok ran listed
    rw [failed] at readIt
    cases readIt

end State

namespace Store

/-- A store without the values under some keys. -/
def dropAll (store : Store) (keys : List String) : Store := keys.foldl drop store

@[simp]
theorem get?_dropAll (store : Store) (keys : List String) (key : String) :
    (store.dropAll keys).get? key = if key ∈ keys then none else store.get? key := by
  induction keys generalizing store with
  | nil => simp [dropAll]
  | cons first rest inductionHypothesis =>
    have step := inductionHypothesis (store.drop first)
    simp only [dropAll, List.foldl_cons] at step ⊢
    rw [step, get?_drop]
    by_cases inRest : key ∈ rest
    · simp [inRest]
    · by_cases same : key = first
      · simp [same]
      · simp [inRest, same, Ne.symm same]

theorem dropAll_eq (store : Store) (keys : List String) :
    store.dropAll keys = { store with values := (store.dropAll keys).values } := by
  induction keys generalizing store with
  | nil => rfl
  | cons first rest inductionHypothesis => exact inductionHypothesis (store.drop first)

@[simp]
theorem attributes_dropAll (store : Store) (keys : List String) :
    (store.dropAll keys).attributes = store.attributes := by
  rw [dropAll_eq]

@[simp]
theorem saved_dropAll (store : Store) (keys : List String) :
    (store.dropAll keys).saved = store.saved := by
  rw [dropAll_eq]

end Store

namespace State

/-- Keys that are there are dropped without a failure. -/
theorem execute_dropKeys {state : State} {keys : List String} (distinct : keys.Nodup)
    (present : ∀ key ∈ keys, state.store.has key = true) :
    execute (keys.forM dropKey) state =
      (.ok (), { state with store := state.store.dropAll keys }) := by
  induction keys generalizing state with
  | nil => rfl
  | cons key rest inductionHypothesis =>
    obtain ⟨fresh, distinctRest⟩ := List.nodup_cons.mp distinct
    have dropped : execute (dropKey key) state =
        (.ok (), { state with store := state.store.drop key }) := by
      simp [dropKey, changeStore, present key (by simp)]
    rw [execute_forM_cons, execute_bind_of_ok dropped, inductionHypothesis distinctRest]
    · rfl
    · intro other member
      have different : key ≠ other := fun same => fresh (same ▸ member)
      have kept := present other (List.mem_cons_of_mem _ member)
      rw [Store.has_eq_isSome_get?] at kept ⊢
      simpa [different] using kept

/-- A key that is dropped was there. -/
theorem execute_dropKey_ok {state last : State} {key : String} {value : Unit}
    (ran : execute (dropKey key) state = (.ok value, last)) :
    state.store.has key = true ∧ last = { state with store := state.store.drop key } := by
  unfold dropKey at ran
  rw [execute_get_bind] at ran
  split at ran
  · rename_i present
    cases ran
    exact ⟨present, rfl⟩
  · cases ran

/-- Dropping keys without a failure drops all of them. -/
theorem eq_of_execute_dropKeys {state last : State} {keys : List String} {value : Unit}
    (ran : execute (keys.forM dropKey) state = (.ok value, last)) :
    last = { state with store := state.store.dropAll keys } := by
  induction keys generalizing state with
  | nil =>
    cases ran
    rfl
  | cons key rest inductionHypothesis =>
    rw [execute_forM_cons] at ran
    obtain ⟨_, middle, dropped, others⟩ := execute_bind_eq_ok.mp ran
    obtain ⟨-, rfl⟩ := execute_dropKey_ok dropped
    exact inductionHypothesis others

end State

end Shell
