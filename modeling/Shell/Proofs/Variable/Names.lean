import Mathlib.Data.Finset.Max
import Shell.Proofs.Variable.Listing

/-!
# Listing names

The listing of names takes a key for that of an element if it is spelled like one: the name of an
array, an underscore and an index. Which names are those of arrays is told by the same keys. So
scalars that are spelled like elements are hidden, and the name of an array that nobody declared is
listed for them. All other scalars are listed, each of them once.
-/

namespace Shell

section Cuts

theorem mem_underscoreCuts_cons {c : Char} {rest left right : List Char} :
    (left, right) ∈ State.underscoreCuts (c :: rest) ↔
      (left = [c] ∧ rest = '_' :: right) ∨
        ∃ tail, left = c :: tail ∧ (tail, right) ∈ State.underscoreCuts rest := by
  rw [State.underscoreCuts.eq_def (c :: rest)]
  dsimp only
  split
  · simp [eq_comm, and_comm]
  · rename_i other
    have unmarked : rest ≠ '_' :: right := other right
    simp [unmarked, eq_comm, and_comm]

/-- A text is cut at each of its underscores, the first character apart. -/
theorem mem_underscoreCuts {text left right : List Char} :
    (left, right) ∈ State.underscoreCuts text ↔ left ≠ [] ∧ text = left ++ '_' :: right := by
  induction text generalizing left with
  | nil => simp [State.underscoreCuts]
  | cons c rest inductionHypothesis =>
    rw [mem_underscoreCuts_cons]
    simp only [inductionHypothesis]
    constructor
    · rintro (⟨rfl, rfl⟩ | ⟨tail, rfl, -, rfl⟩)
      · simp
      · simp
    · rintro ⟨nonempty, spelled⟩
      cases left with
      | nil => contradiction
      | cons first tail =>
        obtain ⟨rfl, rfl⟩ := List.cons.inj spelled
        cases tail with
        | nil => exact .inl ⟨rfl, rfl⟩
        | cons second further => exact .inr ⟨_, rfl, List.cons_ne_nil _ _, rfl⟩

end Cuts

/-- An index has no underscore, so that a key is that of an element at an index in one way only. -/
theorem eq_of_elementKey_of_isIndex {array other first second : String}
    (index : Text.isIndex first.toList = true) (also : Text.isIndex second.toList = true)
    (same : elementKey array first = elementKey other second) : array = other ∧ first = second := by
  rcases elementKey_eq_elementKey same with rfl | ⟨inner, rfl⟩ | ⟨inner, rfl⟩
  · exact ⟨rfl, elementKey_inj.mp same⟩
  · rw [State.elementKey_elementKey] at same
    obtain rfl := elementKey_inj.mp same
    exact absurd (by simp) (Text.underscore_notMem_of_isIndex index)
  · rw [State.elementKey_elementKey] at same
    obtain rfl := elementKey_inj.mp same
    exact absurd (by simp) (Text.underscore_notMem_of_isIndex also)

/-- The name is spelled like the key of an element at an index. -/
def IsElementName (name : String) : Prop :=
  ∃ array suffix, array ≠ "" ∧ Text.isIndex suffix.toList = true ∧ name = elementKey array suffix

theorem isElementName_iff {name : String} :
    IsElementName name ↔
      ((State.underscoreCuts name.toList).any fun cut => Text.isIndex cut.2) = true := by
  rw [List.any_eq_true]
  constructor
  · rintro ⟨array, suffix, nonempty, index, rfl⟩
    refine ⟨(array.toList, suffix.toList), mem_underscoreCuts.mpr ⟨?_, toList_elementKey ..⟩, index⟩
    simpa using nonempty
  · rintro ⟨⟨left, right⟩, cut, index⟩
    obtain ⟨nonempty, spelled⟩ := mem_underscoreCuts.mp cut
    refine ⟨String.ofList left, String.ofList right, by simpa using nonempty, by simpa using index,
      String.toList_inj.mp ?_⟩
    simpa using spelled

instance (name : String) : Decidable (IsElementName name) :=
  decidable_of_iff _ isElementName_iff.symm

namespace State

variable {state : State} {head : String}

/-- There are no arrays, and what passes for a name in the store is an identifier. -/
structure Scalars (state : State) : Prop where
  indexed : ∀ name, state.isAssociative name = false
  undeclared : ∀ name, ∀ letter ∈ [Attribute.indexed, Attribute.associative],
    state.store.hasAttribute name letter = false
  identifiers : ∀ key, state.store.has key = true → Text.isName key.toList = true →
    Text.isIdentifier key.toList = true

/-- The identifier has a value. -/
structure Bound (state : State) (name : String) : Prop where
  present : state.store.has name = true
  identifier : Text.isIdentifier name.toList = true

/-- The listing shows the identifiers that have a value and begin with a text, in order and each of
them once. -/
structure ListsBound (state : State) (head : String) (names : List String) : Prop where
  listed : state.namesFrom head = .ok names
  ascending : names.Pairwise fun first second => compare first second = .lt
  members : ∀ name, name ∈ names ↔ state.Bound name ∧ head.toList <+: name.toList

/-- An identifier that has a value and is spelled like an element of an array. -/
structure Mimics (state : State) (array suffix : String) : Prop where
  bound : state.Bound (elementKey array suffix)
  nonempty : array ≠ ""
  index : Text.isIndex suffix.toList = true

section Arrays

variable {array suffix : String}

theorem Mimics.isElementName (mimics : state.Mimics array suffix) :
    IsElementName (elementKey array suffix) :=
  ⟨array, suffix, mimics.nonempty, mimics.index, rfl⟩

theorem Mimics.single (mimics : state.Mimics array suffix) : '\n' ∉ suffix.toList := by
  have single := Text.newline_notMem_of_isIdentifier mimics.bound.identifier
  simp only [toList_elementKey, List.mem_append, List.mem_cons, not_or] at single
  exact single.2.2

theorem Mimics.identifier (mimics : state.Mimics array suffix) :
    Text.isIdentifier array.toList = true := by
  have whole := mimics.bound.identifier
  have nonempty : array.toList ≠ [] := by simpa using mimics.nonempty
  rw [toList_elementKey, Text.isIdentifier_append_iff nonempty] at whole
  exact whole.1

variable (scalars : state.Scalars)

include scalars

/-- What passes for an index of an identifier in the store is that of another identifier. -/
theorem Scalars.mimics (identifier : Text.isIdentifier array.toList = true)
    (present : state.store.has (elementKey array suffix) = true)
    (index : Text.isIndex suffix.toList = true) : state.Mimics array suffix := by
  have nonempty : array.toList ≠ [] := by
    intro empty
    rw [empty] at identifier
    contradiction
  refine ⟨⟨present, scalars.identifiers _ present ?_⟩, by simpa using nonempty, index⟩
  obtain ⟨n, digits⟩ := Text.isCanonical_iff.mp index
  have tail : Text.chopNewline ('_' :: suffix.toList) = '_' :: Nat.toDigits 10 n := by
    have filled : suffix.toList ≠ [] := by
      intro empty
      rw [empty] at index
      contradiction
    rw [← digits, ← List.singleton_append, Text.chopNewline_append filled, List.singleton_append]
  rw [toList_elementKey, Text.isName, Text.chopNewline_append (List.cons_ne_nil _ _), tail,
    Text.isIdentifier_append_iff nonempty]
  refine ⟨identifier, List.forall_mem_cons.mpr ⟨by decide, fun c member => ?_⟩⟩
  simp [Text.isNameChar, Char.isAlphanum, Text.isDigit_of_mem_toDigits member]

/-- It is known whether an identifier is the name of an array if it is one of the call stack, or if
the indices can be read that it seems to have. -/
theorem Scalars.exists_isArray_iff (identifier : Text.isIdentifier array.toList = true) :
    (∃ answer, state.isArray array = .ok answer) ↔
      (state.callArray? array).isSome = true ∨ state.Readable array := by
  have declared : state.isDeclaredArray array = (state.callArray? array).isSome := by
    simp [isDeclaredArray, scalars.indexed,
      scalars.undeclared array Attribute.indexed (by decide),
      scalars.undeclared array Attribute.associative (by decide)]
  rw [← declared]
  refine State.exists_isArray_iff (fun suffix present index => ?_) (scalars.indexed array)
  exact (scalars.mimics identifier present index).single

end Arrays

section Keys

variable (scalars : state.Scalars)

include scalars

theorem Scalars.arrayAmong?_eq_none {cuts : List (List Char × List Char)}
    (others : ∀ cut ∈ cuts, Text.isIndex cut.2 = false) : state.arrayAmong? cuts = .ok none := by
  induction cuts with
  | nil => rfl
  | cons cut rest inductionHypothesis =>
    obtain ⟨left, right⟩ := cut
    have other : Text.isIndex right = false := others _ List.mem_cons_self
    rw [arrayAmong?, scalars.indexed, if_neg Bool.false_ne_true, other, if_neg Bool.false_ne_true]
    exact inductionHypothesis fun cut member => others cut (List.mem_cons_of_mem _ member)

/-- Of several cuts only one leaves an index behind it, and what is in front of it is the array. -/
theorem Scalars.arrayAmong?_of_mem {cuts : List (List Char × List Char)} {left right : List Char}
    (member : (left, right) ∈ cuts) (index : Text.isIndex right = true)
    (single : ∀ cut ∈ cuts, Text.isIndex cut.2 = true → cut.1 = left)
    (counts : state.isArray (String.ofList left) ≠ .ok false) :
    state.arrayAmong? cuts =
      (fun _ => some (String.ofList left)) <$> state.isArray (String.ofList left) := by
  induction cuts with
  | nil => contradiction
  | cons cut rest inductionHypothesis =>
    obtain ⟨first, second⟩ := cut
    rw [arrayAmong?, scalars.indexed, if_neg Bool.false_ne_true]
    by_cases here : Text.isIndex second = true
    · obtain rfl : first = left := single _ List.mem_cons_self here
      rw [if_pos here]
      rcases known : state.isArray (String.ofList first) with fault | (_ | _)
      · rfl
      · exact absurd known counts
      · rfl
    · rw [if_neg here]
      refine inductionHypothesis ?_ fun cut member => single cut (List.mem_cons_of_mem _ member)
      rcases List.mem_cons.mp member with same | later
      · cases same
        exact absurd index here
      · exact later

/-- The name that is listed for a key. -/
def shownAs (state : State) (key : String) : Except Fault String := do
  pure ((← state.arrayOfKey? key).getD key)

theorem Scalars.shownAs_of_not {key : String} (plain : ¬ IsElementName key) :
    state.shownAs key = .ok key := by
  have none : state.arrayOfKey? key = .ok none := by
    apply scalars.arrayAmong?_eq_none
    intro cut member
    rw [Bool.eq_false_iff]
    intro index
    exact plain (isElementName_iff.mpr (List.any_eq_true.mpr ⟨cut, member, index⟩))
  rw [shownAs, none]
  rfl

theorem Scalars.shownAs_of_mimics {array suffix : String} (mimics : state.Mimics array suffix) :
    state.shownAs (elementKey array suffix) = (fun _ => array) <$> state.isArray array := by
  have cut : (array.toList, suffix.toList) ∈ underscoreCuts (elementKey array suffix).toList :=
    mem_underscoreCuts.mpr ⟨by simpa using mimics.nonempty, toList_elementKey ..⟩
  have single : ∀ cut ∈ underscoreCuts (elementKey array suffix).toList,
      Text.isIndex cut.2 = true → cut.1 = array.toList := by
    rintro ⟨left, right⟩ other also
    have spelled : elementKey (String.ofList left) (String.ofList right) =
        elementKey array suffix := by
      apply String.toList_inj.mp
      simpa using (mem_underscoreCuts.mp other).2.symm
    have same := eq_of_elementKey_of_isIndex (by simpa using also) mimics.index spelled
    rw [← same.1, String.toList_ofList]
  have found : state.arrayOfKey? (elementKey array suffix) =
      (fun _ => some array) <$> state.isArray array := by
    have counts := isArray_ne_false mimics.bound.present mimics.index mimics.single
    rw [← @String.ofList_toList array] at counts
    have among := scalars.arrayAmong?_of_mem cut mimics.index single counts
    rwa [String.ofList_toList] at among
  rw [shownAs, found]
  cases state.isArray array <;> rfl

/-- An identifier is listed as it stands, unless it is a mimic. Then the array is listed, if it is
known to be one. -/
theorem Scalars.shownAs_eq_ok_iff {key name : String} (bound : state.Bound key) :
    state.shownAs key = .ok name ↔
      (¬ IsElementName key ∧ key = name) ∨
        ∃ suffix, key = elementKey name suffix ∧ state.Mimics name suffix ∧
          ∃ answer, state.isArray name = .ok answer := by
  by_cases element : IsElementName key
  · obtain ⟨array, suffix, nonempty, index, rfl⟩ := element
    have mimics : state.Mimics array suffix := ⟨bound, nonempty, index⟩
    rw [scalars.shownAs_of_mimics mimics]
    constructor
    · intro shown
      cases known : state.isArray array with
      | error fault =>
        rw [known] at shown
        contradiction
      | ok answer =>
        rw [known] at shown
        cases shown
        exact .inr ⟨suffix, rfl, mimics, answer, known⟩
    · rintro (⟨plain, -⟩ | ⟨last, same, also, answer, known⟩)
      · exact absurd mimics.isElementName plain
      · obtain ⟨rfl, rfl⟩ := eq_of_elementKey_of_isIndex index also.index same
        rw [known]
        rfl
  · rw [scalars.shownAs_of_not element]
    constructor
    · intro shown
      exact .inl ⟨element, Except.ok.inj shown⟩
    · rintro (⟨-, rfl⟩ | ⟨suffix, rfl, mimics, -⟩)
      · rfl
      · exact absurd mimics.isElementName element

end Keys

section Listing

variable {names : List String} (scalars : state.Scalars)

theorem namesFrom_eq (state : State) (head : String) :
    state.namesFrom head =
      (fun stored =>
        (Std.ExtTreeSet.ofList (stored ++ state.associative.toList) compare).toList.filter
        fun name => head.toList.isPrefixOf name.toList) <$>
        (state.store.keys.filter fun key => Text.isName key.toList).mapM state.shownAs := by
  rw [map_eq_pure_bind]
  rfl

include scalars

theorem Scalars.mem_keys {key : String} :
    key ∈ (state.store.keys.filter fun key => Text.isName key.toList) ↔ state.Bound key := by
  rw [List.mem_filter, Store.mem_keys]
  constructor
  · rintro ⟨present, name⟩
    exact ⟨present, scalars.identifiers key present name⟩
  · rintro ⟨present, identifier⟩
    exact ⟨present, Text.isName_of_isIdentifier identifier⟩

theorem Scalars.exists_namesFrom
    (each : ∀ key, state.Bound key → ∃ shown, state.shownAs key = .ok shown) (head : String) :
    ∃ names, state.namesFrom head = .ok names := by
  rw [namesFrom_eq]
  cases ran : (state.store.keys.filter fun key => Text.isName key.toList).mapM state.shownAs with
  | error fault =>
    obtain ⟨key, member, failed⟩ := exists_of_mapM_eq_error ran
    obtain ⟨shown, read⟩ := each key (scalars.mem_keys.mp member)
    rw [failed] at read
    contradiction
  | ok stored => exact ⟨_, rfl⟩

/-- What a listing shows, if it succeeds. -/
theorem Scalars.namesFrom_eq_ok (listed : state.namesFrom head = .ok names) :
    (∀ key, state.Bound key → ∃ shown, state.shownAs key = .ok shown) ∧
      (names.Pairwise fun first second => compare first second = .lt) ∧
      ∀ name, name ∈ names ↔
        (∃ key, state.Bound key ∧ state.shownAs key = .ok name) ∧ head.toList <+: name.toList := by
  rw [namesFrom_eq] at listed
  cases ran : (state.store.keys.filter fun key => Text.isName key.toList).mapM state.shownAs with
  | error fault =>
    rw [ran] at listed
    contradiction
  | ok stored =>
    rw [ran] at listed
    cases listed
    have shown : ∀ name, name ∈ stored ↔ ∃ key, state.Bound key ∧ state.shownAs key = .ok name := by
      intro name
      constructor
      · intro member
        obtain ⟨key, present, read⟩ := exists_item_of_mapM ran member
        exact ⟨key, scalars.mem_keys.mp present, read⟩
      · rintro ⟨key, bound, read⟩
        obtain ⟨other, member, also⟩ := exists_of_mapM_eq_ok ran (scalars.mem_keys.mpr bound)
        cases read.symm.trans also
        exact member
    have unregistered : ∀ name, name ∉ state.associative.toList := by
      intro name member
      have absent := scalars.indexed name
      rw [isAssociative, Std.ExtTreeSet.contains_iff_mem.mpr (Std.ExtTreeSet.mem_toList.mp member)]
        at absent
      contradiction
    refine ⟨fun key bound => ?_, Std.ExtTreeSet.ordered_toList.filter _, fun name => ?_⟩
    · obtain ⟨other, -, read⟩ := exists_of_mapM_eq_ok ran (scalars.mem_keys.mpr bound)
      exact ⟨other, read⟩
    · rw [List.mem_filter, Std.ExtTreeSet.mem_toList, Std.ExtTreeSet.mem_ofList,
        List.contains_iff_mem, List.mem_append, or_iff_left (unregistered name), shown,
        List.isPrefixOf_iff_prefix]

/-- No mimic begins with the text, if all that has a value is listed: of the longest of them, only
the array would be listed that it seems to be an element of. -/
theorem Scalars.not_prefix_of_lists (lists : state.ListsBound head names) {array suffix : String}
    (mimics : state.Mimics array suffix) : ¬ head.toList <+: (elementKey array suffix).toList := by
  classical
  intro begins
  let mimicked := {key ∈ state.store.keys.toFinset |
    ∃ array suffix, key = elementKey array suffix ∧ state.Mimics array suffix ∧
      head.toList <+: key.toList}
  have mem_mimicked : ∀ {array suffix}, state.Mimics array suffix →
      head.toList <+: (elementKey array suffix).toList → elementKey array suffix ∈ mimicked := by
    intro array suffix mimics begins
    refine Finset.mem_filter.mpr ⟨?_, array, suffix, rfl, mimics, begins⟩
    exact List.mem_toFinset.mpr ((Store.mem_keys _ _).mpr mimics.bound.present)
  obtain ⟨longest, member, longer⟩ :=
    mimicked.exists_max_image (·.toList.length) ⟨_, mem_mimicked mimics begins⟩
  obtain ⟨-, array, suffix, rfl, mimics, begins⟩ := Finset.mem_filter.mp member
  obtain ⟨-, -, members⟩ := scalars.namesFrom_eq_ok lists.listed
  have listed := (lists.members _).mpr ⟨mimics.bound, begins⟩
  obtain ⟨⟨key, bound, shown⟩, -⟩ := (members _).mp listed
  rcases (scalars.shownAs_eq_ok_iff bound).mp shown with ⟨plain, rfl⟩ | ⟨last, rfl, also, -⟩
  · exact plain mimics.isElementName
  · -- The key that it is listed for is a mimic itself, and longer.
    have bounded : (elementKey (elementKey array suffix) last).toList.length ≤
        (elementKey array suffix).toList.length :=
          longer _ (mem_mimicked also (begins.trans (by simp)))
    rw [toList_elementKey (elementKey array suffix), List.length_append,
      List.length_cons] at bounded
    omega

/-- The listing shows what has a value, exactly if no mimic begins with the text, and if it is known
of each mimic that it is one. -/
theorem Scalars.exists_listsBound_iff (head : String) :
    (∃ names, state.ListsBound head names) ↔
      ∀ array suffix, state.Mimics array suffix →
        ¬ head.toList <+: (elementKey array suffix).toList ∧
          ((state.callArray? array).isSome = true ∨
            ∃ n < Text.numberLimit, suffix = toString n) := by
  constructor
  · rintro ⟨names, lists⟩ array suffix mimics
    refine ⟨scalars.not_prefix_of_lists lists mimics, ?_⟩
    obtain ⟨shown, read⟩ := (scalars.namesFrom_eq_ok lists.listed).1 _ mimics.bound
    rcases (scalars.shownAs_eq_ok_iff mimics.bound).mp read with
      ⟨plain, -⟩ | ⟨last, same, also, known⟩
    · exact absurd mimics.isElementName plain
    · obtain ⟨rfl, rfl⟩ := eq_of_elementKey_of_isIndex mimics.index also.index same
      refine ((scalars.exists_isArray_iff mimics.identifier).mp known).imp_right fun readable => ?_
      exact readable (scalars.indexed array) suffix mimics.bound.present mimics.index
  · intro clear
    have known : ∀ {array suffix}, state.Mimics array suffix →
        ∃ answer, state.isArray array = .ok answer := by
      intro array suffix mimics
      rw [scalars.exists_isArray_iff mimics.identifier, or_iff_not_imp_left]
      intro uncalled _ other present index
      have also := scalars.mimics mimics.identifier present index
      exact (clear array other also).2.resolve_left uncalled
    have shown : ∀ key, state.Bound key → ∃ name, state.shownAs key = .ok name := by
      intro key bound
      by_cases element : IsElementName key
      · obtain ⟨array, suffix, nonempty, index, rfl⟩ := element
        have mimics : state.Mimics array suffix := ⟨bound, nonempty, index⟩
        exact ⟨array, (scalars.shownAs_eq_ok_iff bound).mpr
          (.inr ⟨suffix, rfl, mimics, known mimics⟩)⟩
      · exact ⟨key, scalars.shownAs_of_not element⟩
    obtain ⟨names, listed⟩ := scalars.exists_namesFrom shown head
    obtain ⟨-, ascending, members⟩ := scalars.namesFrom_eq_ok listed
    refine ⟨names, listed, ascending, fun name => ?_⟩
    rw [members]
    refine and_congr_left fun begins => ⟨?_, fun bound => ⟨name, bound, ?_⟩⟩
    · rintro ⟨key, bound, read⟩
      rcases (scalars.shownAs_eq_ok_iff bound).mp read with ⟨-, rfl⟩ | ⟨suffix, rfl, mimics, -⟩
      · exact bound
      · exact absurd (begins.trans (by simp)) (clear _ _ mimics).1
    · apply scalars.shownAs_of_not
      rintro ⟨array, suffix, nonempty, index, rfl⟩
      exact (clear array suffix ⟨bound, nonempty, index⟩).1 begins

end Listing

section Assigning

open Running

variable {name : String}

/-- An assignment to one name does not change what stands under another. -/
theorem get?_assign_of_ne {key : String} (other : name ≠ key) (value : String) (state : State) :
    (after (assign name value) state).store.get? key = state.store.get? key := by
  rcases after_assign_cases name value state with ⟨-, same⟩ | ⟨-, same⟩ | ⟨queries, base, -, same⟩
  · rw [same]
  · rw [same]
  · rw [same]
    exact (state.get?_assigned name value key).trans (if_neg other)

theorem Scalars.assign (scalars : state.Scalars) (identifier : Text.isIdentifier name.toList = true)
    (value : String) : Scalars (after (assign name value) state) where
  indexed other := by
    rcases after_assign_cases name value state with
      ⟨-, same⟩ | ⟨-, same⟩ | ⟨queries, base, -, same⟩ <;>
    · rw [same]
      exact scalars.indexed other
  undeclared other letter declares := by
    rcases after_assign_cases name value state with
      ⟨-, same⟩ | ⟨-, same⟩ | ⟨queries, base, -, same⟩
    · rw [same, scalars.undeclared other letter declares]
    · rw [same]
      exact scalars.undeclared other letter declares
    · rw [same]
      have unlike : Attribute.exported ≠ letter := by
        rintro rfl
        exact absurd declares (by decide)
      exact (state.hasAttribute_assigned name value other unlike).trans
        (scalars.undeclared other letter declares)
  identifiers key present isName := by
    by_cases own : name = key
    · exact own ▸ identifier
    · rw [Store.has_eq_isSome_get?, get?_assign_of_ne own, ← Store.has_eq_isSome_get?] at present
      exact scalars.identifiers key present isName

/-- Scalars are assigned one after the other. -/
def assignAll (assignments : List (String × String)) (state : State) : State :=
  performAll (assignments.map fun entry => .scalar entry.1 entry.2) state

/-- Assigning identifiers puts in what is assigned, and no arrays. Of the variables that the shell
computes, `SECONDS` may refuse its value. -/
theorem Scalars.assignAll (scalars : state.Scalars) (unhindered : state.Unhindered)
    {assignments : List (String × String)}
    (identifiers : ∀ entry ∈ assignments, Text.isIdentifier entry.1.toList = true) :
    (assignAll assignments state).Scalars ∧
      ∀ key, key ≠ "SECONDS" → ((assignAll assignments state).store.has key = true ↔
        state.store.has key = true ∨ key ∈ assignments.map Prod.fst) := by
  induction assignments generalizing state with
  | nil => exact ⟨scalars, fun key _ => by simp [State.assignAll, performAll]⟩
  | cons entry rest inductionHypothesis =>
    obtain ⟨name, value⟩ := entry
    have identifier : Text.isIdentifier name.toList = true := identifiers _ List.mem_cons_self
    have assigned : State.assignAll ((name, value) :: rest) state =
        State.assignAll rest (after (State.assign name value) state) :=
      congrArg (performAll _) (after_setVariable_of_free (unhindered.free identifier) value)
    have grows : Grows (fun _ => True) state (after (State.assign name value) state) :=
      .of_touches (touches_assign trivial value state : Touches name _ False state _)
    obtain ⟨still, stored⟩ := inductionHypothesis (scalars.assign identifier value)
      (grows.unhindered_of unhindered) fun entry member =>
        identifiers entry (List.mem_cons_of_mem _ member)
    rw [assigned]
    refine ⟨still, fun key timed => ?_⟩
    rw [stored key timed, List.map_cons, List.mem_cons, Store.has_eq_isSome_get?]
    by_cases own : name = key
    · subst own
      rw [get?_after_assign value (unhindered _ _ (by decide)) timed]
      simp
    · rw [get?_assign_of_ne own, ← Store.has_eq_isSome_get?, or_iff_right (Ne.symm own)]

end Assigning

/-- Where there are only scalars, the names that begin with a text are listed exactly if none of
them is spelled like an element, and if it is known of all others that are spelled so that they are:
the index has few enough digits to be read, or the array is one of the call stack. After identifiers
were assigned, the listings for all texts are exact if no name, whether it had a value before or was
assigned, is spelled like an element, and only then. -/
theorem scalars_are_listed_iff (scalars : state.Scalars) :
    (∀ head, (∃ names, state.ListsBound head names) ↔
      ∀ array suffix, state.Mimics array suffix →
        ¬ head.toList <+: (elementKey array suffix).toList ∧
          ((state.callArray? array).isSome = true ∨ ∃ n < Text.numberLimit, suffix = toString n)) ∧
    (state.Unhindered → ∀ assignments : List (String × String),
      (∀ entry ∈ assignments, Text.isIdentifier entry.1.toList = true) →
        ((∀ head, ∃ names, (assignAll assignments state).ListsBound head names) ↔
          ∀ name, state.Bound name ∨ name ∈ assignments.map Prod.fst → ¬ IsElementName name)) := by
  refine ⟨scalars.exists_listsBound_iff, fun unhindered assignments identifiers => ?_⟩
  obtain ⟨still, stored⟩ := scalars.assignAll unhindered identifiers
  have bound_iff : ∀ {name}, IsElementName name → ((assignAll assignments state).Bound name ↔
      state.Bound name ∨ name ∈ assignments.map Prod.fst) := by
    intro name element
    have timed : name ≠ "SECONDS" := by
      rintro rfl
      exact absurd element (by decide)
    constructor
    · rintro ⟨present, identifier⟩
      exact ((stored name timed).mp present).imp_left fun before => ⟨before, identifier⟩
    · rintro (before | new)
      · exact ⟨(stored name timed).mpr (.inl before.present), before.identifier⟩
      · obtain ⟨entry, member, rfl⟩ := List.mem_map.mp new
        exact ⟨(stored _ timed).mpr (.inr new), identifiers entry member⟩
  constructor
  · intro lists name known element
    obtain ⟨array, suffix, nonempty, index, rfl⟩ := id element
    have mimics : (assignAll assignments state).Mimics array suffix :=
      ⟨(bound_iff element).mpr known, nonempty, index⟩
    exact ((still.exists_listsBound_iff "").mp (lists "") array suffix mimics).1
      (List.nil_prefix ..)
  · intro plain head
    refine (still.exists_listsBound_iff head).mpr fun array suffix mimics => ?_
    have element := mimics.isElementName
    exact absurd element (plain _ ((bound_iff element).mp mimics.bound))

/-- Names with underscores, digits and both, of which none ends in an underscore and an index. -/
def plainAssignments : List (String × String) :=
  [("x_y", "p"), ("x", "q"), ("x1", "r"), ("x_01", "s"), ("y_x", "t"), ("x", "u")]

theorem scalars_empty : Scalars {} where
  indexed _ := rfl
  undeclared _ _ _ := rfl
  identifiers _ present := absurd present (by simp [Store.has])

theorem plainAssignments_are_listed :
    (∀ head, ∃ names, (assignAll plainAssignments {}).ListsBound head names) ∧
      (assignAll plainAssignments {}).namesFrom "x" = .ok ["x", "x1", "x_01", "x_y"] := by
  refine ⟨?_, by decide +kernel⟩
  refine ((scalars_are_listed_iff scalars_empty).2 (unhindered_of_empty rfl) plainAssignments
    (by decide)).mpr ?_
  rintro name (bound | assigned)
  · exact absurd bound.present (by simp [Store.has])
  · revert name
    decide

/-- A scalar that is spelled like an element. -/
def mimicAssignments : List (String × String) := [("x_1", "v")]

/-- A name is listed that has no value, and the one that has a value is not. -/
theorem mimicAssignments_are_not_listed :
    (assignAll mimicAssignments {}).Scalars ∧ (assignAll mimicAssignments {}).Bound "x_1" ∧
      (assignAll mimicAssignments {}).namesFrom "x" = .ok ["x"] ∧
      ¬ ∃ names, (assignAll mimicAssignments {}).ListsBound "x" names := by
  have scalars : (assignAll mimicAssignments {}).Scalars :=
    (scalars_empty.assignAll (unhindered_of_empty rfl) (by decide)).1
  have bound : (assignAll mimicAssignments {}).Bound "x_1" := ⟨by decide +kernel, by decide⟩
  refine ⟨scalars, bound, by decide +kernel, ?_⟩
  rw [scalars.exists_listsBound_iff]
  intro clear
  have mimics : (assignAll mimicAssignments {}).Mimics "x" "1" := ⟨bound, by decide, by decide⟩
  exact (clear "x" "1" mimics).1 (by decide)

end State

end Shell
