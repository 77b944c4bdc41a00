import Shell.Proofs.Arithmetic.Evaluation
import Shell.Proofs.Variable.ElementZero
import Shell.Proofs.Variable.Listing
import Shell.Proofs.Variable.Unset

/-!
# What unsetting leaves

A value may stand under the name of a variable or under the keys of its elements, and attributes may
make an array of it. Unsetting the variable leaves none of this. Unsetting a single element drops
its key only, so that the element at zero is still there if it is a scalar.
-/

namespace Shell.State

open Running Arithmetic

variable {state last : State} {name : String}

section Clearing

/-- Keys can be dropped one after the other only if they are all there, each once. -/
theorem nodup_of_execute_dropKeys {keys : List String} {value : Unit}
    (ran : execute (keys.forM dropKey) state = (.ok value, last)) :
    keys.Nodup ∧ ∀ key ∈ keys, state.store.has key = true := by
  induction keys generalizing state with
  | nil => simp
  | cons key rest inductionHypothesis =>
    rw [execute_forM_cons] at ran
    obtain ⟨_, middle, dropped, others⟩ := execute_bind_eq_ok.mp ran
    obtain ⟨present, rfl⟩ := execute_dropKey_ok dropped
    obtain ⟨distinct, still⟩ := inductionHypothesis others
    have kept : ∀ other ∈ rest, key ≠ other ∧ state.store.has other = true := by
      intro other member
      have left := still other member
      rw [Store.has_eq_isSome_get?, Store.get?_drop] at left
      split at left
      · contradiction
      · rename_i different
        exact ⟨different, by rwa [Store.has_eq_isSome_get?]⟩
    refine ⟨List.nodup_cons.mpr ⟨fun member => (kept key member).1 rfl, distinct⟩, ?_⟩
    exact List.forall_mem_cons.mpr ⟨present, fun other member => (kept other member).2⟩

/-- An array is cleared without a failure only if its indices can be read. -/
theorem readable_of_execute_clearArray {value : Unit}
    (ran : execute (clearArray name) state = (.ok value, last)) : state.Readable name := by
  intro indexed
  unfold clearArray at ran
  rw [execute_get_bind] at ran
  obtain ⟨keys, same, computed, dropped⟩ := execute_bind_eq_ok.mp ran
  rw [execute_ofExcept] at computed
  obtain ⟨listing, rfl⟩ := Prod.mk.inj computed
  rw [elementKeys, indexed, if_neg Bool.false_ne_true] at listing
  cases read : state.indices name with
  | error fault =>
    rw [read] at listing
    contradiction
  | ok numbers =>
    rw [read] at listing
    cases listing
    obtain ⟨distinct, present⟩ := nodup_of_execute_dropKeys dropped
    refine readable_of_nodup_indices read (distinct.of_map _) (fun n member => ?_) indexed
    exact present _ (List.mem_map_of_mem member)

/-- A variable that is unset loses its elements first, and then all else. -/
theorem eq_of_execute_unsetName {value : Unit}
    (ran : execute (unsetName name) state = (.ok value, last)) :
    ∃ keys, (∀ key, key ∈ keys ↔ state.Lists name key) ∧
      last = noteUnset name (unsetPlain name { state with store := state.store.dropAll keys }) := by
  obtain ⟨_, checked, allowed, unset⟩ := execute_bind_eq_ok.mp ran
  obtain rfl := execute_checkWritable allowed
  obtain ⟨_, cleared, clearing, rest⟩ := execute_bind_eq_ok.mp unset
  obtain ⟨keys, dropped, listed⟩ := execute_clearArray (readable_of_execute_clearArray clearing)
  rw [clearing] at dropped
  obtain rfl := (Prod.mk.inj dropped).2
  exact ⟨keys, listed, (Prod.mk.inj rest).2.symm⟩

end Clearing

section Variable

theorem associative_noteUnset (name other : String) (state : State) :
    (noteUnset other state).isAssociative name = state.isAssociative name := by
  obtain ⟨notes, same⟩ := noteUnset_eq other state
  rw [same]
  rfl

/-- Nothing is known of the variable: it has no value, no elements that are listed, and none of the
attributes that are lost with it. -/
structure Erased (state : State) (name : String) : Prop where
  valueless : state.store.has name = false
  indexed : state.isAssociative name = false
  elements : ∀ suffix, Text.isIndex suffix.toList = true →
    state.store.has (elementKey name suffix) = false
  attributes : ∀ letter ∈ lostAttributes, state.store.hasAttribute name letter = false

theorem erased_of_execute_unsetName {value : Unit}
    (ran : execute (unsetName name) state = (.ok value, last)) : last.Erased name := by
  obtain ⟨keys, listed, rfl⟩ := eq_of_execute_unsetName ran
  refine ⟨?_, ?_, fun suffix index => ?_, fun letter lost => ?_⟩
  · rw [Store.has_eq_isSome_get?, store_noteUnset, get?_unsetPlain, Store.get?_drop, if_pos rfl]
    rfl
  · rw [associative_noteUnset, isAssociative_unsetPlain, beq_self_eq_true]
    rfl
  · rw [Store.has_eq_isSome_get?, store_noteUnset, get?_unsetPlain, Store.get?_drop,
      if_neg (elementKey_ne_self name suffix).symm, Store.get?_dropAll]
    split
    · rfl
    · rename_i unlisted
      rw [← Store.has_eq_isSome_get?]
      by_contra present
      rw [Bool.not_eq_false] at present
      exact unlisted ((listed _).mpr ⟨present, suffix, rfl, .inr index⟩)
  · rw [store_noteUnset]
    exact hasAttribute_loseAttributes _ name lost

section Reading

variable (erased : state.Erased name)

include erased

theorem Erased.indices : state.indices name = .ok [] := by
  have none : ((state.suffixes name).filter fun suffix => Text.isIndex suffix.toList) = [] := by
    rw [List.filter_eq_nil_iff]
    intro suffix present index
    rw [mem_suffixes, erased.elements suffix index] at present
    contradiction
  rw [State.indices, none]
  rfl

theorem Erased.direct : state.store.isNameref name = false :=
  erased.attributes _ (show Attribute.nameref ∈ lostAttributes by decide)

variable (ordinary : isOrdinary name = true)

include ordinary

theorem Erased.isArray : state.isArray name = .ok false := by
  have undeclared : state.isDeclaredArray name = false := by
    simp [isDeclaredArray, callArray?_of_isOrdinary ordinary, erased.indexed,
      erased.attributes _ (show Attribute.indexed ∈ lostAttributes by decide),
      erased.attributes _ (show Attribute.associative ∈ lostAttributes by decide)]
  rw [State.isArray, undeclared, if_neg Bool.false_ne_true, erased.indices]
  rfl

theorem Erased.elements_eq : state.elements name = .ok [] := by
  rw [State.elements, callArray?_of_isOrdinary ordinary, resolved_of_not_nameref erased.direct]
  change state.ownElements name = _
  rw [ownElements, erased.indexed, if_neg Bool.false_ne_true, erased.indices]
  rfl

theorem Erased.isStored : state.isStored name = .ok false := by
  rw [State.isStored, callArray?_of_isOrdinary ordinary, erased.valueless, erased.isArray ordinary]
  dsimp only
  rw [if_neg Bool.false_ne_true]
  split <;> rfl

variable (identifier : Text.isIdentifier name.toList = true)

include identifier

theorem Erased.isSet : state.isSet name = pure false := by
  have named : alwaysSet.contains name = false := by
    rw [List.contains_eq_mem, decide_eq_false_iff_not]
    intro member
    have special : ∀ known ∈ alwaysSet, isOrdinary known = false := by decide
    rw [special name member] at ordinary
    contradiction
  rw [isSet_of_isIdentifier identifier erased.direct, named, if_neg Bool.false_ne_true,
    erased.isStored ordinary]
  rfl

theorem Erased.value : state.value name = pure "" := by
  rw [value_scalar identifier erased.direct ordinary,
    stored_of_isStored (erased.isStored ordinary)]
  rfl

end Reading

end Variable

section Element

/-- A numeral as a subscript: digits of any script, at least one. -/
structure Numeral (digits : List Char) : Prop where
  nonempty : digits ≠ []
  decimal : ∀ c ∈ digits, Text.isDecimal c = true

/-- The number that an indexed array is asked for by a numeral. -/
def numeralIndex (digits : List Char) : Except Fault (Option Nat) :=
  if digits.length ≤ Text.digitLimit then .ok (some (spelledNumber digits))
  else .error (.numeralTooLong digits.length)

/-- The store key of the element that a numeral denotes. -/
def numeralKey (state : State) (name : String) (digits : List Char) : String :=
  elementKey name
    (if state.isAssociative name then String.ofList digits else toString (spelledNumber digits))

/-- A numeral denotes the element at zero of an array that is not associative. -/
def denotesZero (state : State) (name : String) (digits : List Char) : Bool :=
  !state.isAssociative name && spelledNumber digits == 0

variable {digits : List Char} (numeral : Numeral digits)

include numeral

theorem Numeral.subscriptIndex (state : State) (read : String → Draw String) (name : String) :
    state.subscriptIndex read name (String.ofList digits) =
      MonadExcept.ofExcept (numeralIndex digits) := by
  have written : Written .sum (.operand (.number digits numeral.nonempty numeral.decimal)) digits :=
    .loosen (.loosen (.operand (.number digits numeral.nonempty numeral.decimal)))
  rw [State.subscriptIndex, written.evaluate, Expression.evaluate, Leaf.token, operand,
    readNat?_of_isDecimal numeral.nonempty numeral.decimal, numeralIndex]
  by_cases short : digits.length ≤ Text.digitLimit
  · rw [if_pos short, if_pos short]
    dsimp only
    rw [pure_bind, normalIndex?, if_pos (Int.natCast_nonneg _), Int.toNat_natCast]
  · rw [if_neg short, if_neg short]
    rfl

theorem Numeral.key (read : String → Draw String) :
    Subscript.key read (String.ofList digits) = pure (String.ofList digits) := by
  have unquoted : Subscript.unquote digits = digits := by
    cases spelled : digits with
    | nil => rfl
    | cons c rest =>
      have first : Text.isDecimal c = true := numeral.decimal c (by simp [spelled])
      have unmarked : ¬ (c = '\x27' ∨ c = '\x22') := by
        rintro (rfl | rfl)
        all_goals exact absurd first (by decide)
      rw [Subscript.unquote, if_neg fun marked => unmarked marked.1]
  have plain : '$' ∉ digits := fun member => absurd (numeral.decimal _ member) (by decide)
  rw [Subscript.key, String.toList_ofList, unquoted, Subscript.expand, String.toList_ofList,
    Subscript.expandAfter_of_notMem read plain, pure_bind]

theorem Numeral.single : isWhole (String.ofList digits) = false := by
  cases spelled : digits with
  | nil => exact absurd spelled numeral.nonempty
  | cons c rest =>
    have first : Text.isDecimal c = true := numeral.decimal c (by simp [spelled])
    refine Subscript.isWhole_of_head String.toList_ofList ⟨?_, ?_⟩
    all_goals
      rintro rfl
      exact absurd first (by decide)

variable (identifier : Text.isIdentifier name.toList = true)
  (direct : state.store.isNameref name = false)

include identifier

theorem Numeral.parse?_text :
    Reference.parse? (Reference.text ⟨name, String.ofList digits⟩) =
      some ⟨name, String.ofList digits⟩ :=
  Reference.parse?_text identifier fun empty => numeral.nonempty (by simpa using empty)

include direct

/-- Unsetting an element drops its key. -/
theorem Numeral.eq_of_execute_unset {value : Unit}
    (ran : execute (State.unset (Reference.text ⟨name, String.ofList digits⟩)) state =
      (.ok value, last)) :
    last = { state with store := state.store.drop (state.numeralKey name digits) } ∧
      (state.isAssociative name = false →
        digits.length ≤ Text.digitLimit ∧ spelledNumber digits < Text.numberLimit) := by
  rw [execute_unset_text (numeral.parse?_text identifier) direct numeral.single] at ran
  obtain ⟨_, checked, allowed, dropped⟩ := execute_bind_eq_ok.mp ran
  obtain rfl := execute_checkWritable allowed
  unfold numeralKey
  cases associative : checked.isAssociative name with
  | true =>
    rw [execute_dropElement_of_key associative (numeral.key checked.value)] at dropped
    exact ⟨(Prod.mk.inj dropped).2.symm, fun plain => absurd plain (by decide)⟩
  | false =>
    have named := numeral.subscriptIndex checked checked.value name
    rw [execute_dropElement_of_index associative named, numeralIndex] at dropped
    split at dropped
    · rename_i short
      have number :=
        execute_ofExcept (Except.ok (some (spelledNumber digits)) : Except Fault _) checked
      rw [execute_bind_of_ok number] at dropped
      obtain ⟨key, same, spelled, gone⟩ := execute_bind_eq_ok.mp dropped
      rw [execute_ofExcept] at spelled
      obtain ⟨written, rfl⟩ := Prod.mk.inj spelled
      obtain ⟨small, rfl⟩ := indexKey_eq_ok written
      exact ⟨(Prod.mk.inj gone).2.symm, fun _ => ⟨short, small⟩⟩
    · cases (Prod.mk.inj dropped).1

variable (uncalled : state.callArray? name = none)

include uncalled

/-- An element that is not there: the one at zero is the scalar, and there is no other. -/
theorem Numeral.reads_scalar (missing : state.store.has (state.numeralKey name digits) = false)
    (spelled : state.isAssociative name = false →
      digits.length ≤ Text.digitLimit ∧ spelledNumber digits < Text.numberLimit) :
    state.isSet (Reference.text ⟨name, String.ofList digits⟩) =
        pure (state.denotesZero name digits && state.store.has name) ∧
      state.value (Reference.text ⟨name, String.ofList digits⟩) =
        pure (if state.denotesZero name digits then (state.store.get? name).getD "" else "") := by
  have parsed := numeral.parse?_text identifier
  obtain ⟨read, opened⟩ := @value_text state _ parsed
  have absent := get?_eq_none_of_has missing
  rw [isSet_text parsed, opened]
  unfold isElementSet element
  dsimp only
  rw [resolved_of_not_nameref direct, uncalled, numeral.single]
  unfold denotesZero
  unfold numeralKey at missing absent
  cases associative : state.isAssociative name with
  | true =>
    rw [associative, if_pos rfl] at missing absent
    simp [numeral.key, missing, absent]
  | false =>
    rw [associative, if_neg Bool.false_ne_true] at missing absent
    obtain ⟨short, small⟩ := spelled associative
    have index : ∀ read : String → Draw String,
        (state.subscriptIndex read name (String.ofList digits)).recover =
          pure (some (some (spelledNumber digits))) := by
      intro read
      rw [numeral.subscriptIndex, numeralIndex, if_pos short]
      rfl
    have key : (MonadExcept.ofExcept (indexKey name (spelledNumber digits)) : Draw String) =
        pure (elementKey name (toString (spelledNumber digits))) := by
      rw [indexKey_of_lt small]
      rfl
    generalize elementKey name (toString (spelledNumber digits)) = stored at missing absent key
    simp [index, key, missing, absent]

/-- An element that is not there counts as unset, unless it is the one at zero and there is a
scalar. -/
theorem Numeral.reads_unset_iff (missing : state.store.has (state.numeralKey name digits) = false)
    (spelled : state.isAssociative name = false →
      digits.length ≤ Text.digitLimit ∧ spelledNumber digits < Text.numberLimit) :
    (state.isSet (Reference.text ⟨name, String.ofList digits⟩) = pure false ∧
        state.value (Reference.text ⟨name, String.ofList digits⟩) = pure "") ↔
      ¬ (state.denotesZero name digits = true ∧ state.store.has name = true) := by
  obtain ⟨isSet, value⟩ := numeral.reads_scalar identifier direct uncalled missing spelled
  rw [isSet, value]
  cases zero : state.denotesZero name digits with
  | false => simp
  | true =>
    cases scalar : state.store.has name with
    | false => simp [get?_eq_none_of_has scalar]
    | true =>
      refine iff_of_false (fun unset => ?_) (by simp)
      have answers := congrArg (fun read : Draw Bool => (execute read {}).1) unset.1
      simp at answers

/-- Once an element is unset it is gone, unless it is the element at zero and there is a scalar. -/
theorem Numeral.unset_iff {value : Unit}
    (ran : execute (State.unset (Reference.text ⟨name, String.ofList digits⟩)) state =
      (.ok value, last)) :
    (last.isSet (Reference.text ⟨name, String.ofList digits⟩) = pure false ∧
        last.value (Reference.text ⟨name, String.ofList digits⟩) = pure "") ↔
      ¬ (state.denotesZero name digits = true ∧ state.store.has name = true) := by
  obtain ⟨rfl, spelled⟩ := numeral.eq_of_execute_unset identifier direct ran
  have missing : (state.store.drop (state.numeralKey name digits)).has
      (state.numeralKey name digits) = false := by
    rw [Store.has_eq_isSome_get?, Store.get?_drop, if_pos rfl]
    rfl
  have kept : (state.store.drop (state.numeralKey name digits)).has name =
      state.store.has name := by
    rw [Store.has_eq_isSome_get?, Store.get?_drop, numeralKey, if_neg (elementKey_ne_self name _),
      ← Store.has_eq_isSome_get?]
  rw [← kept]
  exact numeral.reads_unset_iff identifier direct uncalled missing spelled

end Element

/-- Once a variable is unset nothing of it is left, and once an element is unset it is gone, unless
it is the element at zero and there is a scalar, which is kept. -/
theorem unset_takes_effect_iff (identifier : Text.isIdentifier name.toList = true)
    (direct : state.store.isNameref name = false) (ordinary : isOrdinary name = true) :
    (∀ last, execute (State.unset name) state = (.ok (), last) →
      last.isSet name = pure false ∧ last.value name = pure "" ∧ last.elements name = .ok [] ∧
        last.isArray name = .ok false) ∧
      ∀ digits, Numeral digits → ∀ last,
        execute (State.unset (Reference.text ⟨name, String.ofList digits⟩)) state = (.ok (), last) →
          ((last.isSet (Reference.text ⟨name, String.ofList digits⟩) = pure false ∧
              last.value (Reference.text ⟨name, String.ofList digits⟩) = pure "") ↔
            ¬ (state.denotesZero name digits = true ∧ state.store.has name = true)) := by
  refine ⟨fun last ran => ?_, fun digits numeral last ran =>
    numeral.unset_iff identifier direct (callArray?_of_isOrdinary ordinary state) ran⟩
  rw [execute_unset_of_direct (Reference.parse?_of_isIdentifier identifier) direct] at ran
  have erased := erased_of_execute_unsetName ran
  exact ⟨erased.isSet ordinary identifier, erased.value ordinary identifier,
    erased.elements_eq ordinary, erased.isArray ordinary⟩

/-- An array with a gap, and a scalar under its name. -/
def mixedArray : State :=
  { store := ((({} : Store).put "x" "v").put "x_0" "p").put "x_12" "q" }

theorem mixedArray_is_unset :
    mixedArray.store.isNameref "x" = false ∧ isOrdinary "x" = true ∧
      (∃ last, execute (State.unset "x") mixedArray = (.ok (), last) ∧
        last.value "x" = pure "" ∧ last.elements "x" = .ok []) ∧
      Numeral ['0', '1', '2'] ∧
      ∃ last, execute (State.unset "x[012]") mixedArray = (.ok (), last) ∧
        last.isSet "x[012]" = pure false ∧ last.value "x[012]" = pure "" := by
  have numeral : Numeral ['0', '1', '2'] := ⟨by decide, List.all_eq_true.mp (by decide)⟩
  have direct : mixedArray.store.isNameref "x" = false := by decide +kernel
  have ordinary : isOrdinary "x" = true := by decide +kernel
  obtain ⟨whole, element⟩ := unset_takes_effect_iff (by decide) direct ordinary
  have gone := element _ numeral
  rw [show Reference.text ⟨"x", String.ofList ['0', '1', '2']⟩ = "x[012]" by decide] at gone
  have first : execute (State.unset "x") mixedArray =
      (.ok (), after (State.unset "x") mixedArray) := execute_eq_after (by decide +kernel)
  have second : execute (State.unset "x[012]") mixedArray =
      (.ok (), after (State.unset "x[012]") mixedArray) := execute_eq_after (by decide +kernel)
  obtain ⟨-, value, elements, -⟩ := whole _ first
  exact ⟨direct, ordinary, ⟨_, first, value, elements⟩, numeral, _, second,
    (gone _ second).mpr (by decide +kernel)⟩

/-- A scalar. -/
def loneScalar : State := { store := ({} : Store).put "x" "v" }

/-- Unsetting the element at zero of a scalar succeeds, and leaves the scalar. -/
theorem loneScalar_survives :
    ∃ last, execute (State.unset "x[0]") loneScalar = (.ok (), last) ∧
      (execute (last.isSet "x[0]") {}).1 = .ok true ∧
      (execute (last.value "x[0]") {}).1 = .ok "v" ∧
      ¬ (last.isSet "x[0]" = pure false ∧ last.value "x[0]" = pure "") := by
  have value : (execute ((after (State.unset "x[0]") loneScalar).value "x[0]") {}).1 = .ok "v" := by
    decide +kernel
  refine ⟨after (State.unset "x[0]") loneScalar, execute_eq_after (by decide +kernel),
    by decide +kernel, value, fun gone => ?_⟩
  rw [gone.2] at value
  exact absurd value (by decide)

end Shell.State
