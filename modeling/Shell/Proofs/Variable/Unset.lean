import Shell.Proofs.Variable.Ownership
import Shell.Proofs.Variable.Reading
import Shell.Proofs.Variable.Subscript

/-!
# What is not set reads as empty

Whether a variable is set and what its value is are found in two ways. They agree on
special parameters, arrays, elements and namerefs: what is not set reads as the empty
text. There are two exceptions, and no others. The last argument is read under a name
that never counts as set for it, and a scalar is read as all elements of an array
though it has none.
-/

namespace Shell.State

open Running

/-- What a name that is not set reads as. -/
def leftover (state : State) (name : String) : String :=
  match Reference.parse? (state.resolved name) with
  | some reference =>
    let array := state.resolved reference.array
    if isWhole reference.subscript && (state.callArray? array).isNone then
      (state.store.get? array).getD ""
    else ""
  | none => if state.resolved name = "_" then state.lastArgument else ""

variable {state : State} {name : String} {queries last : Queries}

theorem get?_eq_none_of_has {store : Store} {key : String} (missing : store.has key = false) :
    store.get? key = none := by
  rw [Store.has_eq_isSome_get?] at missing
  simpa using missing

/-- An index outside the bounds of a list has no value there. -/
theorem valueAt_eq_none {values : List String} {index : Int}
    (outside :
      (decide (-(values.length : Int) ≤ index) && decide (index < values.length)) = false) :
    valueAt values index = none := by
  rw [Bool.and_eq_false_iff, decide_eq_false_iff_not, decide_eq_false_iff_not] at outside
  unfold valueAt
  dsimp only
  by_cases negative : index < 0
  · rw [if_pos negative]
    have below : index + values.length < 0 := by omega
    rw [if_pos below]
  · rw [if_neg negative, if_neg negative, List.getElem?_eq_none_iff]
    omega

/-- A stored name that is not set reads as empty. -/
theorem stored_of_isStored (unset : state.isStored name = .ok false) :
    state.stored name = .ok "" := by
  unfold isStored at unset
  unfold stored
  split at unset
  · rename_i values found
    cases values with
    | error fault => exact nomatch unset
    | ok values =>
      have empty : values = [] := by simpa [Functor.map, Except.map] using unset
      rw [empty]
      rfl
  · cases present : state.store.has name with
    | true =>
      rw [present] at unset
      exact nomatch unset
    | false =>
      rw [present, if_neg Bool.false_ne_true] at unset
      rw [get?_eq_none_of_has present]
      dsimp only
      split at unset
      · rename_i valid
        rw [if_pos valid]
        cases listed : state.isArray name with
        | error fault =>
          rw [listed] at unset
          exact nomatch unset
        | ok array =>
          rw [listed] at unset
          have absent : (array && state.store.has (elementKey name "0")) = false :=
            Except.ok.inj unset
          cases array with
          | false => rfl
          | true =>
            rw [Bool.true_and] at absent
            change Except.ok ((state.store.get? (elementKey name "0")).getD "") = _
            rw [get?_eq_none_of_has absent]
            rfl
      · rename_i invalid
        rw [if_neg invalid]

/-- Of the variables that the shell computes only the last argument may count as not set. -/
theorem computed?_of_not_alwaysSet (ordinary : alwaysSet.contains name = false)
    (single : isWhole name = false) (foreground : name ≠ "!") :
    state.computed? name = if name = "_" then some (pure state.lastArgument) else none := by
  unfold computed?
  split
  case h_4 => exact absurd rfl foreground
  case h_6 | h_7 => exact absurd single (by decide)
  case h_9 => rfl
  case h_16 other _ _ _ _ _ _ => rw [if_neg other]
  all_goals exact absurd ordinary (by decide)

/-- Two readings that begin alike, when the first one finds that something is not set. -/
theorem execute_bind_of_unset {α : Type} {read : Draw α} {check : α → Draw Bool}
    {give : α → Draw String} {text : String}
    (unset : execute (read >>= check) queries = (.ok false, last))
    (each : ∀ value middle, execute (check value) middle = (.ok false, last) →
      execute (give value) middle = (.ok text, last)) :
    execute (read >>= give) queries = (.ok text, last) := by
  obtain ⟨value, middle, begun, checked⟩ := execute_bind_eq_ok.mp unset
  exact execute_bind_eq_ok.mpr ⟨value, middle, begun, each value middle checked⟩

section Elements

variable {reference : Reference} {values : Except Fault (List String)}

/-- An entry of the call stack. -/
theorem execute_element_of_stack
    (stack : state.callArray? (state.resolved reference.array) = some values)
    (unset : execute (state.isElementSet reference) queries = (.ok false, last)) :
    execute (state.element state.value reference) queries = (.ok "", last) := by
  unfold isElementSet at unset
  unfold element
  simp only [stack] at unset ⊢
  refine execute_bind_of_unset unset fun values read found => ?_
  split at found
  · rename_i whole
    rw [if_pos whole]
    obtain ⟨empty, rfl⟩ := Prod.mk.inj found
    have none : values = [] := by simpa using empty
    rw [none]
    rfl
  · rename_i single
    rw [if_neg single]
    refine execute_bind_of_unset found fun index middle checked => ?_
    obtain ⟨outside, rfl⟩ := Prod.mk.inj checked
    cases index with
    | none => rfl
    | some index =>
      change execute (pure ((valueAt values index).getD "")) middle = _
      rw [valueAt_eq_none (Except.ok.inj outside)]
      rfl

/-- All elements of an array that has none: its scalar, if there is one. -/
theorem execute_element_of_whole (array : state.callArray? (state.resolved reference.array) = none)
    (whole : isWhole reference.subscript = true)
    (unset : execute (state.isElementSet reference) queries = (.ok false, last)) :
    execute (state.element state.value reference) queries =
      (.ok ((state.store.get? (state.resolved reference.array)).getD ""), last) := by
  unfold isElementSet at unset
  unfold element
  simp only [array, whole, if_true, map_eq_pure_bind] at unset ⊢
  refine execute_bind_of_unset unset fun elements middle checked => ?_
  obtain ⟨none, rfl⟩ := Prod.mk.inj checked
  have empty : elements.isEmpty = true := by simpa using none
  rw [if_pos empty]
  rfl

/-- A single element that is not there. -/
theorem execute_element_of_single (array : state.callArray? (state.resolved reference.array) = none)
    (single : isWhole reference.subscript = false)
    (unset : execute (state.isElementSet reference) queries = (.ok false, last)) :
    execute (state.element state.value reference) queries = (.ok "", last) := by
  unfold isElementSet at unset
  unfold element
  simp only [array, single, Bool.false_eq_true, if_false, map_eq_pure_bind] at unset ⊢
  split at unset
  · rename_i associative
    rw [if_pos associative]
    refine execute_bind_of_unset unset fun key middle checked => ?_
    obtain ⟨missing, rfl⟩ := Prod.mk.inj checked
    rw [get?_eq_none_of_has (Except.ok.inj missing)]
    rfl
  · rename_i indexed
    rw [if_neg indexed]
    refine execute_bind_of_unset unset fun index middle checked => ?_
    cases found : index.join with
    | none =>
      rw [found] at checked
      obtain ⟨-, rfl⟩ := Prod.mk.inj checked
      rfl
    | some index =>
      rw [found] at checked
      refine execute_bind_of_unset checked fun key same looked => ?_
      obtain ⟨missing, rfl⟩ := Prod.mk.inj looked
      obtain ⟨element, scalar⟩ := Bool.or_eq_false_iff.mp (Except.ok.inj missing)
      rw [get?_eq_none_of_has element]
      by_cases zero : index = 0
      · have absent : state.store.has (state.resolved reference.array) = false := by
          simpa [zero] using scalar
        simp only [if_pos zero, get?_eq_none_of_has absent]
        rfl
      · simp only [if_neg zero]
        rfl

/-- An element that is not set. -/
theorem execute_element_of_unset
    (unset : execute (state.isElementSet reference) queries = (.ok false, last)) :
    execute (state.element state.value reference) queries =
      (.ok (if isWhole reference.subscript &&
          (state.callArray? (state.resolved reference.array)).isNone then
        (state.store.get? (state.resolved reference.array)).getD "" else ""), last) := by
  cases stack : state.callArray? (state.resolved reference.array) with
  | some values =>
    rw [execute_element_of_stack stack unset]
    simp
  | none =>
    cases whole : isWhole reference.subscript with
    | true => exact execute_element_of_whole stack whole unset
    | false => exact execute_element_of_single stack whole unset

end Elements

/-- A name without a subscript that is not set. -/
theorem execute_named_of_unset (unset : execute (if alwaysSet.contains name then pure true
      else if isWhole name then pure !state.positional.isEmpty
      else if name = "!" then pure (state.backgroundId != 0)
      else MonadExcept.ofExcept (state.isStored name) : Draw Bool) queries = (.ok false, last)) :
    execute ((state.computed? name).getD (MonadExcept.ofExcept (state.stored name))) queries =
      (.ok (if name = "_" then state.lastArgument else ""), last) := by
  cases always : alwaysSet.contains name with
  | true =>
    rw [always] at unset
    exact nomatch (Prod.mk.inj unset).1
  | false =>
    rw [always, if_neg Bool.false_ne_true] at unset
    cases whole : isWhole name with
    | true =>
      rw [whole, if_pos rfl] at unset
      obtain ⟨empty, rfl⟩ := Prod.mk.inj unset
      have none : state.positional = [] := by simpa using empty
      rcases Bool.or_eq_true_iff.mp whole with same | same
      · obtain rfl := eq_of_beq same
        change execute (pure (" ".intercalate state.positional)) queries = _
        rw [none]
        rfl
      · obtain rfl := eq_of_beq same
        change execute (pure ((Field.joiner state.separatorSetting).intercalate
          state.positional)) queries = _
        rw [none]
        rfl
    | false =>
      rw [whole, if_neg Bool.false_ne_true] at unset
      by_cases background : name = "!"
      · subst background
        obtain ⟨idle, rfl⟩ := Prod.mk.inj unset
        change execute (MonadExcept.ofExcept (if state.backgroundId = 0 then .ok "" else _)) _ = _
        rw [if_pos (by simpa using idle)]
        rfl
      · rw [if_neg background, execute_ofExcept] at unset
        obtain ⟨missing, rfl⟩ := Prod.mk.inj unset
        rw [computed?_of_not_alwaysSet always whole background]
        by_cases argument : name = "_"
        · rw [if_pos argument, if_pos argument]
          rfl
        · rw [if_neg argument, if_neg argument, stored_of_isStored missing]
          rfl

/-- A name that is not set reads as what is left over for it, unless subscripts are nested too deep.
Both readings ask the same of the sources, after the same queries. -/
theorem execute_value_of_unset (unset : execute (state.isSet name) queries = (.ok false, last)) :
    (execute (state.value name) queries).1 = .error .nestingTooDeep ∨
      execute (state.value name) queries = (.ok (state.leftover name), last) := by
  rw [isSet_eq] at unset
  rw [value, valueWithin_succ]
  unfold leftover
  cases parsed : Reference.parse? (state.resolved name) with
  | some reference =>
    rw [parsed] at unset
    have found := execute_element_of_unset unset
    have deeper := Draw.congruence_deepens.element (state.deepens_valueWithin state.nesting) state
      reference queries
    exact deeper.imp_right fun same => same.symm.trans found
  | none =>
    rw [parsed] at unset
    exact .inr (execute_named_of_unset unset)

theorem execute_toExpand {α : Type} (read : Draw α) (queries : Queries) :
    execute read.toExpand queries =
      ((execute read queries).1.mapError Stop.fault, (execute read queries).2) := rfl

/-- Requiring a variable where unset ones are errors: whether it is set is looked at first. -/
theorem execute_require (strict : state.options.nounset = true) (single : isWhole name = false) :
    execute (state.require name) queries =
      match execute (state.isSet name) queries with
      | (.ok true, last) => execute (state.value name).toExpand last
      | (.ok false, last) => (.error (.signal (.ofCause (.unbound name) "" "")), last)
      | (.error fault, last) => (.error (.fault fault), last) := by
  unfold require
  simp only [strict, single, Bool.not_false, Bool.true_and, if_true]
  rw [execute_bind, execute_toExpand]
  rcases execute (state.isSet name) queries with ⟨fault | found, last⟩
  · rfl
  · cases found <;> rfl

theorem execute_toExpand_ne_signal {α : Type} (read : Draw α) (queries : Queries)
    (signal : Signal) :
    (execute read.toExpand queries).1 ≠ .error (.signal signal) := by
  rw [execute_toExpand]
  rcases execute read queries with ⟨fault | value, last⟩
  · exact fun refused => nomatch refused
  · exact fun refused => nomatch refused

/-- Where unset variables are errors, requiring one is refused exactly if it is not set. -/
theorem execute_require_iff (strict : state.options.nounset = true) :
    (execute (state.require name) queries).1 = .error (.signal (.ofCause (.unbound name) "" "")) ↔
      isWhole name = false ∧ (execute (state.isSet name) queries).1 = .ok false := by
  cases whole : isWhole name with
  | true =>
    have reads : state.require name = (state.value name).toExpand := by
      unfold require
      simp [whole]
    rw [reads]
    exact ⟨fun refused => absurd refused (execute_toExpand_ne_signal _ _ _), nofun⟩
  | false =>
    rw [execute_require strict whole]
    rcases execute (state.isSet name) queries with ⟨fault | found, last⟩
    · exact ⟨nofun, fun missing => nomatch missing.2⟩
    · cases found with
      | false => exact ⟨fun _ => ⟨rfl, rfl⟩, fun _ => rfl⟩
      | true =>
        exact ⟨fun refused => absurd refused (execute_toExpand_ne_signal _ _ _),
          fun missing => nomatch missing.2⟩

/-- The parameters that stand for all positional ones leave nothing over. -/
theorem leftover_of_isWhole (whole : isWhole name = true) : state.leftover name = "" := by
  have plain : name = "@" ∨ name = "*" := by simpa [isWhole] using whole
  have unnamed : Text.isName name.toList = false := by
    rcases plain with rfl | rfl <;> decide
  have alone : state.resolved name = name := by
    rw [resolved, unnamed]
    rfl
  unfold leftover
  rw [alone]
  rcases plain with rfl | rfl <;> rfl

/-- A name that is not set reads as empty exactly if nothing is left over for it, and if subscripts
are not nested too deep. Where unset variables are errors, what is refused and yet reads as a value
is exactly what is left over for names that are not set. -/
theorem unset_reads_empty_iff (state : State) (name : String) (queries : Queries) :
    (∀ last, execute (state.isSet name) queries = (.ok false, last) →
      (execute (state.value name) queries = (.ok "", last) ↔
        state.leftover name = "" ∧
          (execute (state.value name) queries).1 ≠ .error .nestingTooDeep)) ∧
      (state.options.nounset = true →
        ((∃ text, text ≠ "" ∧ (execute (state.value name) queries).1 = .ok text ∧
            (execute (state.require name) queries).1 =
              .error (.signal (.ofCause (.unbound name) "" ""))) ↔
          (execute (state.isSet name) queries).1 = .ok false ∧ state.leftover name ≠ "" ∧
            (execute (state.value name) queries).1 ≠ .error .nestingTooDeep)) := by
  refine ⟨fun last unset => ?_, fun strict => ?_⟩
  · rcases execute_value_of_unset unset with deep | found
    · constructor
      · intro empty
        rw [empty] at deep
        exact nomatch deep
      · exact fun readable => absurd deep readable.2
    · rw [found]
      constructor
      · intro empty
        exact ⟨Except.ok.inj (Prod.mk.inj empty).1, nofun⟩
      · intro empty
        rw [empty.1]
  · rw [execute_require_iff strict]
    constructor
    · rintro ⟨text, nonempty, reads, -, missing⟩
      have unset : execute (state.isSet name) queries =
          (.ok false, (execute (state.isSet name) queries).2) := by rw [← missing]
      rw [reads]
      refine ⟨missing, ?_, nofun⟩
      rcases execute_value_of_unset unset with deep | found
      · rw [reads] at deep
        exact nomatch deep
      · rw [found] at reads
        exact Except.ok.inj reads ▸ nonempty
    · rintro ⟨missing, nonempty, readable⟩
      have unset : execute (state.isSet name) queries =
          (.ok false, (execute (state.isSet name) queries).2) := by rw [← missing]
      have single : isWhole name = false :=
        Bool.eq_false_iff.mpr fun whole => nonempty (leftover_of_isWhole whole)
      refine ⟨state.leftover name, nonempty, ?_, single, missing⟩
      rcases execute_value_of_unset unset with deep | found
      · exact absurd deep readable
      · rw [found]

/-- A nameref to an element that an associative array does not have. -/
def otherKey : State :=
  { store := (({} : Store).putNameref "ref" "m[k]").put "m_j" "p"
    associative := Std.ExtTreeSet.ofList ["m"] }

theorem otherKey_reads_empty :
    execute (otherKey.isSet "ref") {} = (.ok false, {}) ∧
      execute (otherKey.value "ref") {} = (.ok "", {}) := by
  have unset : execute (otherKey.isSet "ref") {} = (.ok false, {}) := rfl
  refine ⟨unset, ((unset_reads_empty_iff otherKey "ref" {}).1 {} unset).mpr ⟨rfl, ?_⟩⟩
  have reads : (execute (otherKey.value "ref") {}).1 = .ok "" := rfl
  rw [reads]
  exact nofun

/-- A scalar, where unset variables are errors. -/
def strictScalar : State :=
  { store := ({} : Store).put "a" "v", options := { nounset := true } }

theorem strictScalar_refuses_value :
    execute (strictScalar.isSet "a[@]") {} = (.ok false, {}) ∧
      execute (strictScalar.value "a[@]") {} = (.ok "v", {}) ∧
        execute (strictScalar.require "a[@]") {} =
          (.error (.signal (.ofCause (.unbound "a[@]") "" "")), {}) :=
  ⟨rfl, rfl, rfl⟩

end Shell.State
