import Shell.Proofs.Control.Refusal
import Shell.Proofs.Variable.Erasure
import Shell.Proofs.Variable.Transparency

/-!
# Reading a local variable after its declaration

A declaration writes under the key of the variable, whatever was kept for the variable before.
A value is read back unless the variable is a nameref, which takes the value for the name of
another one. Without a value, the variable keeps what stands under its key; what an array keeps
only at zero is hidden by the empty text.
-/

namespace Shell.State

open Running

variable {state : State} {name : String}

/-- The variable is declared with a value, and reads as this value then. -/
def ReadsBack (state : State) (name value : String) : Prop :=
  ∃ last, execute (declareLocal name (some value)) state = (.ok (), last) ∧
    last.value name = pure value

/-- The variable is declared without a value, is set then, and reads as before. -/
def KeepsReading (state : State) (name : String) (queries : Queries) : Prop :=
  ∃ last, execute (declareLocal name none) state = (.ok (), last) ∧
    (execute (last.isSet name) queries).1 = .ok true ∧ last.value name = state.value name

/-- The state in which a value stands under a key. -/
def written (name value : String) (state : State) : State :=
  { state with store := state.store.put name value }

section Declaring

theorem value_eq_of_visible {first second : State} (same : second.visible = first.visible)
    (name : String) : second.value name = first.value name := by
  rw [← value_visible second, same, value_visible]

theorem isSet_eq_of_visible {first second : State} (same : second.visible = first.visible)
    (name : String) : second.isSet name = first.isSet name := by
  rw [← isSet_visible second, same, isSet_visible]

theorem visible_withSavedAttributes (name : String) (state : State) :
    (withSavedAttributes name state).visible = state.visible := by
  unfold withSavedAttributes Store.saveAttributes
  split <;> rfl

/-- What a declaration leaves to be read: the value, or what stood there, or else the empty text. -/
def declared (name : String) (value : Option String) (state : State) : State :=
  match value with
  | some value => written name value state
  | none => if state.store.has name then state else written name "" state

theorem visible_declared (name : String) (value : Option String) (state : State) :
    (declared name value state).visible = declared name value state.visible := by
  cases value with
  | some value => rfl
  | none => exact apply_ite visible _ _ _

theorem execute_finishLocal_eq (name : String) (value : Option String) (state : State) :
    execute (finishLocal name value) state =
      (.ok (), declared name value (withSavedAttributes name state)) := by
  unfold finishLocal
  rw [execute_modify_bind]
  cases value with
  | some value => rfl
  | none =>
    simp only [execute_get_bind, declared]
    change execute (if !(withSavedAttributes name state).store.has name then _ else _) _ = _
    by_cases held : (withSavedAttributes name state).store.has name = true
    · rw [if_neg (by simp [held]), if_pos held]
      rfl
    · rw [if_pos (by simp [held]), if_neg held]
      rfl

/-- A declaration that comes to its end leaves this to be read, and otherwise what was there. -/
theorem execute_declareLocal_of_clear (value : Option String)
    (inCall : state.scopes.isEmpty = false) (identifier : Text.isName name.toList = true)
    (clear : ¬ state.HidesUnlisted name) :
    ∃ last, execute (declareLocal name value) state = (.ok (), last) ∧
      last.visible = (declared name value state).visible := by
  obtain ⟨middle, same, ran⟩ := execute_declareLocal_of_listed value inCall identifier clear
  refine ⟨_, ran.trans (execute_finishLocal_eq name value middle), ?_⟩
  rw [visible_declared, visible_withSavedAttributes, same, visible_declared]

end Declaring

section Written

variable (identifier : Text.isIdentifier name.toList = true) (ordinary : isOrdinary name = true)

include identifier ordinary

theorem value_written {value : String} (settled : (written name value state).resolved name = name) :
    (written name value state).value name = pure value := by
  have held : (written name value state).store.get? name = some value := by simp [written]
  rw [value_of_resolved identifier settled, computed?_of_isOrdinary ordinary, stored,
    callArray?_of_isOrdinary ordinary, held]
  rfl

theorem isSet_written {value : String} (settled : (written name value state).resolved name = name) :
    (written name value state).isSet name = pure true := by
  have held : (written name value state).store.has name = true := by
    simp [written, Store.has_eq_isSome_get?]
  rw [isSet_of_resolved identifier settled, isStored, callArray?_of_isOrdinary ordinary, held]
  exact ite_self _

end Written

section Unused

/-- No special name begins like this. -/
theorem isOrdinary_of_head (rest : List Char) :
    isOrdinary (String.ofList ('a' :: rest)) = true := by
  have other : ∀ known : String, known.toList.head? ≠ some 'a' →
      String.ofList ('a' :: rest) ≠ known := by
    rintro known head rfl
    simp at head
  have computed : State.computed? {} (String.ofList ('a' :: rest)) = none := by
    unfold computed?
    split
    case h_16 => rfl
    all_goals
      rename_i same
      exact absurd same (other _ (by decide))
  have called : State.callArray? {} (String.ofList ('a' :: rest)) = none := by
    rw [callArray?, if_neg (other _ (by decide)), if_neg (other _ (by decide)),
      if_neg (other _ (by decide))]
  rw [isOrdinary, computed, called]
  rfl

/-- Some identifier is longer than each of the given texts. -/
theorem exists_longer (texts : List String) :
    ∃ name : String, Text.isIdentifier name.toList = true ∧ isOrdinary name = true ∧
      ∀ text ∈ texts, text.toList.length < name.toList.length := by
  obtain ⟨length, bound⟩ : ∃ length, ∀ text ∈ texts, text.toList.length ≤ length := by
    induction texts with
    | nil => exact ⟨0, by simp⟩
    | cons first rest inductionHypothesis =>
      obtain ⟨length, bound⟩ := inductionHypothesis
      refine ⟨max first.toList.length length, List.forall_mem_cons.mpr ⟨le_max_left _ _, ?_⟩⟩
      exact fun text member => le_max_of_le_right (bound text member)
  refine ⟨String.ofList ('a' :: List.replicate length 'a'), ?_, isOrdinary_of_head _, ?_⟩
  · rw [String.toList_ofList, Text.isIdentifier, Bool.and_eq_true, List.all_replicate]
    exact ⟨by decide, by split <;> decide⟩
  · intro text member
    rw [String.toList_ofList, List.length_cons, List.length_replicate]
    exact Nat.lt_succ_of_le (bound text member)

/-- Some identifier stands for nothing, also after another variable gets it as a value. -/
theorem exists_erased (state : State) (name : String) :
    ∃ other, Text.isIdentifier other.toList = true ∧ isOrdinary other = true ∧
      (written name other state).Erased other := by
  obtain ⟨other, identifier, ordinary, longer⟩ := exists_longer
    (name :: (state.store.keys ++ (state.store.attributes.keys ++ state.associative.toList)))
  simp only [List.forall_mem_cons, List.forall_mem_append] at longer
  obtain ⟨longerName, longerKeys, longerAttributes, longerArrays⟩ := longer
  have unheld : ∀ key : String, other.toList.length ≤ key.toList.length →
      (written name other state).store.has key = false := by
    intro key long
    rw [Bool.eq_false_iff]
    intro present
    have shorter : key.toList.length < other.toList.length := by
      rw [Store.has_eq_isSome_get?, written, Store.get?_put] at present
      split at present
      · rename_i same
        exact same ▸ longerName
      · rw [← Store.has_eq_isSome_get?] at present
        exact longerKeys key ((Store.mem_keys _ _).mpr present)
    omega
  refine ⟨other, identifier, ordinary, ?_, ?_, ?_, ?_⟩
  · exact unheld other (Nat.le_refl _)
  · rw [Bool.eq_false_iff]
    intro contained
    have member : other ∈ state.associative := contained
    exact absurd (longerArrays other (Std.ExtTreeSet.mem_toList.mpr member)) (Nat.lt_irrefl _)
  · intro suffix _
    refine unheld _ ?_
    rw [toList_elementKey, List.length_append]
    exact Nat.le_add_right _ _
  · intro letter _
    have unknown : other ∉ state.store.attributes := fun member =>
      absurd (longerAttributes other (Std.ExtTreeMap.mem_keys.mpr member)) (Nat.lt_irrefl _)
    have none : (written name other state).store.attributes[other]? = none :=
      Std.ExtTreeMap.getElem?_eq_none unknown
    simp [Store.hasAttribute, Store.attributesOf, none]

end Unused

section Declaration

variable (inCall : state.scopes ≠ []) (single : state.SingleLine)
  (identifier : Text.isIdentifier name.toList = true)

include inCall single identifier

/-- A declaration succeeds if it hides no variable that cannot be listed. What is read then is what
it leaves under the key. -/
theorem exists_execute_declareLocal_iff (value : Option String) (property : State → Prop)
    (blind : ∀ first second : State, second.visible = first.visible →
      (property second ↔ property first)) :
    (∃ last, execute (declareLocal name value) state = (.ok (), last) ∧ property last) ↔
      ¬ state.HidesUnlisted name ∧ property (declared name value state) := by
  constructor
  · rintro ⟨last, ran, holds⟩
    have clear : ¬ state.HidesUnlisted name := by
      intro hides
      obtain ⟨fault, stopped⟩ := execute_declareLocal_of_unlisted value single hides
      rw [stopped] at ran
      exact nomatch (Prod.mk.inj ran).1
    obtain ⟨other, ran', same⟩ := execute_declareLocal_of_clear value (by simpa using inCall)
      (Text.isName_of_isIdentifier identifier) clear
    obtain rfl := (Prod.mk.inj (ran.symm.trans ran')).2
    exact ⟨clear, (blind _ _ same).mp holds⟩
  · rintro ⟨clear, holds⟩
    obtain ⟨last, ran, same⟩ := execute_declareLocal_of_clear value (by simpa using inCall)
      (Text.isName_of_isIdentifier identifier) clear
    exact ⟨last, ran, (blind _ _ same).mpr holds⟩

theorem readsBack_iff (value : String) :
    state.ReadsBack name value ↔
      ¬ state.HidesUnlisted name ∧ (written name value state).value name = pure value := by
  refine exists_execute_declareLocal_iff inCall single identifier (some value)
    (fun last => last.value name = pure value) fun first second same => ?_
  rw [value_eq_of_visible same]

theorem keepsReading_iff_declared (queries : Queries) :
    state.KeepsReading name queries ↔
      ¬ state.HidesUnlisted name ∧
        (execute ((declared name none state).isSet name) queries).1 = .ok true ∧
        (declared name none state).value name = state.value name := by
  refine exists_execute_declareLocal_iff inCall single identifier none
    (fun last => (execute (last.isSet name) queries).1 = .ok true ∧
      last.value name = state.value name) fun first second same => ?_
  rw [value_eq_of_visible same, isSet_eq_of_visible same]

/-- A nameref takes the name of something unset for a name, not for a value. -/
theorem exists_not_readsBack (nameref : state.store.isNameref name = true) :
    ∃ value, ¬ state.ReadsBack name value := by
  obtain ⟨other, otherIdentifier, otherOrdinary, erased⟩ := exists_erased state name
  have points : PointsTo (written name other state) name other := by
    refine ⟨nameref, by simp [written], ?_⟩
    rw [Text.isTarget, Text.isName_of_isIdentifier otherIdentifier, Bool.true_or]
  have chain : Chain (written name other state) 1 name other := .cons points (.nil other)
  have stands : StandsFor (written name other state) name other :=
    ⟨identifier, (resolve?_chain chain erased.direct).trans (if_pos (by decide))⟩
  have led : (written name other state).value name = (written name other state).value other :=
    stands.valueWithin (.self otherIdentifier erased.direct) _
  refine ⟨other, fun reads => ?_⟩
  have read := ((readsBack_iff inCall single identifier other).mp reads).2
  rw [led, erased.value otherOrdinary otherIdentifier] at read
  have same : Except.ok "" = Except.ok other := ofExcept_eq_pure_iff.mp read
  obtain rfl := Except.ok.inj same
  exact absurd otherIdentifier (by decide)

variable (ordinary : isOrdinary name = true)

include ordinary

theorem readsBack_iff_of_plain (plain : state.store.isNameref name = false) (value : String) :
    state.ReadsBack name value ↔ ¬ state.HidesUnlisted name := by
  have settled : (written name value state).resolved name = name := resolved_of_not_nameref plain
  rw [readsBack_iff inCall single identifier, value_written identifier ordinary settled]
  exact and_iff_left rfl

theorem keepsReading_iff (queries : Queries) :
    state.KeepsReading name queries ↔
      ¬ state.HidesUnlisted name ∧
        if state.store.has name then (execute (state.isSet name) queries).1 = .ok true
        else state.value name = pure "" := by
  rw [keepsReading_iff_declared inCall single identifier, declared]
  refine and_congr_right fun _ => ?_
  split
  · exact and_iff_left rfl
  · have settled : (written name "" state).resolved name = name :=
      resolved_of_not_isTarget (by simp [written]; decide)
    rw [value_written identifier ordinary settled, isSet_written identifier ordinary settled]
    exact (and_iff_right rfl).trans eq_comm

end Declaration

/-- Inside a call, a variable that is declared with a value reads as this value, unless the
declaration hides what it cannot list, or the variable is a nameref. A variable that is declared
without a value is set and reads as before, unless the declaration hides what it cannot list, or a
nameref leads to something unset, or nothing stands under the variable's key and it does not read as
the empty text. -/
theorem declaration_reads_back_iff {state : State} {name : String} (inCall : state.scopes ≠ [])
    (single : state.SingleLine) (identifier : Text.isIdentifier name.toList = true)
    (ordinary : isOrdinary name = true) :
    (state.store.isNameref name = false →
      ∀ value, state.ReadsBack name value ↔ ¬ state.HidesUnlisted name) ∧
    (state.store.isNameref name = true → ∃ value, ¬ state.ReadsBack name value) ∧
    ∀ queries, state.KeepsReading name queries ↔
      ¬ state.HidesUnlisted name ∧
        if state.store.has name then (execute (state.isSet name) queries).1 = .ok true
        else state.value name = pure "" :=
  ⟨readsBack_iff_of_plain inCall single identifier ordinary,
    exists_not_readsBack inCall single identifier,
    keepsReading_iff inCall single identifier ordinary⟩

/-- A call with a scalar from outside. -/
def scalarInCall : State :=
  State.enter { store := ({} : Store).put "x" "outer" } ⟨"f", 0, mainSource⟩

theorem scalarInCall_reads_back :
    scalarInCall.scopes ≠ [] ∧ scalarInCall.SingleLine ∧ Text.isIdentifier "x".toList = true ∧
      isOrdinary "x" = true ∧ scalarInCall.store.isNameref "x" = false ∧
      (∀ value, scalarInCall.ReadsBack "x" value) ∧ scalarInCall.KeepsReading "x" {} := by
  have inCall : scalarInCall.scopes ≠ [] := List.cons_ne_nil _ _
  have alone : ∀ key, scalarInCall.store.has key = true → key = "x" := by
    intro key present
    have same : "x" = key := by
      simpa [scalarInCall, State.enter, Store.openScope, Store.has, Store.put] using present
    exact same.symm
  have single : scalarInCall.SingleLine := singleLine_of_keys (by decide)
  have listed : ¬ scalarInCall.HidesUnlisted "x" := by
    refine fun hides => hides.unreadable fun _ suffix present => ?_
    exact absurd (alone _ present) (elementKey_ne_self "x" suffix)
  have plain : scalarInCall.store.isNameref "x" = false := by decide
  obtain ⟨reads, -, keeps⟩ := declaration_reads_back_iff inCall single
    (show Text.isIdentifier "x".toList = true by decide) (by decide)
  have isSet : (execute (scalarInCall.isSet "x") {}).1 = .ok true := by decide +kernel
  exact ⟨inCall, single, by decide, by decide, plain, fun value => (reads plain value).mpr listed,
    (keeps {}).mpr ⟨listed, isSet⟩⟩

/-- A call with an array from outside. -/
def arrayInCall : State :=
  State.enter { store := (({} : Store).put "x_0" "1").addAttribute "x" Attribute.indexed }
    ⟨"f", 0, mainSource⟩

/-- The array reads as its first element, and as the empty text once it is declared. -/
theorem arrayInCall_changes_reading :
    ∃ last, execute (declareLocal "x" none) arrayInCall = (.ok (), last) ∧
      (execute (arrayInCall.value "x") {}).1 = .ok "1" ∧
      (execute (last.value "x") {}).1 = .ok "" ∧ ¬ arrayInCall.KeepsReading "x" {} := by
  have ran : execute (declareLocal "x" none) arrayInCall =
      (.ok (), after (declareLocal "x" none) arrayInCall) := execute_eq_after (by decide +kernel)
  have before : (execute (arrayInCall.value "x") {}).1 = .ok "1" := by decide +kernel
  have behind : (execute ((after (declareLocal "x" none) arrayInCall).value "x") {}).1 =
      .ok "" := by decide +kernel
  refine ⟨_, ran, before, behind, ?_⟩
  rintro ⟨last, again, -, same⟩
  obtain rfl := (Prod.mk.inj (ran.symm.trans again)).2
  rw [same, before] at behind
  exact absurd behind (by decide)

end Shell.State
