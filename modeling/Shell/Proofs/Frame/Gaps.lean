import Shell.Proofs.Frame.Positional
import Shell.Proofs.Variable.Growth

/-!
# Gaps among the positional parameters

Every list of values replaces the positional parameters exactly as long as these have no gap: each
of them is among those that are counted. In a shell that starts without any, a gap is opened by
assigning a parameter that is not the next one, or by unsetting one that is not the last, and in no
other way. Calls open none, and neither do they close one of their caller.
-/

namespace Shell.State

open Running

variable {store second : Store} {state last : State} {name target : String} {count n : Nat}

section Counting

/-- The positional parameters are those up to a number, and no others. -/
def Numbered (store : Store) (count : Nat) : Prop :=
  ∀ n : Nat, 0 < n → (store.has (toString n) = true ↔ n ≤ count)

/-- No positional parameter has a gap in front of it. -/
def Gapless (store : Store) : Prop := ∃ count, Numbered store count

theorem Numbered.row (numbered : Numbered store count) : Row store 0 count where
  filled n positive below := (numbered n positive).mpr below
  ended := by
    rw [Bool.eq_false_iff, ne_eq, numbered _ (Nat.succ_pos count)]
    exact Nat.not_succ_le_self count

theorem Numbered.length_positional (numbered : Numbered state.store count) :
    state.positional.length = count :=
  numbered.row.length_positional

theorem Numbered.congr (numbered : Numbered store count)
    (same : ∀ n : Nat, second.has (toString n) = store.has (toString n)) :
    Numbered second count := by
  intro n positive
  rw [same]
  exact numbered n positive

/-- One more parameter leaves no gap exactly if it is the next one at most. -/
theorem Numbered.gapless_insert_iff (numbered : Numbered store count)
    (same : ∀ k : Nat, second.has (toString k) = true ↔ n = k ∨ store.has (toString k) = true) :
    Gapless second ↔ n ≤ count + 1 := by
  constructor
  · rintro ⟨other, also⟩
    by_contra far
    have ended : ¬ count + 1 ≤ other := by
      rw [← also _ (Nat.succ_pos count), same, numbered _ (Nat.succ_pos count)]
      omega
    have there : n ≤ other := (also n (by omega)).mp ((same n).mpr (.inl rfl))
    omega
  · intro near
    refine ⟨max n count, fun k positive => ?_⟩
    rw [same, numbered k positive]
    omega

/-- One parameter less leaves no gap exactly if it was the last one, or none at all. -/
theorem Numbered.gapless_erase_iff (numbered : Numbered store count)
    (same : ∀ k : Nat, second.has (toString k) = true ↔ n ≠ k ∧ store.has (toString k) = true) :
    Gapless second ↔ ¬ (0 < n ∧ n < count) := by
  constructor
  · rintro ⟨other, also⟩ ⟨positive, inside⟩
    have gone : ¬ n ≤ other := by
      rw [← also n positive, same]
      simp
    have kept : count ≤ other := by
      rw [← also count (by omega), same, numbered count (by omega)]
      omega
    omega
  · intro outside
    refine ⟨if n = count then count - 1 else count, fun k positive => ?_⟩
    rw [same, numbered k positive]
    split <;> omega

theorem Numbered.replaced (numbered : Numbered store count) (values : List String) :
    Numbered (replacePositional store values) values.length := by
  intro n positive
  obtain ⟨m, rfl⟩ := Nat.exists_eq_succ_of_ne_zero positive.ne'
  rw [Store.has_eq_isSome_get?, numbered.row.get?_replacePositional values m]
  by_cases inside : m < values.length
  · rw [List.getElem?_eq_getElem inside]
    exact iff_of_true rfl inside
  · rw [List.getElem?_eq_none (by omega), Option.none_or]
    refine iff_of_false ?_ (by omega)
    split
    · simp
    · rw [← Store.has_eq_isSome_get?, numbered _ positive]
      omega

/-- Every list of values replaces the parameters exactly if they have no gap. -/
theorem replaces_all_iff (state : State) :
    (∀ values, state.Replaces values) ↔ Gapless state.store := by
  have row := row_positional state
  constructor
  · intro replaces
    refine ⟨state.positional.length, fun n positive => ⟨fun present => ?_, row.filled n positive⟩⟩
    by_contra far
    rcases Nat.lt_or_eq_of_le (Nat.lt_of_not_le far) with further | next
    · -- As many values as there are numbers before the parameter bring it to light.
      refine (replaces_iff state (List.replicate (n - 1) "")).mp (replaces _) ?_
      rw [List.length_replicate]
      refine ⟨by omega, ?_⟩
      rwa [Nat.sub_add_cancel positive]
    · rw [← next, row.ended] at present
      contradiction
  · rintro ⟨count, numbered⟩ values
    refine (replaces_iff state values).mpr fun strays => ?_
    have length := numbered.length_positional
    have inside := (numbered _ (Nat.succ_pos _)).mp strays.2
    have outside := strays.1
    omega

end Counting

section Numbers

theorem toString_ne_elementKey (n : Nat) (array suffix : String) :
    toString n ≠ elementKey array suffix := by
  intro same
  have underscore : '_' ∉ (toString n).toList :=
    Text.underscore_notMem_of_isIndex (isIndex_toString n)
  rw [same] at underscore
  simp at underscore

theorem owns_toString_iff : Owns target (toString n) ↔ target = toString n := by
  constructor
  · rintro (same | ⟨suffix, same⟩)
    · exact same.symm
    · exact absurd same (toString_ne_elementKey n target suffix)
  · rintro rfl
    exact owns_self _

theorem toString_eq_toString_iff {m : Nat} : toString n = toString m ↔ n = m :=
  toString_injective.eq_iff

theorem ne_toString_of_isIdentifier (identifier : Text.isIdentifier name.toList = true) (n : Nat) :
    name ≠ toString n := fun same =>
  not_positional_of_owns (Text.isName_of_isIdentifier identifier) (owns_self name) (.inr ⟨n, same⟩)

theorem parse?_toString (n : Nat) : Reference.parse? (toString n) = none := by
  apply Reference.parse?_of_forall
  intro c member
  rw [toString_eq_iff.mp rfl] at member
  simp [Text.isNameChar, Char.isAlphanum, Text.isDigit_of_mem_toDigits member]

/-- A variable under another name shares no key with a positional parameter. -/
theorem has_toString_of_edits (edits : Edits target state last) (other : target ≠ toString n) :
    last.store.has (toString n) = state.store.has (toString n) := by
  rw [Store.has_eq_isSome_get?, Store.has_eq_isSome_get?,
    edits.values _ (mt owns_toString_iff.mp other)]

/-- Without namerefs a name leads to itself, or to the array of the element that it is. -/
theorem Unhindered.eq_or_isIdentifier (unhindered : state.Unhindered)
    (leads : LeadsTo state name target) :
    target = name ∨ Text.isIdentifier target.toList = true := by
  induction leads with
  | self => exact .inl rfl
  | element parsed _ inductionHypothesis =>
    have identifier := Reference.isIdentifier_of_parse? parsed
    rcases inductionHypothesis with rfl | other
    · exact .inr identifier
    · exact .inr other
  | nameref found _ inductionHypothesis =>
    rw [resolve?_of_not_nameref (unhindered _ _ (by decide))] at found
    cases found
    exact inductionHypothesis

/-- What is written under a name that is no number leaves the positional parameters alone. -/
theorem Unhindered.has_toString (unhindered : state.Unhindered)
    (other : ∀ n : Nat, name ≠ toString n)
    (edits : ∃ target, LeadsTo state name target ∧ Edits target state last) (n : Nat) :
    last.store.has (toString n) = state.store.has (toString n) := by
  obtain ⟨target, leads, changed⟩ := edits
  apply has_toString_of_edits changed
  rcases unhindered.eq_or_isIdentifier leads with rfl | identifier
  · exact other n
  · exact ne_toString_of_isIdentifier identifier n

theorem Unhindered.reference? (unhindered : state.Unhindered) (name : String) :
    state.reference? name = Reference.parse? name := by
  rw [State.reference?, resolve?_of_not_nameref (unhindered _ _ (by decide)), Option.bind_some,
    Option.or_self]

theorem Unhindered.has_setVariable (unhindered : state.Unhindered) (n k : Nat) (value : String) :
    (after (setVariable (toString n) value) state).store.has (toString k) = true ↔
      n = k ∨ state.store.has (toString k) = true := by
  have direct : state.store.isNameref (toString n) = false := unhindered _ _ (by decide)
  have timeless : toString n ≠ "SECONDS" :=
    (ne_toString_of_isIdentifier (show Text.isIdentifier "SECONDS".toList = true by decide) n).symm
  have assigned : after (setVariable (toString n) value) state =
      after (assign (toString n) value) state := by
    rw [after, execute_setVariable, unhindered.reference?, parse?_toString,
      resolve?_of_not_nameref direct]
    rfl
  rw [assigned, Store.has_eq_isSome_get?, get?_assign value (unhindered _ _ (by decide)) timeless,
    Store.has_eq_isSome_get?]
  by_cases same : n = k
  · simp [same]
  · rw [if_neg (toString_injective.ne same)]
    simp [same]

theorem get?_clearArray {key array : String} (other : ∀ suffix, key ≠ elementKey array suffix)
    (state : State) :
    (after (clearArray array) state).store.get? key = state.store.get? key := by
  let Same (first second : State) : Prop := second.store.get? key = first.store.get? key
  have chain : ∀ {first second third}, Same first second → Same second third → Same first third :=
    fun before next => next.trans before
  unfold clearArray
  rw [after_get_bind]
  apply after_bind Same chain
  · rw [after_ofExcept]
  · intro keys middle computed
    rw [execute_ofExcept] at computed
    obtain ⟨listing, rfl⟩ := Prod.mk.inj computed
    apply after_forM Same (fun _ => rfl) chain
    intro dropped member state
    obtain ⟨suffix, rfl⟩ := eq_elementKey_of_mem listing member
    unfold dropKey
    rw [after_get_bind]
    split
    · exact Store.get?_drop .. |>.trans (if_neg (other suffix).symm)
    · rfl

/-- Unsetting a positional parameter drops it, if it succeeds, and leaves the others alone. -/
theorem Unhindered.has_unset (unhindered : state.Unhindered) (n k : Nat) :
    (after (unset (toString n)) state).store.has (toString k) = true ↔
      ¬ ((execute (unset (toString n)) state).1 = .ok () ∧ n = k) ∧
        state.store.has (toString k) = true := by
  have direct : state.store.isNameref (toString n) = false := unhindered _ _ (by decide)
  have writable :=
    execute_checkWritable_of_not (unhindered (toString n) Attribute.readonly (by decide))
  have kept := get?_clearArray (toString_ne_elementKey k (toString n)) state
  rw [after, execute_unset_of_direct (parse?_toString n) direct, Store.has_eq_isSome_get?,
    Store.has_eq_isSome_get?, ← kept, unsetName, execute_bind_of_ok writable]
  rcases cleared : execute (clearArray (toString n)) state with ⟨fault | value, middle⟩
  · rw [execute_bind_of_error cleared, after_eq_of_execute cleared]
    simp
  · rw [execute_bind_of_ok cleared, after_eq_of_execute cleared]
    change ((noteUnset _ (unsetPlain (toString n) middle)).store.get? _).isSome = true ↔
      ¬ (Except.ok () = Except.ok () ∧ n = k) ∧ _
    rw [store_noteUnset, get?_unsetPlain, Store.get?_drop]
    by_cases same : n = k
    · simp [same]
    · rw [if_neg (toString_injective.ne same)]
      simp [same]

end Numbers

section Hindrances

theorem Unhindered.setVariable (unhindered : state.Unhindered) (name value : String) :
    Unhindered (after (setVariable name value) state) := by
  obtain ⟨target, -, touches⟩ := assigns_setVariable name value state
  exact (Grows.of_touches touches).unhindered_of unhindered

/-- Unsetting adds no keys, and no name becomes a nameref or readonly. -/
theorem grows_unsetElement {added : String → Prop} {unsetWhole : String → Write Unit}
    (reference : Reference) (state : State)
    (whole : ∀ array, Grows added state (after (unsetWhole array) state)) :
    Grows added state (after (unsetElement unsetWhole reference) state) := by
  cases all : isWhole reference.subscript with
  | false => exact .of_touches (touches_unsetElement all state : Touches _ added False state _)
  | true =>
    rw [after_unsetElement_of_whole unsetWhole all]
    split
    · exact Grows.refl state
    · exact whole _

theorem grows_unsetWithin {added : String → Prop} (depth : Nat) (name : String) (state : State) :
    Grows added state (after (unsetWithin depth name) state) := by
  induction depth generalizing name with
  | zero => exact Grows.refl state
  | succ depth inductionHypothesis =>
    rw [after_unsetWithin_succ]
    split
    · exact grows_unsetElement _ state inductionHypothesis
    · split
      · exact Grows.refl state
      · exact Grows.unsetName _ state

theorem Unhindered.unset (unhindered : state.Unhindered) (name : String) :
    Unhindered (after (unset name) state) := by
  have grows : Grows (fun _ => False) state (after (State.unset name) state) := by
    unfold State.unset
    rw [after_get_bind]
    exact grows_unsetWithin _ name state
  exact grows.unhindered_of unhindered

end Hindrances

section Calls

/-- No call has made anything local, and no name is a nameref or readonly. -/
structure Tidy (depth : Nat) (state : State) : Prop where
  scopes : state.scopes = List.replicate depth ∅
  saved : state.store.saved = List.replicate depth ∅
  exports : state.localExports = List.replicate depth ∅
  shadows : state.shadows = []
  unhindered : state.Unhindered

variable {depth : Nat}

theorem Tidy.of_edits (tidy : state.Tidy depth)
    (edits : ∃ target, LeadsTo state name target ∧ Edits target state last)
    (unhindered : last.Unhindered) : last.Tidy depth := by
  obtain ⟨target, -, changed⟩ := edits
  have same := changed.surroundings
  exact
    { scopes := (congrArg State.scopes same).trans tidy.scopes
      saved := (congrArg (fun state => state.store.saved) same).trans tidy.saved
      exports := (congrArg State.localExports same).trans tidy.exports
      shadows := (congrArg State.shadows same).trans tidy.shadows
      unhindered := unhindered }

theorem Unhindered.of_attributes (unhindered : state.Unhindered)
    (same : last.store.attributes = state.store.attributes) : last.Unhindered := by
  intro name letter hinders
  rw [Store.hasAttribute_congr (congrArg (·[name]?) same)]
  exact unhindered name letter hinders

theorem Tidy.setPositional (tidy : state.Tidy depth) (values : List String) :
    Tidy depth { state with store := replacePositional state.store values } where
  scopes := tidy.scopes
  saved := (saved_replacePositional _ _).trans tidy.saved
  exports := tidy.exports
  shadows := tidy.shadows
  unhindered := tidy.unhindered.of_attributes (attributes_replacePositional _ _)

theorem Tidy.enter (tidy : state.Tidy depth) (call : Call) :
    Tidy (depth + 1) (state.enter call) where
  scopes := congrArg (∅ :: ·) tidy.scopes
  saved := congrArg (∅ :: ·) tidy.saved
  exports := congrArg (∅ :: ·) tidy.exports
  shadows := tidy.shadows
  unhindered := tidy.unhindered.of_attributes rfl

theorem Numbered.withPositionalBack (numbered : Numbered store count) (frame : Frame) :
    Numbered (withPositionalBack frame store) frame.positional.length := by
  have replaced := numbered.replaced frame.positional
  unfold State.withPositionalBack
  split
  · refine replaced.congr fun n => ?_
    rw [Store.has_eq_isSome_get?, Store.get?_drop, if_neg (toString_ne_count n).symm,
      ← Store.has_eq_isSome_get?]
  · exact replaced

/-- The values of a call in which nothing is local are closed without a change. -/
theorem Tidy.execute_closeValues (tidy : state.Tidy (depth + 1)) (level : Nat) :
    execute (closeValues level) state =
      (.ok (), withValuesBack ∅ (List.replicate depth ∅) [] state) := by
  have hidden : state.hiddenBy level = [] := by simp [hiddenBy, tidy.shadows]
  have closable : state.Closable level := by
    intro _ _ earlier array later split
    rw [hidden] at split
    simp at split
  obtain ⟨dropped, closed, drops⟩ := State.execute_closeValues tidy.scopes closable
  have none : dropped = [] := by
    rw [List.eq_nil_iff_forall_not_mem]
    intro key member
    obtain ⟨array, inHidden, -⟩ := (drops key).mp member
    rw [hidden] at inHidden
    contradiction
  rw [closed, none]

/-- A call that made nothing local puts back the positional parameters. -/
theorem Tidy.execute_closeFrame (tidy : state.Tidy (depth + 1)) (frame : Frame)
    (numbered : Numbered state.store count) :
    ∃ last, execute (closeFrame frame) state = (.ok (), last) ∧ last.Tidy depth ∧
      Numbered last.store frame.positional.length := by
  have values := tidy.execute_closeValues frame.scope
  have stack := (saved_withValuesBack ∅ (List.replicate depth ∅) [] state).trans tidy.saved
  refine ⟨_, State.execute_closeFrame values stack tidy.exports, ⟨rfl, ?_, rfl, ?_, ?_⟩, ?_⟩
  · exact saved_closed frame ∅ _ ∅ _ _
  · change state.shadows.filterMap _ = []
    rw [tidy.shadows]
    rfl
  · intro name letter hinders
    have other : Attribute.exported ≠ letter := by
      rintro rfl
      exact absurd hinders (by decide)
    rw [hasAttribute_closed _ _ _ _ _ _ (by simp) other]
    exact tidy.unhindered.of_attributes attributes_withValuesBack name letter hinders
  · refine Numbered.withPositionalBack (numbered.congr fun n => ?_) frame
    rw [Store.has_eq_isSome_get?, Store.has_eq_isSome_get?, dropExports_eq]
    change ((restoreValues state.store ∅).get? _).isSome = _
    rw [get?_restoreValues]
    simp

end Calls

/-- Something that is done about variables or parameters, or where a call begins or ends. -/
inductive Move
  | assign (name value : String)
  | unset (name : String)
  | setPositional (values : List String)
  | enter (invocation : Invocation)
  | leave

/-- A shell with the frames of its open calls, innermost first. -/
structure Nest where
  frames : List Frame := []
  state : State

/-- A call that goes too deep is not made. -/
def Nest.enter (nest : Nest) (invocation : Invocation) : Nest :=
  match invocation.enter nest.state with
  | (.ok frame, inside) => ⟨frame :: nest.frames, inside⟩
  | (.error _, same) => { nest with state := same }

/-- Without an open call there is none to leave. -/
def Nest.leave (nest : Nest) : Nest :=
  match nest.frames with
  | frame :: frames => ⟨frames, after (closeFrame frame) nest.state⟩
  | [] => nest

def Move.perform : Move → Nest → Nest
  | assign name value, nest => { nest with state := after (setVariable name value) nest.state }
  | unset name, nest => { nest with state := after (State.unset name) nest.state }
  | setPositional values, nest =>
    { nest with state := after (State.setPositional values) nest.state }
  | enter invocation, nest => nest.enter invocation
  | leave, nest => nest.leave

/-- The move assigns a parameter that is not the next one, or it unsets one that is not the last. -/
def Move.OpensGap (state : State) : Move → Prop
  | assign name _ => ∃ n : Nat, name = toString n ∧ state.positional.length + 1 < n
  | unset name => ∃ n : Nat, name = toString n ∧ (execute (State.unset name) state).1 = .ok () ∧
      0 < n ∧ n < state.positional.length
  | setPositional _ | enter _ | leave => False

/-- Some move opens a gap when its turn comes. -/
def Opening : List Move → Nest → Prop
  | [], _ => False
  | move :: rest, nest => move.OpensGap nest.state ∨ Opening rest (move.perform nest)

/-- Something holds of the shell before, between and after the moves. -/
def Always (Property : State → Prop) : List Move → Nest → Prop
  | [], nest => Property nest.state
  | move :: rest, nest => Property nest.state ∧ Always Property rest (move.perform nest)

section Moves

variable {nest : Nest}

/-- No call has made anything local, and the positional parameters have no gap. -/
structure Nest.Orderly (nest : Nest) : Prop where
  tidy : nest.state.Tidy nest.frames.length
  gapless : Gapless nest.state.store

theorem Nest.Orderly.enter (orderly : nest.Orderly) (invocation : Invocation) :
    (nest.enter invocation).Orderly := by
  obtain ⟨tidy, count, numbered⟩ := orderly
  unfold Nest.enter
  by_cases deep : invocation.limits.callDepth < nest.state.callDepth + 1
  · rw [enter_eq_error deep]
    exact ⟨tidy, count, numbered⟩
  · rw [enter_eq_ok (Int.not_lt.mp deep)]
    have inside : ∀ call, Numbered (nest.state.enter call).store count := fun _ => numbered
    exact ⟨(tidy.enter _).setPositional invocation.args, _, (inside _).replaced invocation.args⟩

theorem Nest.Orderly.leave (orderly : nest.Orderly) : nest.leave.Orderly := by
  obtain ⟨frames, state⟩ := nest
  cases frames with
  | nil => exact orderly
  | cons frame frames =>
    obtain ⟨count, numbered⟩ := orderly.gapless
    obtain ⟨last, ran, tidy, back⟩ := orderly.tidy.execute_closeFrame frame numbered
    change Nest.Orderly ⟨frames, after (closeFrame frame) state⟩
    rw [after_eq_of_execute ran]
    exact ⟨tidy, _, back⟩

theorem Nest.Orderly.tidy_perform (orderly : nest.Orderly) (move : Move) :
    (move.perform nest).state.Tidy (move.perform nest).frames.length := by
  have tidy := orderly.tidy
  cases move with
  | assign name value =>
    exact tidy.of_edits (edits_setVariable name value nest.state)
      (tidy.unhindered.setVariable name value)
  | unset name =>
    exact tidy.of_edits (edits_unset name nest.state) (tidy.unhindered.unset name)
  | setPositional values => exact tidy.setPositional values
  | enter invocation => exact (orderly.enter invocation).tidy
  | leave => exact orderly.leave.tidy

/-- A move leaves a gap exactly if it opens one. -/
theorem Nest.Orderly.gapless_perform_iff (orderly : nest.Orderly) (move : Move) :
    Gapless (move.perform nest).state.store ↔ ¬ move.OpensGap nest.state := by
  obtain ⟨count, numbered⟩ := orderly.gapless
  have unhindered := orderly.tidy.unhindered
  cases move with
  | assign name value =>
    by_cases number : ∃ n : Nat, name = toString n
    · obtain ⟨n, rfl⟩ := number
      refine (numbered.gapless_insert_iff (unhindered.has_setVariable n · value)).trans ?_
      simp only [Move.OpensGap, numbered.length_positional, toString_eq_toString_iff,
        exists_eq_left', Nat.not_lt]
    · refine iff_of_true ⟨count, numbered.congr ?_⟩ fun ⟨n, same, _⟩ => number ⟨n, same⟩
      exact unhindered.has_toString (not_exists.mp number) (edits_setVariable name value nest.state)
  | unset name =>
    by_cases number : ∃ n : Nat, name = toString n
    · obtain ⟨n, rfl⟩ := number
      have present := unhindered.has_unset n
      simp only [Move.OpensGap, numbered.length_positional, toString_eq_toString_iff,
        exists_eq_left']
      by_cases succeeds : (execute (State.unset (toString n)) nest.state).1 = .ok ()
      · simp only [succeeds, true_and] at present ⊢
        exact numbered.gapless_erase_iff present
      · simp only [succeeds, false_and, not_false_eq_true, true_and, iff_true] at present ⊢
        exact ⟨count, numbered.congr fun k => Bool.eq_iff_iff.mpr (present k)⟩
    · refine iff_of_true ⟨count, numbered.congr ?_⟩ fun ⟨n, same, _⟩ => number ⟨n, same⟩
      exact unhindered.has_toString (not_exists.mp number)
        (edits_unset name nest.state)
  | setPositional values => exact iff_of_true ⟨_, numbered.replaced values⟩ id
  | enter invocation => exact iff_of_true (orderly.enter invocation).gapless id
  | leave => exact iff_of_true orderly.leave.gapless id

theorem Nest.Orderly.always_gapless_iff (orderly : nest.Orderly) (moves : List Move) :
    Always (fun state => Gapless state.store) moves nest ↔ ¬ Opening moves nest := by
  induction moves generalizing nest with
  | nil => exact iff_of_true orderly.gapless id
  | cons move rest inductionHypothesis =>
    have step := orderly.gapless_perform_iff move
    rw [Always, Opening, not_or, and_iff_right orderly.gapless, ← step]
    constructor
    · intro always
      have next : Gapless (move.perform nest).state.store := by
        cases rest with
        | nil => exact always
        | cons => exact always.1
      exact ⟨next, (inductionHypothesis ⟨orderly.tidy_perform move, next⟩).mp always⟩
    · rintro ⟨next, later⟩
      exact (inductionHypothesis ⟨orderly.tidy_perform move, next⟩).mpr later

theorem Always.congr {First Second : State → Prop} (same : ∀ state, First state ↔ Second state)
    (moves : List Move) (nest : Nest) : Always First moves nest ↔ Always Second moves nest := by
  induction moves generalizing nest with
  | nil => exact same nest.state
  | cons move rest inductionHypothesis =>
    exact and_congr (same nest.state) (inductionHypothesis (move.perform nest))

end Moves

/-- A shell to which nothing has happened, as far as variables and calls are concerned. -/
structure Pristine (state : State) : Prop where
  store : state.store = {}
  scopes : state.scopes = []
  exports : state.localExports = []
  shadows : state.shadows = []

theorem Pristine.orderly (pristine : state.Pristine) : Nest.Orderly { state } where
  tidy :=
    { scopes := pristine.scopes
      saved := congrArg Store.saved pristine.store
      exports := pristine.exports
      shadows := pristine.shadows
      unhindered := unhindered_of_empty pristine.store }
  gapless := by
    refine ⟨0, fun n positive => ?_⟩
    rw [show state.store = {} from pristine.store]
    refine iff_of_false ?_ (by omega)
    simp [Store.has]

/-- Values replace all positional parameters, for the shell as for a call, exactly if no parameter
is kept right behind that many. Whatever is done to a pristine shell, all values do so at all times
exactly if no parameter is assigned that is not the next one, and none is unset that is not the
last. -/
theorem parameters_are_replaced_iff (state : State) :
    (∀ values, state.Replaces values ↔ ¬ state.Strays values.length) ∧
      (state.Pristine → ∀ moves,
        Always (fun state => ∀ values, state.Replaces values) moves { state } ↔
          ¬ Opening moves { state }) :=
  ⟨replaces_iff state, fun pristine moves =>
    (Always.congr replaces_all_iff moves _).trans (pristine.orderly.always_gapless_iff moves)⟩

/-- Parameters that are added and taken away at the end, also inside of a call. -/
def parameterMoves : List Move :=
  [.setPositional ["p", "q"], .assign "3" "r", .assign "x" "y",
    .enter { function := "f", args := ["s"] }, .unset "1", .leave, .unset "3"]

theorem parameterMoves_keep_replacing :
    Pristine {} ∧ ¬ Opening parameterMoves { state := {} } ∧
      Always (fun state => ∀ values, state.Replaces values) parameterMoves { state := {} } := by
  have pristine : Pristine {} := ⟨rfl, rfl, rfl, rfl⟩
  have closed : ¬ Opening parameterMoves { state := {} } := by
    rintro (⟨⟨⟩⟩ | ⟨n, same, far⟩ | ⟨n, same, -⟩ | ⟨⟨⟩⟩ | ⟨n, same, -, -, inside⟩ | ⟨⟨⟩⟩ |
      ⟨n, same, -, -, inside⟩ | ⟨⟨⟩⟩)
    · obtain rfl : 3 = n := toString_injective same
      exact absurd far (by decide +kernel)
    · exact ne_toString_of_isIdentifier (show Text.isIdentifier "x".toList = true by decide) n same
    · obtain rfl : 1 = n := toString_injective same
      exact absurd inside (by decide +kernel)
    · obtain rfl : 3 = n := toString_injective same
      exact absurd inside (by decide +kernel)
  exact ⟨pristine, closed, ((parameters_are_replaced_iff {}).2 pristine _).mpr closed⟩

/-- A shell with a second parameter and no first one. -/
def strayShell : State := after (setVariable "2" "x") {}

/-- The stray parameter is counted once there is a first one. -/
theorem strayShell_keeps_parameter :
    strayShell.positional = [] ∧
      (after (setPositional ["a"]) strayShell).positional = ["a", "x"] ∧
      ¬ strayShell.Replaces ["a"] := by
  refine ⟨by decide +kernel, by decide +kernel, fun replaces => ?_⟩
  obtain ⟨last, ran, same, -⟩ := replaces.parameters
  rw [← after_eq_of_execute ran] at same
  exact absurd same (by decide +kernel)

end Shell.State
