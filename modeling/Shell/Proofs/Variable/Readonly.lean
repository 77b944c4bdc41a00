import Mathlib.Data.Fintype.EquivFin
import Shell.Proofs.Control.Refusal
import Shell.Proofs.Variable.Independence

/-!
# Readonly variables

An operation that writes variables checks one name, the one that the given name
leads to, and does nothing if that is readonly. What it writes goes to keys of the
store, and a key may be an element of one variable and the value of another. So a
readonly variable stays readonly whatever is called, and it keeps its value and its
elements as long as the names that are written do not overlap with its own.
-/

namespace Shell.State

open Running

/-- A call that writes a variable, an array or an element. -/
inductive Assignment
  | scalar (name value : String)
  | element (name subscript value : String)
  | array (name : String) (values : List String)
  | associativeArray (name : String) (items : List (String × String))
  | unset (name : String)
  | unsetNameref (name : String)

/-- What a call does. -/
def Assignment.perform : Assignment → Write Unit
  | scalar name value => setVariable name value
  | element name subscript value => setElement name subscript value
  | array name values => setArray name values
  | associativeArray name items => setAssociativeArray name items
  | unset name => State.unset name
  | unsetNameref name => State.unsetNameref name

/-- The state after some calls. One that fails is over, and what it did before stays. -/
def performAll : List Assignment → State → State
  | [], state => state
  | assignment :: rest, state => performAll rest (after assignment.perform state)

/-- The name that is checked and written when a variable is assigned. -/
def assigned? (state : State) (name : String) : Option String :=
  match state.reference? name with
  | some reference => state.resolve? reference.array
  | none => state.resolve? name

/-- The name that is written when an element is unset, when `whole` is that for all of an array. -/
def unsetElementTarget? (state : State) (whole : String → Option String) (reference : Reference) :
    Option String :=
  if isWhole reference.subscript then whole (state.resolved reference.array)
  else some (state.resolved reference.array)

/-- The name that is written when a variable is unset and references lead to others at most `depth`
times. -/
def unsetTarget? (state : State) : (depth : Nat) → String → Option String
  | 0, _ => none
  | depth + 1, name =>
    match state.reference? name with
    | some reference => state.unsetElementTarget? (state.unsetTarget? depth) reference
    | none => state.resolve? name

/-- The name that is written when a nameref itself is unset, or an element. -/
def unsetNamerefTarget? (state : State) (name : String) : Option String :=
  match Reference.parse? name with
  | some reference => state.unsetElementTarget? (state.unsetTarget? (state.nesting + 1)) reference
  | none => some name

/-- The name that a call checks and writes, if it gets that far. -/
def Assignment.target? (state : State) : Assignment → Option String
  | scalar name _ => state.assigned? name
  | element name _ _ | array name _ | associativeArray name _ => state.resolve? name
  | unset name => state.unsetTarget? (state.nesting + 1) name
  | unsetNameref name => state.unsetNamerefTarget? name

/-- Every call, when its turn comes, is refused or writes a name that is allowed. -/
def Within (allowed : String → Prop) : State → List Assignment → Prop
  | _, [] => True
  | state, assignment :: rest =>
    (∀ target, assignment.target? state = some target → state.store.isReadonly target = false →
      allowed target) ∧
    Within allowed (after assignment.perform state) rest

theorem Within.mono {allowed wider : String → Prop}
    (widen : ∀ target, allowed target → wider target) {state : State}
    {assignments : List Assignment} (within : Within allowed state assignments) :
    Within wider state assignments := by
  induction assignments generalizing state with
  | nil => trivial
  | cons assignment rest inductionHypothesis =>
    exact ⟨fun target found writable => widen target (within.1 target found writable),
      inductionHypothesis within.2⟩

section Target

variable {state : State} {action : Write Unit}

/-- The action changes nothing, or it edits the target, and that is not readonly. -/
def WritesTo (target? : Option String) (action : Write Unit) (state : State) : Prop :=
  after action state = state ∨ ∃ target, target? = some target ∧
    state.store.isReadonly target = false ∧ Edits target state (after action state)

/-- An action that edits the target, and does nothing if that is readonly. -/
theorem WritesTo.of_edits {target : String}
    (refused : state.store.isReadonly target = true → after action state = state)
    (edits : Edits target state (after action state)) : WritesTo (some target) action state := by
  cases readonly : state.store.isReadonly target with
  | true => exact .inl (refused readonly)
  | false => exact .inr ⟨target, rfl, readonly, edits⟩

/-- An action that follows the namerefs of a name, and then checks where they lead. -/
theorem WritesTo.of_resolve? {name : String} {body : String → Unit → Write Unit}
    (shape : action = do
      match (← get).resolve? name with
      | none => pure ()
      | some array => checkWritable array >>= body array)
    (edits : ∀ array, state.resolve? name = some array → Edits array state (after action state)) :
    WritesTo (state.resolve? name) action state := by
  cases found : state.resolve? name with
  | none =>
    left
    rw [shape, after_get_bind, found]
    rfl
  | some array =>
    refine .of_edits (fun readonly => ?_) (edits array found)
    rw [shape, after_get_bind, found]
    exact after_checkWritable_bind_of_readonly readonly _

theorem writesTo_setElement (name subscript value : String) (state : State) :
    WritesTo (state.resolve? name) (setElement name subscript value) state :=
  .of_resolve? rfl fun _ found => edits_setElement_of_resolve? found subscript value

theorem writesTo_setArray (name : String) (values : List String) (state : State) :
    WritesTo (state.resolve? name) (setArray name values) state :=
  .of_resolve? rfl fun _ found => edits_setArray_of_resolve? found values

theorem writesTo_setAssociativeArray (name : String) (items : List (String × String))
    (state : State) :
    WritesTo (state.resolve? name) (setAssociativeArray name items) state :=
  .of_resolve? rfl fun _ found => edits_setAssociativeArray_of_resolve? found items

theorem writesTo_assign (name value : String) (state : State) :
    WritesTo (some name) (assign name value) state :=
  .of_edits (fun readonly => after_checkWritable_bind_of_readonly readonly _)
    (edits_assign name value state)

theorem writesTo_setVariable (name value : String) (state : State) :
    WritesTo (state.assigned? name) (setVariable name value) state := by
  have ran := congrArg Prod.snd (execute_setVariable name value state)
  unfold WritesTo assigned? after
  cases found : state.reference? name with
  | some reference =>
    rw [found] at ran
    rw [ran]
    exact writesTo_setElement reference.array reference.subscript value state
  | none =>
    rw [found] at ran
    cases resolved : state.resolve? name with
    | none =>
      rw [resolved] at ran
      exact .inl ran
    | some target =>
      rw [resolved] at ran
      rw [ran]
      exact writesTo_assign target value state

theorem writesTo_unsetName (name : String) (state : State) :
    WritesTo (some name) (unsetName name) state :=
  .of_edits (fun readonly => after_checkWritable_bind_of_readonly readonly _)
    (edits_unsetName name state)

theorem writesTo_unsetElement {whole : String → Option String} {unsetWhole : String → Write Unit}
    (reference : Reference) (state : State)
    (each : ∀ array, WritesTo (whole array) (unsetWhole array) state) :
    WritesTo (state.unsetElementTarget? whole reference) (unsetElement unsetWhole reference)
      state := by
  unfold unsetElementTarget?
  cases all : isWhole reference.subscript with
  | true =>
    have ran := after_unsetElement_of_whole unsetWhole all state
    split at ran
    · exact .inl ran
    · unfold WritesTo
      rw [ran]
      exact each (state.resolved reference.array)
  | false =>
    refine .of_edits (fun readonly => ?_) (edits_unsetElement_of_not_whole all state)
    rw [unsetElement, after_get_bind]
    exact after_checkWritable_bind_of_readonly readonly _

/-- To unset a name is to unset the element that it stands for, if there is one. -/
theorem after_unsetWithin_succ (depth : Nat) (name : String) (state : State) :
    after (unsetWithin (depth + 1) name) state =
      match state.reference? name with
      | some reference => after (unsetElement (unsetWithin depth) reference) state
      | none =>
        match state.resolve? name with
        | none => state
        | some target => after (unsetName target) state := by
  unfold unsetWithin reference?
  cases parsed : Reference.parse? name with
  | some reference => rfl
  | none =>
    simp only [after_get_bind, Option.none_or]
    cases found : state.resolve? name with
    | none => rfl
    | some target =>
      simp only [Option.bind_some]
      cases Reference.parse? target <;> rfl

theorem writesTo_unsetWithin (depth : Nat) (name : String) (state : State) :
    WritesTo (state.unsetTarget? depth name) (unsetWithin depth name) state := by
  induction depth generalizing name with
  | zero => exact .inl rfl
  | succ depth inductionHypothesis =>
    unfold WritesTo unsetTarget?
    rw [after_unsetWithin_succ]
    cases state.reference? name with
    | some reference => exact writesTo_unsetElement reference state inductionHypothesis
    | none =>
      cases state.resolve? name with
      | none => exact .inl rfl
      | some target => exact writesTo_unsetName target state

theorem writesTo_unset (name : String) (state : State) :
    WritesTo (state.unsetTarget? (state.nesting + 1) name) (State.unset name) state := by
  have whole : after (State.unset name) state =
      after (unsetWithin (state.nesting + 1) name) state :=
    after_get_bind _ state
  unfold WritesTo
  rw [whole]
  exact writesTo_unsetWithin _ name state

theorem writesTo_unsetNameref (name : String) (state : State) :
    WritesTo (state.unsetNamerefTarget? name) (unsetNameref name) state := by
  unfold unsetNamerefTarget? unsetNameref
  cases Reference.parse? name with
  | some reference =>
    exact writesTo_unsetElement reference state fun array => writesTo_unset array state
  | none => exact writesTo_unsetName name state

/-- Whatever is called, only the target is written, and only if it is not readonly. -/
theorem Assignment.writesTo (assignment : Assignment) (state : State) :
    WritesTo (assignment.target? state) assignment.perform state := by
  cases assignment with
  | scalar name value => exact writesTo_setVariable name value state
  | element name subscript value => exact writesTo_setElement name subscript value state
  | array name values => exact writesTo_setArray name values state
  | associativeArray name items => exact writesTo_setAssociativeArray name items state
  | unset name => exact writesTo_unset name state
  | unsetNameref name => exact writesTo_unsetNameref name state

end Target

/-- A relation of states that calls with allowed targets respect is respected by a whole run of
them. -/
theorem performAll_induction {allowed : String → Prop} {Relation : State → State → Prop}
    (refl : ∀ state, Relation state state)
    (trans : ∀ {first second third}, Relation first second → Relation second third →
      Relation first third)
    (step : ∀ {first second target}, first.store.isReadonly target = false → allowed target →
      Edits target first second → Relation first second)
    {state : State} {assignments : List Assignment} (within : Within allowed state assignments) :
    Relation state (performAll assignments state) := by
  induction assignments generalizing state with
  | nil => exact refl state
  | cons assignment rest inductionHypothesis =>
    have later := inductionHypothesis within.2
    rcases assignment.writesTo state with same | ⟨target, found, writable, edits⟩
    · rw [performAll]
      rw [same] at later ⊢
      exact later
    · exact trans (step writable (within.1 target found writable) edits) later

theorem within_true (state : State) (assignments : List Assignment) :
    Within (fun _ => True) state assignments := by
  induction assignments generalizing state with
  | nil => trivial
  | cons assignment rest inductionHypothesis =>
    exact ⟨fun _ _ _ => trivial, inductionHypothesis _⟩

section Contents

variable {name target : String} {first second third : State}

/-- A value under the key of the suffix counts as an element of the variable. -/
def Counts (state : State) (name suffix : String) : Prop :=
  state.callArray? name = none ∧
    (state.isAssociative name = true ∨ Text.isIndex suffix.toList = true)

/-- The target's keys are keys of the variable: its own, or one of an element. -/
def Overlaps (state : State) (name target : String) : Prop :=
  (∃ suffix, name = elementKey target suffix) ∨
    ∃ suffix, target = elementKey name suffix ∧ state.Counts name suffix

theorem not_overlaps_of_apart {state : State} (apart : Apart name target) :
    ¬ state.Overlaps name target := by
  rintro (⟨suffix, longer⟩ | ⟨suffix, longer, -⟩)
  · exact apart.2 suffix longer
  · exact apart.1 suffix longer

/-- A variable has the same value, elements and attributes in two states. Values under keys that
extend its name, but do not count as elements, may differ. -/
structure SameContents (name : String) (first second : State) : Prop where
  value : second.store.get? name = first.store.get? name
  attributes : second.store.attributes[name]? = first.store.attributes[name]?
  associative : second.isAssociative name = first.isAssociative name
  callNames : second.callNames = first.callNames
  callLines : second.callLines = first.callLines
  callSources : second.callSources = first.callSources
  elements : ∀ suffix, first.Counts name suffix →
    second.store.get? (elementKey name suffix) = first.store.get? (elementKey name suffix)

theorem SameContents.refl (name : String) (state : State) : SameContents name state state :=
  ⟨rfl, rfl, rfl, rfl, rfl, rfl, fun _ _ => rfl⟩

theorem SameContents.callArray? (same : SameContents name first second) :
    second.callArray? name = first.callArray? name := by
  simp only [State.callArray?, same.callNames, same.callLines, same.callSources]

theorem SameContents.counts_iff (same : SameContents name first second) {suffix : String} :
    second.Counts name suffix ↔ first.Counts name suffix := by
  rw [Counts, Counts, same.callArray?, same.associative]

theorem SameContents.overlaps_iff (same : SameContents name first second) :
    second.Overlaps name target ↔ first.Overlaps name target := by
  simp only [Overlaps, same.counts_iff]

theorem SameContents.trans (before : SameContents name first second)
    (next : SameContents name second third) : SameContents name first third where
  value := next.value.trans before.value
  attributes := next.attributes.trans before.attributes
  associative := next.associative.trans before.associative
  callNames := next.callNames.trans before.callNames
  callLines := next.callLines.trans before.callLines
  callSources := next.callSources.trans before.callSources
  elements suffix counts :=
    (next.elements suffix (before.counts_iff.mpr counts)).trans (before.elements suffix counts)

theorem SameContents.indices (same : SameContents name first second)
    (counts : ∀ suffix, Text.isIndex suffix.toList = true → first.Counts name suffix) :
    second.indices name = first.indices name := by
  rw [State.indices, State.indices, filter_suffixes_congr]
  intro suffix index
  rw [Store.has_eq_isSome_get?, Store.has_eq_isSome_get?,
    same.elements suffix (counts suffix index)]

theorem SameContents.ownElements (same : SameContents name first second)
    (stored : first.callArray? name = none) :
    second.ownElements name = first.ownElements name := by
  unfold State.ownElements
  rw [same.associative]
  split
  · rename_i associative
    have values : ∀ suffix, second.store.get? (elementKey name suffix) =
        first.store.get? (elementKey name suffix) := fun suffix =>
      same.elements suffix ⟨stored, .inl associative⟩
    have suffixes : second.suffixes name = first.suffixes name := by
      refine suffixes_congr fun suffix => ?_
      rw [Store.has_eq_isSome_get?, Store.has_eq_isSome_get?, values]
    rw [suffixes]
    simp only [values]
  · have elementAt : second.elementAt name = first.elementAt name := by
      funext index
      rw [State.elementAt, State.elementAt,
        same.elements (toString index) ⟨stored, .inr (isIndex_toString index)⟩]
    rw [same.indices fun _ index => ⟨stored, .inr index⟩, elementAt]

theorem SameContents.listing (same : SameContents name first second)
    (direct : first.store.isNameref name = false) : second.elements name = first.elements name := by
  have still : second.store.isNameref name = false :=
    (Store.hasAttribute_congr same.attributes _).trans direct
  unfold State.elements
  rw [same.callArray?, resolved_of_not_nameref direct, resolved_of_not_nameref still]
  cases stored : first.callArray? name with
  | some values => rfl
  | none => exact same.ownElements stored

/-- Keys of a variable that count are not the target's, unless the two overlap. -/
theorem not_owns_of_counts {state : State} {suffix : String} (different : target ≠ name)
    (clear : ¬ state.Overlaps name target) (counts : state.Counts name suffix) :
    ¬ Owns target (elementKey name suffix) := by
  rintro (same | ⟨rest, same⟩)
  · exact clear (.inr ⟨suffix, same.symm, counts⟩)
  · rcases elementKey_eq_elementKey same with rfl | ⟨part, rfl⟩ | ⟨part, rfl⟩
    · exact different rfl
    · refine clear (.inr ⟨part, rfl, counts.1, .inl (counts.2.resolve_right fun index => ?_)⟩)
      -- An underscore divides the suffix, so it is no index.
      have divided : suffix.toList = part.toList ++ '_' :: rest.toList := by
        simpa using congrArg String.toList same
      have underscore := Text.underscore_notMem_of_isIndex index
      simp [divided] at underscore
    · exact clear (.inl ⟨part, rfl⟩)

theorem SameContents.of_edits (edits : Edits target first second) (different : target ≠ name)
    (clear : ¬ first.Overlaps name target) : SameContents name first second where
  value := by
    refine edits.values name ?_
    rintro (same | ⟨suffix, longer⟩)
    · exact different same.symm
    · exact clear (.inl ⟨suffix, longer⟩)
  attributes := edits.attributes name different.symm
  associative := edits.associative name different.symm
  callNames := (congrArg State.callNames edits.surroundings :)
  callLines := (congrArg State.callLines edits.surroundings :)
  callSources := (congrArg State.callSources edits.surroundings :)
  elements suffix counts := edits.values _ (not_owns_of_counts different clear counts)

end Contents

section Kept

variable {name : String} {state : State} {assignments : List Assignment}

/-- What is not readonly is not the readonly variable. -/
theorem ne_of_writable {target : String} (readonly : state.store.isReadonly name = true)
    (writable : state.store.isReadonly target = false) : target ≠ name := by
  rintro rfl
  rw [readonly] at writable
  contradiction

theorem isReadonly_performAll (readonly : state.store.isReadonly name = true)
    (assignments : List Assignment) :
    (performAll assignments state).store.isReadonly name = true := by
  let Stays (first second : State) : Prop :=
    first.store.isReadonly name = true → second.store.isReadonly name = true
  have run : Stays state (performAll assignments state) := by
    refine performAll_induction (fun _ => id) (fun before next start => next (before start)) ?_
      (within_true state assignments)
    intro first second target writable _ edits start
    have different := ne_of_writable start writable
    exact (Store.hasAttribute_congr (edits.attributes name different.symm) _).trans start
  exact run readonly

theorem get?_performAll (readonly : state.store.isReadonly name = true)
    (within : Within (fun target => ∀ suffix, name ≠ elementKey target suffix) state assignments) :
    (performAll assignments state).store.get? name = state.store.get? name := by
  let Stays (first second : State) : Prop :=
    first.store.isReadonly name = true → second.store.isReadonly name = true ∧
      second.store.get? name = first.store.get? name
  have run : Stays state (performAll assignments state) := by
    refine performAll_induction (fun _ start => ⟨start, rfl⟩) ?_ ?_ within
    · intro first second third before next start
      obtain ⟨middle, same⟩ := before start
      exact ⟨(next middle).1, (next middle).2.trans same⟩
    · intro first second target writable clear edits start
      have different := ne_of_writable start writable
      refine ⟨(Store.hasAttribute_congr (edits.attributes name different.symm) _).trans start, ?_⟩
      refine edits.values name ?_
      rintro (same | ⟨suffix, longer⟩)
      · exact different same.symm
      · exact clear suffix longer
  exact (run readonly).2

theorem sameContents_performAll (readonly : state.store.isReadonly name = true)
    (within : Within (fun target => ¬ state.Overlaps name target) state assignments) :
    SameContents name state (performAll assignments state) := by
  -- The invariant is relative to the first state, which says what overlaps.
  let Stays (first second : State) : Prop :=
    SameContents name state first → SameContents name state second
  have run : Stays state (performAll assignments state) := by
    refine performAll_induction (fun _ => id) (fun before next start => next (before start)) ?_
      within
    intro first second target writable clear edits same
    have still : first.store.isReadonly name = true :=
      (Store.hasAttribute_congr same.attributes _).trans readonly
    refine same.trans (.of_edits edits (ne_of_writable still writable) ?_)
    exact fun overlaps => clear (same.overlaps_iff.mp overlaps)
  exact run (.refl name state)

end Kept

section Overwriting

variable {name target suffix : String} {state : State}

/-- A variable that can be written: an identifier that is neither a nameref nor readonly. -/
structure Free (state : State) (name : String) : Prop where
  identifier : Text.isIdentifier name.toList = true
  direct : state.store.isNameref name = false
  writable : state.store.isReadonly name = false

theorem get?_assign (value : String) (writable : state.store.isReadonly target = false)
    (timeless : target ≠ "SECONDS") (key : String) :
    (after (assign target value) state).store.get? key =
      if target = key then some value else state.store.get? key := by
  rcases after_assign_cases target value state with
    ⟨refused, -⟩ | ⟨same, -⟩ | ⟨queries, base, -, same⟩
  · simp [writable] at refused
  · exact absurd same timeless
  · rw [same]
    exact state.get?_assigned target value key

theorem get?_after_assign (value : String) (writable : state.store.isReadonly target = false)
    (timeless : target ≠ "SECONDS") :
    (after (assign target value) state).store.get? target = some value := by
  rw [get?_assign value writable timeless, if_pos rfl]

/-- A value can be put under every key of an array, also under one of another variable. -/
theorem get?_after_setAssociativeArray (free : state.Free target) (value : String) :
    (after (setAssociativeArray target [(suffix, value)]) state).store.get?
      (elementKey target suffix) = some value := by
  let declared := after (declareAssociative target) state
  have registered : declared.isAssociative target = true := Std.ExtTreeSet.contains_insert_self
  have readable : declared.Readable target := by
    intro plain
    rw [registered] at plain
    contradiction
  obtain ⟨keys, cleared, -⟩ := execute_clearArray readable
  have declares : execute (declareAssociative target) state = (.ok (), declared) := rfl
  rw [setAssociativeArray, after_get_bind, resolve?_of_not_nameref free.direct]
  dsimp only
  rw [after, execute_bind_of_ok (execute_checkWritable_of_not free.writable),
    execute_bind_of_ok declares, execute_bind_of_ok cleared, execute_changeStore]
  exact (Store.get?_put _ _ _ _).trans (if_pos rfl)

theorem reference?_of_free (free : state.Free target) : state.reference? target = none := by
  rw [reference?, resolve?_of_not_nameref free.direct, Option.bind_some,
    Reference.parse?_of_isIdentifier free.identifier]
  rfl

theorem assigned?_of_free (free : state.Free target) : state.assigned? target = some target := by
  rw [assigned?, reference?_of_free free, resolve?_of_not_nameref free.direct]

theorem after_setVariable_of_free (free : state.Free target) (value : String) :
    after (setVariable target value) state = after (assign target value) state := by
  rw [after, execute_setVariable, reference?_of_free free, resolve?_of_not_nameref free.direct]
  rfl

theorem exists_fresh (texts : List String) : ∃ text, text ∉ texts := by
  have infinite : Infinite String := .of_injective String.ofList fun _ _ => String.ofList_injective
  obtain ⟨text, fresh⟩ := Infinite.exists_notMem_finset texts.toFinset
  exact ⟨text, by simpa using fresh⟩

/-- A value under a key that counts is listed among the elements. -/
theorem exists_mem_elements {listing : List (Key × String)} {value : String}
    (direct : state.store.isNameref name = false) (listed : state.elements name = .ok listing)
    (counts : state.Counts name suffix) (single : '\n' ∉ suffix.toList)
    (held : state.store.get? (elementKey name suffix) = some value) :
    ∃ key, (key, value) ∈ listing := by
  have present : suffix ∈ state.suffixes name := by
    rw [mem_suffixes, Store.has_eq_isSome_get?, held]
    rfl
  unfold State.elements at listed
  rw [counts.1, resolved_of_not_nameref direct] at listed
  dsimp only [ownElements] at listed
  split at listed
  · cases listed
    exact ⟨.name suffix, List.mem_filterMap.mpr ⟨suffix, present, by rw [held]; rfl⟩⟩
  · rename_i plain
    have index := counts.2.resolve_left plain
    cases read : state.indices name with
    | error fault =>
      rw [read] at listed
      contradiction
    | ok numbers =>
      rw [read] at listed
      obtain ⟨n, member, spelled⟩ := exists_mem_indices read present index single
      subst spelled
      obtain ⟨element, found, shown⟩ := exists_of_mapM_eq_ok listed member
      rw [elementAt, held] at shown
      cases shown
      exact ⟨.index n, found⟩

theorem within_singleton {assignment : Assignment}
    (found : assignment.target? state = some target) : Within (· = target) state [assignment] := by
  refine ⟨fun other same _ => ?_, trivial⟩
  rw [found] at same
  exact (Option.some.inj same).symm

/-- A variable whose key is that of a free array's element can be given another value. -/
theorem exists_changes_value (free : state.Free target) (longer : name = elementKey target suffix) :
    ∃ assignments, Within (· = target) state assignments ∧
      (performAll assignments state).store.get? name ≠ state.store.get? name := by
  obtain ⟨value, fresh⟩ := exists_fresh (state.store.get? name).toList
  refine ⟨[.associativeArray target [(suffix, value)]],
    within_singleton (resolve?_of_not_nameref free.direct), ?_⟩
  intro same
  change (after (setAssociativeArray target [(suffix, value)]) state).store.get? name = _ at same
  rw [longer, get?_after_setAssociativeArray free, ← longer] at same
  rw [← same] at fresh
  simp at fresh

/-- An array with an element whose key is that of a free variable can be given another element. -/
theorem exists_changes_elements {listing : List (Key × String)} (free : state.Free target)
    (direct : state.store.isNameref name = false) (listed : state.elements name = .ok listing)
    (longer : target = elementKey name suffix) (counts : state.Counts name suffix) :
    ∃ assignments, Within (· = target) state assignments ∧
      (performAll assignments state).elements name ≠ state.elements name := by
  obtain ⟨value, fresh⟩ := exists_fresh (listing.map Prod.snd)
  refine ⟨[.scalar target value], within_singleton (assigned?_of_free free), ?_⟩
  have underscore : '_' ∈ target.toList := by simp [longer]
  have timeless : target ≠ "SECONDS" := by
    rintro rfl
    exact absurd underscore (by decide)
  have single : '\n' ∉ suffix.toList := by
    intro newline
    have inTarget : '\n' ∈ target.toList := by simp [longer, newline]
    exact Text.newline_notMem_of_isIdentifier free.identifier inTarget
  have different : name ≠ target := by
    rw [longer]
    exact (elementKey_ne_self name suffix).symm
  have edits := edits_assign target value state
  have held := get?_after_assign value free.writable timeless
  intro same
  change (after (setVariable target value) state).elements name = _ at same
  rw [after_setVariable_of_free free] at same
  generalize after (assign target value) state = last at edits held same
  have still : last.store.isNameref name = false :=
    (Store.hasAttribute_congr (edits.attributes name different) _).trans direct
  have calls : last.callArray? name = state.callArray? name := by
    have same := congrArg (State.callArray? · name) edits.surroundings
    exact same
  have countsStill : last.Counts name suffix := by
    rw [Counts, calls, edits.associative name different]
    exact counts
  obtain ⟨key, member⟩ := exists_mem_elements still (same.trans listed) countsStill single
    (longer ▸ held)
  exact fresh (List.mem_map_of_mem member)

end Overwriting

/-- A variable has the same value and the same elements in two states. -/
structure Kept (name : String) (first second : State) : Prop where
  value : second.store.get? name = first.store.get? name
  elements : second.elements name = first.elements name

/-- Whatever is called, a readonly variable stays readonly. It keeps its value as long as no array
is written that has it as an element, and a variable that is no nameref keeps its elements too as
long as no name is written that overlaps. For each name that can be written, this is all that has to
be avoided. -/
theorem readonly_kept_iff {name : String} {state : State}
    (readonly : state.store.isReadonly name = true) :
    (∀ assignments, (performAll assignments state).store.isReadonly name = true) ∧
    (∀ assignments,
      Within (fun target => ∀ suffix, name ≠ elementKey target suffix) state assignments →
        (performAll assignments state).store.get? name = state.store.get? name) ∧
    (∀ target, state.Free target →
      ((∀ assignments, Within (· = target) state assignments →
          (performAll assignments state).store.get? name = state.store.get? name) ↔
        ∀ suffix, name ≠ elementKey target suffix)) ∧
    (state.store.isNameref name = false →
      (∀ assignments, Within (fun target => ¬ state.Overlaps name target) state assignments →
        Kept name state (performAll assignments state)) ∧
      ∀ listing, state.elements name = .ok listing → ∀ target, state.Free target →
        ((∀ assignments, Within (· = target) state assignments →
            Kept name state (performAll assignments state)) ↔
          ¬ state.Overlaps name target)) := by
  refine ⟨isReadonly_performAll readonly, fun assignments => get?_performAll readonly, ?_, ?_⟩
  · intro target free
    refine ⟨fun kept suffix longer => ?_, fun clear assignments within => ?_⟩
    · obtain ⟨assignments, within, changed⟩ := exists_changes_value free longer
      exact changed (kept assignments within)
    · exact get?_performAll readonly (within.mono fun _ same => same ▸ clear)
  · intro direct
    have kept : ∀ assignments, Within (fun target => ¬ state.Overlaps name target) state
        assignments → Kept name state (performAll assignments state) := by
      intro assignments within
      have same := sameContents_performAll readonly within
      exact ⟨same.value, same.listing direct⟩
    refine ⟨kept, fun listing listed target free =>
      ⟨fun keeps => ?_, fun clear assignments within => ?_⟩⟩
    · rintro (⟨suffix, longer⟩ | ⟨suffix, longer, counts⟩)
      · obtain ⟨assignments, within, changed⟩ := exists_changes_value free longer
        exact changed (keeps assignments within).value
      · obtain ⟨assignments, within, changed⟩ :=
          exists_changes_elements free direct listed longer counts
        exact changed (keeps assignments within).elements
    · exact kept assignments (within.mono fun _ same => same ▸ clear)

/-- A readonly array with one element. -/
def guardedArray : State :=
  { store := ((({} : Store).put "r_0" "v").addAttribute "r" Attribute.indexed).addAttribute "r"
      Attribute.readonly }

theorem apart_r_q : Apart "r" "q" := by
  constructor
  · intro suffix equality
    have texts := congrArg String.toList equality
    simp at texts
  · intro suffix equality
    have texts := congrArg String.toList equality
    simp at texts

theorem guardedArray_kept :
    guardedArray.elements "r" = .ok [(.index 0, "v")] ∧
      Kept "r" guardedArray
        (performAll [.array "r" [], .scalar "q" "w", .unset "r[0]"] guardedArray) := by
  have readonly : guardedArray.store.isReadonly "r" = true := rfl
  refine ⟨rfl, ((readonly_kept_iff readonly).2.2.2 rfl).1 _ ?_⟩
  have refused : ∀ state : State, state.store.isReadonly "r" = true → ∀ target,
      some "r" = some target → state.store.isReadonly target = false →
        ¬ guardedArray.Overlaps "r" target := by
    rintro state still _ ⟨⟩ writable
    rw [still] at writable
    contradiction
  refine ⟨refused _ readonly, ?_, refused _ (by decide +kernel), trivial⟩
  rintro _ ⟨⟩ _
  exact not_overlaps_of_apart apart_r_q

/-- A readonly variable whose key is that of an element. -/
def guardedScalar : State :=
  { store := (({} : Store).put "a_0" "v").addAttribute "a_0" Attribute.readonly }

theorem guardedScalar_overwritten :
    guardedScalar.store.isReadonly "a_0" = true ∧ guardedScalar.store.get? "a_0" = some "v" ∧
      (performAll [.element "a" "0" "w"] guardedScalar).store.get? "a_0" = some "w" := by
  decide +kernel

end Shell.State
