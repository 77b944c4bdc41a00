import Shell.Proofs.Variable.Readonly

/-!
# A scalar and the element at zero

The value of an array's name is the element at zero, and the element at zero of a
scalar is its value. Both are kept under keys of their own, and which of the two is
read first depends on how it is asked for. The readings agree as long as the keys do
not hold different values, and writing can make them differ in two ways: a scalar is
assigned to an array that has the element, or the element to an array that has a
scalar.
-/

namespace Shell.State

open Running

variable {state : State} {name : String}

section Reading

/-- Neither a variable that the shell computes nor one that shows the call stack. -/
def isOrdinary (name : String) : Bool :=
  (State.computed? {} name).isNone && (State.callArray? {} name).isNone

theorem computed?_of_isOrdinary (ordinary : isOrdinary name = true) (state : State) :
    state.computed? name = none := by
  simp only [isOrdinary, Bool.and_eq_true, Option.isNone_iff_eq_none] at ordinary
  have unknown := ordinary.1
  unfold computed? at unknown ⊢
  split at unknown
  case h_16 => rfl
  all_goals contradiction

theorem callArray?_of_isOrdinary (ordinary : isOrdinary name = true) (state : State) :
    state.callArray? name = none := by
  simp only [isOrdinary, Bool.and_eq_true, Option.isNone_iff_eq_none, callArray?] at ordinary
  have unknown := ordinary.2
  unfold callArray?
  split_ifs at unknown ⊢
  rfl

theorem ofExcept_eq_pure_iff {result : Except Fault String} {text : String} :
    (MonadExcept.ofExcept result : Draw String) = pure text ↔ result = .ok text := by
  constructor
  · intro same
    have ran := congrArg (fun read : Draw String => (execute read {}).1) same
    simpa using ran
  · rintro rfl
    rfl

/-- If both the name and its element at zero have values, they are the same. -/
def Coincides (state : State) (name : String) : Prop :=
  ∀ scalar element, state.store.get? name = some scalar →
    state.store.get? (elementKey name "0") = some element → scalar = element

variable (identifier : Text.isIdentifier name.toList = true)
  (direct : state.store.isNameref name = false)
  (indexed : state.isAssociative name = false) (ordinary : isOrdinary name = true)

include identifier direct ordinary

theorem value_scalar : state.value name = MonadExcept.ofExcept (state.stored name) := by
  rw [value_of_isIdentifier identifier direct, computed?_of_isOrdinary ordinary, Option.getD_none]

include indexed

/-- The element at zero comes before the scalar. -/
theorem value_zero :
    state.value (Reference.text ⟨name, "0"⟩) =
      pure (((state.store.get? (elementKey name "0")).or (state.store.get? name)).getD "") := by
  have parsed : Reference.parse? (Reference.text ⟨name, "0"⟩) = some ⟨name, "0"⟩ :=
    Reference.parse?_text identifier (show "0" ≠ "" by decide)
  have evaluated : ∀ read : String → Draw String,
      (state.subscriptIndex read name "0").recover = pure (some (some 0)) := fun _ => rfl
  have key : indexKey name 0 = .ok (elementKey name "0") := by
    rw [indexKey_of_lt Text.numberLimit_pos]
    rfl
  obtain ⟨read, form⟩ := exists_value_eq state (Reference.text ⟨name, "0"⟩)
  rw [form, resolved_text, parsed]
  dsimp only [element]
  rw [resolved_of_not_nameref direct, callArray?_of_isOrdinary ordinary, indexed, evaluated]
  have single : isWhole "0" = false := by decide
  have spelled : (MonadExcept.ofExcept (.ok (elementKey name "0")) : Draw String) =
      pure (elementKey name "0") := rfl
  simp only [single, Bool.false_eq_true, if_false, if_true, pure_bind, Option.join_some, key,
    spelled]
  cases state.store.get? (elementKey name "0") <;> rfl

omit identifier direct indexed ordinary in
/-- A name with the element at zero is that of an array. -/
theorem get?_zero_of_isArray (other : state.isArray name = .ok false) :
    state.store.get? (elementKey name "0") = none := by
  by_contra present
  have stored : state.store.has (elementKey name "0") = true := by
    rwa [Store.has_eq_isSome_get?, Option.isSome_iff_ne_none]
  exact isArray_ne_false stored (by decide) (by decide) other

/-- The two readings agree exactly if the values do, and if it is known whether a name without a
value is that of an array. -/
theorem value_eq_value_zero_iff :
    state.value name = state.value (Reference.text ⟨name, "0"⟩) ↔
      state.Coincides name ∧
        (state.store.get? name = none → ∃ answer, state.isArray name = .ok answer) := by
  rw [value_scalar identifier direct ordinary, value_zero identifier direct indexed ordinary]
  have isName : Text.isName name.toList = true := Text.isName_of_isIdentifier identifier
  rw [ofExcept_eq_pure_iff, stored, callArray?_of_isOrdinary ordinary, isName, Coincides]
  cases state.store.get? name with
  | some scalar =>
    cases state.store.get? (elementKey name "0") <;> simp
  | none =>
    cases known : state.isArray name with
    | error fault => simp [bind, Except.bind]
    | ok answer =>
      cases answer with
      | true => simp [bind, Except.bind, pure, Except.pure]
      | false => simp [bind, Except.bind, pure, Except.pure, get?_zero_of_isArray known]

end Reading

end Shell.State

namespace Shell.Store

/-- Attributes that stand in the way of an assignment. -/
def hindrances : List String := [Attribute.nameref, Attribute.readonly]

/-- No name is a nameref or readonly, and no key has a newline in it. -/
structure Plain (store : Store) : Prop where
  unhindered : ∀ name, ∀ letter ∈ hindrances, store.hasAttribute name letter = false
  singleLine : ∀ key, store.has key = true → '\n' ∉ key.toList

namespace Plain

variable {store : Store} (plain : store.Plain)

include plain

theorem direct (name : String) : store.isNameref name = false :=
  plain.unhindered name _ (by decide)

theorem writable (name : String) : store.isReadonly name = false :=
  plain.unhindered name _ (by decide)

theorem put {key : String} (single : '\n' ∉ key.toList) (value : String) :
    (store.put key value).Plain where
  unhindered := plain.unhindered
  singleLine other present := by
    by_cases same : key = other
    · exact same ▸ single
    · rw [has_eq_isSome_get?, get?_put, if_neg same, ← has_eq_isSome_get?] at present
      exact plain.singleLine other present

theorem drop (key : String) : (store.drop key).Plain where
  unhindered := plain.unhindered
  singleLine other present := by
    by_cases same : key = other
    · simp [has_eq_isSome_get?, same] at present
    · rw [has_eq_isSome_get?, get?_drop, if_neg same, ← has_eq_isSome_get?] at present
      exact plain.singleLine other present

theorem addAttribute (name : String) {letter : String} (harmless : letter ∉ hindrances) :
    (store.addAttribute name letter).Plain where
  unhindered other wanted hinders := by
    have different : letter ≠ wanted := fun same => harmless (same ▸ hinders)
    simp [hasAttribute_addAttribute, different, plain.unhindered other wanted hinders]
  singleLine := plain.singleLine

theorem dropAttribute (name letter : String) : (store.dropAttribute name letter).Plain where
  unhindered other wanted hinders := by
    simp [hasAttribute_dropAttribute, plain.unhindered other wanted hinders]
  singleLine := plain.singleLine

theorem loseAttributes (name : String) (letters : List String) :
    (State.loseAttributes store name letters).Plain := by
  induction letters generalizing store with
  | nil => exact plain
  | cons letter rest inductionHypothesis =>
    exact inductionHypothesis (plain.dropAttribute name letter)

end Plain

end Shell.Store

namespace Shell.State

open Running

/-- Every assignment goes to the name it is given: there are no namerefs, no readonly names and no
associative arrays. -/
structure Plain (state : State) : Prop where
  store : state.store.Plain
  indexed : ∀ name, state.isAssociative name = false

namespace Plain

variable {first second state : State} {name : String} {puts : String → Prop}

theorem newline_notMem_elementKey (single : '\n' ∉ name.toList) (index : Nat) :
    '\n' ∉ (elementKey name (toString index)).toList := by
  simp [single, Text.newline_notMem_toDigits index]

/-- Assignments without a declaration keep a state plain. -/
theorem of_touches (touches : Touches name puts False first second) (single : '\n' ∉ name.toList)
    (plain : first.Plain) : second.Plain := by
  induction touches with
  | refl => exact plain
  | trans _ _ before next => exact next (before plain)
  | put state value stores _ =>
    refine ⟨plain.store.put ?_ value, plain.indexed⟩
    cases stores with
    | self => exact single
    | index => exact newline_notMem_elementKey single _
    | key _ associative =>
      rw [plain.indexed] at associative
      contradiction
  | drop state owned => exact ⟨plain.store.drop _, plain.indexed⟩
  | mark state harmless =>
    refine ⟨plain.store.addAttribute name ?_, plain.indexed⟩
    rcases harmless with rfl | rfl <;> decide
  | declare state never => exact never.elim
  | compute => exact ⟨plain.store, plain.indexed⟩

variable (plain : state.Plain)

include plain

theorem free (identifier : Text.isIdentifier name.toList = true) : state.Free name :=
  ⟨identifier, plain.store.direct name, plain.store.writable name⟩

theorem queries (queries : Queries) : Plain { state with queries := queries } :=
  ⟨plain.store, plain.indexed⟩

theorem unsetName (single : '\n' ∉ name.toList) : Plain (after (unsetName name) state) := by
  obtain ⟨cleared, touches, same | ⟨-, same⟩⟩ :=
    unsetName_cases name (fun _ => True) False state
  · rw [same]
    exact of_touches touches single plain
  · have emptied : Plain cleared := of_touches touches single plain
    have unset : Plain (unsetPlain name cleared) := by
      refine ⟨(emptied.store.drop name).loseAttributes name lostAttributes, fun other => ?_⟩
      simp [isAssociative_unsetPlain, emptied.indexed]
    obtain ⟨notes, noted⟩ := noteUnset_eq name (unsetPlain name cleared)
    rw [same, noted]
    exact ⟨unset.store, unset.indexed⟩

end Plain

/-- The name that a call is given. -/
def Assignment.name : Assignment → String
  | scalar name _ | element name _ _ | array name _ | associativeArray name _ | unset name
  | unsetNameref name => name

/-- The call assigns or unsets an identifier, and associative arrays and namerefs are not meant. -/
def Assignment.isBasic : Assignment → Bool
  | scalar name _ | element name _ _ | array name _ | unset name => Text.isIdentifier name.toList
  | associativeArray _ _ | unsetNameref _ => false

section Calls

variable {state : State} {name : String}

/-- Without namerefs a name that is no reference is itself unset. -/
theorem execute_unset_of_direct (plain : Reference.parse? name = none)
    (direct : state.store.isNameref name = false) :
    execute (State.unset name) state = execute (unsetName name) state := by
  rw [State.unset, execute_get_bind, unsetWithin, plain]
  dsimp only
  rw [execute_get_bind, resolve?_of_not_nameref direct]
  dsimp only
  rw [plain]

theorem after_unset_of_free (free : state.Free name) :
    after (State.unset name) state = after (unsetName name) state := by
  have plain : Reference.parse? name = none := Reference.parse?_of_isIdentifier free.identifier
  rw [after, execute_unset_of_direct plain free.direct]
  rfl

theorem Plain.perform (plain : state.Plain) {call : Assignment} (basic : call.isBasic = true) :
    Plain (after call.perform state) := by
  have kept : ∀ {last : State}, Touches call.name (fun _ => True) False state last →
      last.Plain := by
    intro last touches
    refine of_touches touches (Text.newline_notMem_of_isIdentifier ?_) plain
    cases call <;> first | exact basic | contradiction
  cases call with
  | scalar name value =>
    rw [Assignment.perform, after_setVariable_of_free (plain.free basic)]
    exact kept (touches_assign trivial value state)
  | element name subscript value =>
    have direct := resolve?_of_not_nameref (plain.store.direct name)
    exact kept (touches_setElement_of_resolve? direct subscript value (fun _ _ _ => trivial)
      fun _ _ _ => trivial)
  | array name values =>
    have direct := resolve?_of_not_nameref (plain.store.direct name)
    exact kept (touches_setArray_of_resolve? direct values fun _ _ => trivial)
  | unset name =>
    rw [Assignment.perform, after_unset_of_free (plain.free basic)]
    exact plain.unsetName (Text.newline_notMem_of_isIdentifier basic)
  | associativeArray name items => contradiction
  | unsetNameref name => contradiction

theorem Plain.edits_perform (plain : state.Plain) {call : Assignment}
    (basic : call.isBasic = true) : Edits call.name state (after call.perform state) := by
  cases call with
  | scalar name value =>
    rw [Assignment.perform, after_setVariable_of_free (plain.free basic)]
    exact edits_assign name value state
  | element name subscript value =>
    exact edits_setElement_of_resolve? (resolve?_of_not_nameref (plain.store.direct name))
      subscript value
  | array name values =>
    exact edits_setArray_of_resolve? (resolve?_of_not_nameref (plain.store.direct name)) values
  | unset name =>
    rw [Assignment.perform, after_unset_of_free (plain.free basic)]
    exact edits_unsetName name state
  | associativeArray name items => contradiction
  | unsetNameref name => contradiction

/-- The call gives a value to one of the two keys of the variable while the other one keeps a
different value. -/
def Clashes (name : String) (state : State) : Assignment → Prop
  | .scalar target value =>
    target = name ∧ ∃ element, state.store.get? (elementKey name "0") = some element ∧
      element ≠ value
  | .element target subscript value =>
    target = name ∧
      (execute (state.subscriptIndex state.value name subscript) state.queries).1 =
        .ok (some 0) ∧
      state.isArray name = .ok true ∧
      ∃ scalar, state.store.get? name = some scalar ∧ scalar ≠ value
  | _ => False

theorem coincides_of_get?_eq_none (unset : state.store.get? name = none) :
    state.Coincides name := by
  intro scalar element found
  rw [unset] at found
  contradiction

theorem coincides_iff_of_get? {scalar : String} (found : state.store.get? name = some scalar) :
    state.Coincides name ↔
      ∀ element, state.store.get? (elementKey name "0") = some element → scalar = element := by
  constructor
  · exact fun coincides element => coincides scalar element found
  · intro agrees other element same
    rw [found, Option.some_inj] at same
    exact same ▸ agrees element

theorem Coincides.congr {first second : State}
    (value : second.store.get? name = first.store.get? name)
    (zero : second.store.get? (elementKey name "0") = first.store.get? (elementKey name "0")) :
    second.Coincides name ↔ first.Coincides name := by
  rw [Coincides, Coincides, value, zero]

theorem get?_storeAt (index : Nat) (value : String) (key : String) (state : State) :
    (after (storeAt name index value) state).store.get? key =
      if index < Text.numberLimit ∧ elementKey name (toString index) = key then some value
      else state.store.get? key := by
  by_cases short : index < Text.numberLimit
  · have written : (after (storeAt name index value) state).store =
        (state.store.put (elementKey name (toString index)) value).addAttribute name
          Attribute.indexed := by
      rw [storeAt, indexKey_of_lt short]
      rfl
    simp [written, short]
  · have failed : after (storeAt name index value) state = state := by
      rw [storeAt, indexKey_of_le (Nat.le_of_not_lt short)]
      rfl
    simp [failed, short]

/-- An index that can be written leaves the scalar alone. -/
theorem get?_self_storeAt (index : Nat) (value : String) (state : State) :
    (after (storeAt name index value) state).store.get? name = state.store.get? name := by
  rw [get?_storeAt, if_neg]
  exact fun ⟨_, same⟩ => elementKey_ne_self name _ same

theorem get?_zero_storeAt (index : Nat) (value : String) (state : State) :
    (after (storeAt name index value) state).store.get? (elementKey name "0") =
      if index = 0 then some value else state.store.get? (elementKey name "0") := by
  rw [get?_storeAt]
  by_cases first : index = 0
  · subst first
    rw [if_pos rfl, if_pos ⟨Text.numberLimit_pos, rfl⟩]
  · rw [if_neg first, if_neg]
    rintro ⟨-, same⟩
    have digits : ['0'] = Nat.toDigits 10 index :=
      toString_eq_iff.mp (elementKey_inj.mp same).symm
    have leading := Text.head?_toDigits_ne_zero (Nat.pos_of_ne_zero first)
    simp [← digits] at leading

theorem isArray_known_iff (plain : state.Plain) :
    (∃ answer, state.isArray name = .ok answer) ↔
      state.isDeclaredArray name = true ∨ state.Readable name := by
  have single : state.SingleLine := plain.store.singleLine
  exact exists_isArray_iff (fun _ present _ => single.suffix present) (plain.indexed name)

theorem coincides_assign_iff (plain : state.Plain) (ordinary : isOrdinary name = true)
    (value : String) :
    (after (assign name value) state).Coincides name ↔
      ∀ element, state.store.get? (elementKey name "0") = some element → value = element := by
  have timeless : name ≠ "SECONDS" := by
    rintro rfl
    exact absurd ordinary (by decide)
  have written : ∀ key, (after (assign name value) state).store.get? key =
      if name = key then some value else state.store.get? key :=
    get?_assign value (plain.store.writable name) timeless
  rw [coincides_iff_of_get? ((written name).trans (if_pos rfl)), written,
    if_neg (elementKey_ne_self name "0").symm]

theorem coincides_putElement_iff (plain : state.Plain) (readable : state.Readable name)
    (start : state.Coincides name) (index : Nat) (value : String) :
    (after (putElement name index value) state).Coincides name ↔
      ¬ (index = 0 ∧ state.isArray name = .ok true ∧
        ∃ scalar, state.store.get? name = some scalar ∧ scalar ≠ value) := by
  obtain ⟨answer, known⟩ := (isArray_known_iff plain).mpr (.inr readable)
  rw [after_putElement, known]
  cases found : state.store.get? name with
  | none =>
    refine iff_of_true (coincides_of_get?_eq_none ?_) (by simp)
    exact (get?_self_storeAt index value state).trans found
  | some scalar =>
    cases answer with
    | false =>
      refine iff_of_true (coincides_of_get?_eq_none ?_) (by simp)
      exact (get?_self_storeAt index value _).trans (get?_promote name scalar state)
    | true =>
      rw [coincides_iff_of_get? ((get?_self_storeAt index value state).trans found),
        get?_zero_storeAt]
      by_cases first : index = 0
      · simp [first]
      · simpa [first] using fun element => start scalar element found

theorem coincides_setElement_iff (plain : state.Plain) (readable : state.Readable name)
    (start : state.Coincides name) (subscript value : String) :
    (after (setElement name subscript value) state).Coincides name ↔
      ¬ Clashes name state (.element name subscript value) := by
  have index := plain.indexed name
  unfold setElement Clashes
  rw [after_get_bind, resolve?_of_not_nameref (plain.store.direct name)]
  dsimp only
  rw [after_bind_of_ok (execute_checkWritable_of_not (plain.store.writable name)), after_get_bind,
    index]
  cases drawn : execute (state.subscriptIndex state.value name subscript) state.queries with
  | mk result queries =>
    have read := execute_reading_of
      (fun state => state.subscriptIndex state.value name subscript) drawn
    -- The subscript is evaluated in the same store in which the element is put.
    have still : Plain { state with queries := queries } := plain.queries queries
    rcases result with fault | (_ | index)
    · rw [after, if_neg Bool.false_ne_true, execute_bind_of_error read]
      exact iff_of_true start (by simp)
    · rw [if_neg Bool.false_ne_true, after_bind_of_ok read]
      exact iff_of_true start (by simp)
    · rw [if_neg Bool.false_ne_true, after_bind_of_ok read]
      refine (coincides_putElement_iff still readable start index value).trans (not_congr ?_)
      simp only [true_and, Except.ok.injEq, Option.some.injEq]
      rfl

theorem get?_putElements (index : Nat) (values : List String) (state : State) :
    (after (putElements name index values) state).store.get? name = state.store.get? name := by
  induction values generalizing index state with
  | nil => rfl
  | cons value rest inductionHypothesis =>
    by_cases short : index < Text.numberLimit
    · have put : execute (MonadExcept.ofExcept (indexKey name index) : Write String) state =
          (.ok (elementKey name (toString index)), state) := by
        rw [execute_ofExcept, indexKey_of_lt short]
      rw [putElements, after_bind_of_ok put, after_bind_of_ok (execute_changeStore _ _),
        inductionHypothesis, Store.get?_put, if_neg (elementKey_ne_self name _)]
    · have failed : execute (MonadExcept.ofExcept (indexKey name index) : Write String) state =
          (.error .numberTooLong, state) := by
        rw [execute_ofExcept, indexKey_of_le (Nat.le_of_not_lt short)]
      rw [putElements, after, execute_bind_of_error failed]

theorem get?_setArray (plain : state.Plain) (readable : state.Readable name)
    (values : List String) :
    (after (setArray name values) state).store.get? name = none := by
  obtain ⟨keys, cleared, -⟩ := execute_clearArray readable
  rw [setArray, after_get_bind, resolve?_of_not_nameref (plain.store.direct name)]
  dsimp only
  rw [after_bind_of_ok (execute_checkWritable_of_not (plain.store.writable name)),
    after_bind_of_ok cleared, after_bind_of_ok (execute_changeStore _ _)]
  refine Eq.trans (after_bind
    (fun first second : State => second.store.get? name = first.store.get? name)
    (fun before next => next.trans before) (get?_putElements 0 values _) ?_) (by simp)
  exact fun _ filled _ => rfl

theorem get?_unsetName (plain : state.Plain) (readable : state.Readable name) :
    (after (unsetName name) state).store.get? name = none := by
  obtain ⟨keys, cleared, -⟩ := execute_clearArray readable
  rw [unsetName, after_bind_of_ok (execute_checkWritable_of_not (plain.store.writable name)),
    after_bind_of_ok cleared]
  change ((noteUnset name (unsetPlain name _)).store.get? name) = none
  rw [store_noteUnset, get?_unsetPlain, Store.get?_drop, if_pos rfl]

/-- A call makes the two values differ exactly if it clashes with one of them. -/
theorem coincides_perform_iff (plain : state.Plain) (regular : state.Regular name)
    (ordinary : isOrdinary name = true) (start : state.Coincides name) {call : Assignment}
    (basic : call.isBasic = true) (apart : Apart name call.name) :
    (after call.perform state).Coincides name ↔ ¬ Clashes name state call := by
  by_cases same : call.name = name
  · cases call with
    | scalar target value =>
      obtain rfl : target = name := same
      rw [Assignment.perform, after_setVariable_of_free (plain.free basic),
        coincides_assign_iff plain ordinary]
      simp [Clashes, eq_comm]
    | element target subscript value =>
      obtain rfl : target = name := same
      exact coincides_setElement_iff plain regular.readable start subscript value
    | array target values =>
      obtain rfl : target = name := same
      exact iff_of_true
        (coincides_of_get?_eq_none (get?_setArray plain regular.readable values)) id
    | unset target =>
      obtain rfl : target = name := same
      rw [Assignment.perform, after_unset_of_free (plain.free basic)]
      exact iff_of_true (coincides_of_get?_eq_none (get?_unsetName plain regular.readable)) id
    | associativeArray target items => contradiction
    | unsetNameref target => contradiction
  · have agrees := (plain.edits_perform basic).agrees apart (Ne.symm same)
    rw [Coincides.congr (agrees.values _ (owns_self name))
      (agrees.values _ (owns_elementKey name "0"))]
    refine iff_of_true start ?_
    cases call <;> simp_all [Clashes, Assignment.name]

end Calls

section Runs

variable {state : State} {name : String}

theorem plain_of_empty (empty : state.store = {}) (unregistered : state.associative = ∅) :
    state.Plain := by
  refine ⟨⟨fun other letter _ => ?_, fun key present => ?_⟩, fun other => ?_⟩
  · simp [empty, Store.hasAttribute, Store.attributesOf]
  · simp [empty, Store.has] at present
  · simp [isAssociative, unregistered]

theorem regular_of_empty (empty : state.store = {}) (unregistered : state.associative = ∅)
    (name : String) : state.Regular name := by
  refine ⟨?_, fun _ suffix present => ?_⟩
  · simp [empty, unregistered, isAssociative, Store.hasAttribute, Store.attributesOf]
  · simp [empty, Store.has] at present

/-- Some call clashes when its turn comes. -/
def Clashing (name : String) : State → List Assignment → Prop
  | _, [] => False
  | state, call :: rest => Clashes name state call ∨ Clashing name (after call.perform state) rest

theorem Plain.performAll (plain : state.Plain) {calls : List Assignment}
    (basic : ∀ call ∈ calls, call.isBasic = true) : (State.performAll calls state).Plain := by
  induction calls generalizing state with
  | nil => exact plain
  | cons call rest inductionHypothesis =>
    have next := plain.perform (basic call List.mem_cons_self)
    exact inductionHypothesis next fun other member => basic other (List.mem_cons_of_mem _ member)

theorem Plain.regular_performAll (plain : state.Plain) (regular : state.Regular name)
    {calls : List Assignment} (basic : ∀ call ∈ calls, call.isBasic = true)
    (apart : ∀ call ∈ calls, Apart name call.name) :
    (State.performAll calls state).Regular name := by
  induction calls generalizing state with
  | nil => exact regular
  | cons call rest inductionHypothesis =>
    have now := basic call List.mem_cons_self
    have next := (plain.edits_perform now).regular_of_apart (apart call List.mem_cons_self) regular
    exact inductionHypothesis (plain.perform now) next
      (fun other member => basic other (List.mem_cons_of_mem _ member))
      (fun other member => apart other (List.mem_cons_of_mem _ member))

/-- The two values are the same after each call exactly if no call clashes. -/
theorem coincides_performAll_iff (plain : state.Plain) (regular : state.Regular name)
    (ordinary : isOrdinary name = true) (start : state.Coincides name) {calls : List Assignment}
    (basic : ∀ call ∈ calls, call.isBasic = true)
    (apart : ∀ call ∈ calls, Apart name call.name) :
    (∀ front, front <+: calls → (State.performAll front state).Coincides name) ↔
      ¬ Clashing name state calls := by
  induction calls generalizing state with
  | nil => simpa [Clashing, State.performAll] using start
  | cons call rest inductionHypothesis =>
    have now := basic call List.mem_cons_self
    have away := apart call List.mem_cons_self
    have step := coincides_perform_iff plain regular ordinary start now away
    have later : (after call.perform state).Coincides name →
        ((∀ front, front <+: rest →
          (State.performAll front (after call.perform state)).Coincides name) ↔
            ¬ Clashing name (after call.perform state) rest) := fun coincides =>
      inductionHypothesis (plain.perform now)
        ((plain.edits_perform now).regular_of_apart away regular) coincides
        (fun other member => basic other (List.mem_cons_of_mem _ member))
        (fun other member => apart other (List.mem_cons_of_mem _ member))
    rw [Clashing, not_or, ← step]
    constructor
    · intro each
      have first := each [call] (by simp)
      exact ⟨first, (later first).mp fun front shorter =>
        each (call :: front) (by simpa using shorter)⟩
    · rintro ⟨first, quiet⟩ front shorter
      rcases List.prefix_cons_iff.mp shorter with rfl | ⟨tail, rfl, further⟩
      · exact start
      · exact (later first).mpr quiet tail further

end Runs

/-- After any calls from an empty store, a scalar reads as the element at zero exactly if the two
keys hold no different values, and if the variable has a value, is declared as an array, or has no
element at an index that is too long. As long as the names in the calls are apart from that of the
variable or are that name, the readings agree after each call exactly if no call clashes. -/
theorem reads_as_element_zero_iff (start : State) (empty : start.store = {})
    (unregistered : start.associative = ∅) (calls : List Assignment)
    (basic : ∀ call ∈ calls, call.isBasic = true) (name : String)
    (identifier : Text.isIdentifier name.toList = true) (ordinary : isOrdinary name = true) :
    ((performAll calls start).value name =
        (performAll calls start).value (Reference.text ⟨name, "0"⟩) ↔
      (performAll calls start).Coincides name ∧
        ((performAll calls start).store.get? name = none →
          (performAll calls start).isDeclaredArray name = true ∨
            (performAll calls start).Readable name)) ∧
    ((∀ call ∈ calls, Apart name call.name) →
      ((∀ front, front <+: calls → (performAll front start).value name =
          (performAll front start).value (Reference.text ⟨name, "0"⟩)) ↔
        ¬ Clashing name start calls)) := by
  have plain := plain_of_empty empty unregistered
  have regular := regular_of_empty empty unregistered name
  have coincides : start.Coincides name := coincides_of_get?_eq_none (by rw [empty]; rfl)
  have reads : ∀ front, front <+: calls → ((performAll front start).value name =
      (performAll front start).value (Reference.text ⟨name, "0"⟩) ↔
        (performAll front start).Coincides name ∧
          ((performAll front start).store.get? name = none →
            (performAll front start).isDeclaredArray name = true ∨
              (performAll front start).Readable name)) := by
    intro front shorter
    have reached : (performAll front start).Plain :=
      plain.performAll fun call member => basic call (shorter.subset member)
    rw [value_eq_value_zero_iff identifier (reached.store.direct name) (reached.indexed name)
      ordinary, isArray_known_iff reached]
  refine ⟨reads calls List.prefix_rfl, fun apart => ?_⟩
  rw [← coincides_performAll_iff plain regular ordinary coincides basic apart]
  refine forall₂_congr fun front shorter => ?_
  rw [reads front shorter]
  have still := plain.regular_performAll regular
    (fun call member => basic call (shorter.subset member))
    (fun call member => apart call (shorter.subset member))
  exact and_iff_left fun _ => .inr still.readable

/-- A scalar that becomes an array, beside another array. -/
def promotingCalls : List Assignment :=
  [.scalar "a" "x", .element "a" "1" "y", .array "b" ["z"]]

theorem promotingCalls_read_as_zero :
    (∀ call ∈ promotingCalls, call.isBasic = true) ∧
      (∀ call ∈ promotingCalls, Apart "a" call.name) ∧ ¬ Clashing "a" {} promotingCalls ∧
      ∀ front, front <+: promotingCalls → (performAll front {}).value "a" =
        (performAll front {}).value (Reference.text ⟨"a", "0"⟩) := by
  have basic : ∀ call ∈ promotingCalls, call.isBasic = true := by decide
  have apart : ∀ call ∈ promotingCalls, Apart "a" call.name := by
    have other : Apart "a" "b" := apart_of_heads rfl rfl (by decide)
    simp [promotingCalls, Assignment.name, Apart.refl, other]
  have quiet : ¬ Clashing "a" {} promotingCalls := by
    rintro (⟨-, element, found, -⟩ | ⟨-, denoted, -⟩ | clash | never)
    · have none : (State.store {}).get? (elementKey "a" "0") = none := rfl
      rw [none] at found
      contradiction
    · exact absurd (congrArg Except.toOption denoted) (by decide +kernel)
    · exact clash
    · exact never
  have law := reads_as_element_zero_iff {} rfl rfl promotingCalls basic "a" (by decide) (by decide)
  exact ⟨basic, apart, quiet, (law.2 apart).mpr quiet⟩

/-- A scalar that is assigned to an array leaves the element at zero as it was. -/
theorem scalar_beside_element_zero :
    (performAll [.array "a" ["x"], .scalar "a" "y"] {}).value "a" ≠
      (performAll [.array "a" ["x"], .scalar "a" "y"] {}).value (Reference.text ⟨"a", "0"⟩) := by
  intro same
  have read := congrArg (fun read : Draw String => (execute read {}).1.toOption) same
  exact absurd read (by decide +kernel)

end Shell.State
