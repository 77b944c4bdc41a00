import Shell.Proofs.Variable.Edits

/-!
# What assigning to a variable does

An assignment changes a state in a few ways: it puts values under keys of the variable, drops
some, marks the variable as an array or as exported, declares it associative, or computes what a
reading takes. Each operation that assigns is a run of such changes, so what every change keeps is
kept by all of them.
-/

namespace Shell.State

open Running

/-- The names that a name leads to: itself, the array of a reference, and the end of a chain of
namerefs. -/
inductive LeadsTo (state : State) : String → String → Prop
  | self (name : String) : LeadsTo state name name
  | element {name target : String} {reference : Reference} :
      Reference.parse? name = some reference → LeadsTo state reference.array target →
      LeadsTo state name target
  | nameref {name middle target : String} :
      state.resolve? name = some middle → LeadsTo state middle target →
      LeadsTo state name target

theorem LeadsTo.resolved {state : State} {name target : String}
    (leads : LeadsTo state (state.resolved name) target) : LeadsTo state name target := by
  unfold State.resolved at leads
  split at leads
  · cases found : state.resolve? name with
    | none =>
      rw [found] at leads
      exact leads
    | some middle =>
      rw [found] at leads
      exact .nameref found leads
  · exact leads

/-- A plain name that is no nameref leads nowhere else. -/
theorem LeadsTo.eq_self {state : State} {name target : String} (leads : LeadsTo state name target)
    (plain : Reference.parse? name = none) (direct : state.store.isNameref name = false) :
    target = name := by
  induction leads with
  | self => rfl
  | element parsed _ _ =>
    rw [plain] at parsed
    contradiction
  | nameref found _ inductionHypothesis =>
    rw [resolve?_of_not_nameref direct] at found
    cases found
    exact inductionHypothesis plain direct

theorem after_changeStore (change : Store → Store) (state : State) :
    after (changeStore change) state = { state with store := change state.store } := rfl

theorem execute_changeStore (change : Store → Store) (state : State) :
    execute (changeStore change) state = (.ok (), { state with store := change state.store }) := rfl

theorem after_checkWritable (name : String) (state : State) :
    after (checkWritable name) state = state := by
  unfold checkWritable
  rw [after_get_bind]
  split <;> rfl

theorem execute_checkWritable {name : String} {first second : State} {value : Unit}
    (allowed : execute (checkWritable name) first = (.ok value, second)) : second = first := by
  rw [← after_eq_of_execute allowed, after_checkWritable]

theorem execute_checkWritable_of_readonly {name : String} {state : State}
    (readonly : state.store.isReadonly name = true) :
    execute (checkWritable name) state = (.error (.readonly name), state) := by
  unfold checkWritable
  rw [execute_get_bind, readonly]
  rfl

theorem execute_checkWritable_of_not {name : String} {state : State}
    (writable : state.store.isReadonly name = false) :
    execute (checkWritable name) state = (.ok (), state) := by
  unfold checkWritable
  rw [execute_get_bind, writable]
  rfl

theorem isReadonly_of_execute {name : String} {state last : State} {value : Unit}
    (allowed : execute (checkWritable name) state = (.ok value, last)) :
    state.store.isReadonly name = false := by
  by_contra readonly
  rw [execute_checkWritable_of_readonly (Bool.not_eq_false _ ▸ readonly)] at allowed
  exact nomatch (Prod.mk.inj allowed).1

/-- What begins with the check does nothing if the variable is readonly. -/
theorem after_checkWritable_bind_of_readonly {α : Type} {name : String} {state : State}
    (readonly : state.store.isReadonly name = true) (next : Unit → Write α) :
    after (checkWritable name >>= next) state = state :=
  after_eq_of_execute (execute_bind_of_error (execute_checkWritable_of_readonly readonly))

theorem execute_reading_eq {α : Type} (read : State → Draw α) (state : State) :
    execute (reading read) state =
      (((read state).run state.queries).1,
        { state with queries := ((read state).run state.queries).2 }) := by
  unfold reading
  rw [execute_get_bind]
  exact execute_ofExcept _ _

theorem execute_reading_of {α : Type} (read : State → Draw α) {state : State}
    {result : Except Fault α}
    {queries : Queries} (drawn : execute (read state) state.queries = (result, queries)) :
    execute (reading read) state = (result, { state with queries := queries }) := by
  change (read state).run state.queries = _ at drawn
  rw [execute_reading_eq, drawn]

/-- Reading asks the sources and changes nothing else. -/
theorem execute_reading {α : Type} (read : State → Draw α) (state : State) :
    ∃ result queries, execute (reading read) state = (result, { state with queries := queries }) :=
  ⟨_, _, execute_reading_eq read state⟩

/-- A key under which a variable may get a value: its name, or that of one of its elements. -/
inductive Stores (state : State) (name : String) : String → Prop
  | self : Stores state name name
  | index {n : Nat} : n < Text.numberLimit → Stores state name (elementKey name (toString n))
  | key (text : String) : state.isAssociative name = true → Stores state name (elementKey name text)

/-- What assigning to a variable does to a state, one change after the other: values are put under
keys of one sort, and only some assignments declare the variable an associative array. -/
inductive Touches (name : String) (puts : String → Prop) (declares : Prop) : State → State → Prop
  | refl (state : State) : Touches name puts declares state state
  | trans {first second third : State} : Touches name puts declares first second →
      Touches name puts declares second third → Touches name puts declares first third
  | put (state : State) {key : String} (value : String) : state.Stores name key → puts key →
      Touches name puts declares state { state with store := state.store.put key value }
  | drop (state : State) {key : String} : Owns name key →
      Touches name puts declares state { state with store := state.store.drop key }
  | mark (state : State) {letter : String} :
      letter = Attribute.indexed ∨ letter = Attribute.exported →
        Touches name puts declares state
          { state with store := state.store.addAttribute name letter }
  | declare (state : State) : declares →
      Touches name puts declares state (after (declareAssociative name) state)
  | compute (state : State) (queries : Queries) {base : Option Instant} :
      (name ≠ "SECONDS" → base = state.secondsBase) →
        Touches name puts declares state { state with queries := queries, secondsBase := base }

namespace Touches

variable {name : String} {puts : String → Prop} {declares : Prop} {first second state : State}

/-- Two actions in a row that each touch a variable touch it together. -/
theorem bind {α β : Type} {action : Write α} {next : α → Write β}
    (touches : Touches name puts declares state (after action state))
    (further : ∀ value middle, execute action state = (.ok value, middle) →
      Touches name puts declares middle (after (next value) middle)) :
    Touches name puts declares state (after (action >>= next) state) :=
  after_bind (Touches name puts declares) trans touches further

theorem ofExcept {α : Type} (result : Except Fault α) (state : State) :
    Touches name puts declares state (after (MonadExcept.ofExcept result : Write α) state) := by
  rw [after_ofExcept]
  exact refl state

theorem checkWritable (other : String) (state : State) :
    Touches name puts declares state (after (checkWritable other) state) := by
  rw [after_checkWritable]
  exact refl state

theorem reading {α : Type} (read : State → Draw α) (state : State) :
    Touches name puts declares state (after (reading read) state) := by
  rw [after, execute_reading_eq]
  exact compute state _ fun _ => rfl

/-- A variable that is touched is edited. -/
theorem edits (touches : Touches name puts declares first second) : Edits name first second := by
  induction touches with
  | refl state => exact Edits.refl name state
  | trans _ _ before next => exact before.trans next
  | put state value stores _ =>
    cases stores with
    | self => exact Edits.put_self state name value
    | index short => exact Edits.put_index state name value short
    | key text associative => exact Edits.put_element associative text value
  | drop state owned => exact Edits.drop state owned
  | mark state harmless =>
    refine Edits.addAttribute state name ?_
    rcases harmless with rfl | rfl <;> decide
  | declare state => exact Edits.declare state name
  | compute state queries timed => exact .of_eq rfl rfl rfl timed

/-- Without a declaration no variable becomes or stops being associative. -/
theorem associative (touches : Touches name puts False first second) :
    second.associative = first.associative := by
  induction touches with
  | trans _ _ before next => exact next.trans before
  | declare state never => exact never.elim
  | _ => rfl

end Touches

/-- The store once a scalar is assigned. -/
def assigned (state : State) (name value : String) : Store :=
  if state.options.allexport then (state.store.put name value).addAttribute name Attribute.exported
  else state.store.put name value

theorem get?_assigned (state : State) (name value key : String) :
    (state.assigned name value).get? key =
      if name = key then some value else state.store.get? key := by
  unfold assigned
  split
  · rw [Store.get?_addAttribute, Store.get?_put]
  · rw [Store.get?_put]

theorem hasAttribute_assigned (state : State) (name value other : String) {letter : String}
    (different : Attribute.exported ≠ letter) :
    (state.assigned name value).hasAttribute other letter =
      state.store.hasAttribute other letter := by
  unfold assigned
  split
  · rw [Store.hasAttribute_addAttribute, beq_false_of_ne different, Bool.and_false, Bool.false_or]
    rfl
  · rfl

/-- All that an assignment can do: it fails and changes nothing, having asked for the time if that
is what it fails on, or it changes the store, for two names also what the shell computes their
values from. -/
theorem after_assign_cases (name value : String) (state : State) :
    (state.store.isReadonly name = true ∧ after (assign name value) state = state) ∨
    (name = "SECONDS" ∧
      after (assign name value) state = { state with queries := .time :: state.queries }) ∨
    ∃ queries base, (name ≠ "SECONDS" → base = state.secondsBase) ∧
      after (assign name value) state =
        { state with
          queries := queries
          secondsBase := base
          store := state.assigned name value } := by
  -- What remains to be done once the special variables are dealt with.
  have stored : ∀ middle : State, after (do
      changeStore (·.put name value)
      if (← get).options.allexport then
        changeStore (·.addAttribute name Attribute.exported)) middle =
          { middle with store := middle.assigned name value } := by
    intro middle
    unfold assigned
    rw [after_bind_of_ok (execute_changeStore _ middle), after_get_bind]
    split
    · rfl
    · rfl
  unfold assign
  cases readonly : state.store.isReadonly name with
  | true => exact .inl ⟨rfl, after_checkWritable_bind_of_readonly readonly _⟩
  | false =>
    rw [after_bind_of_ok (execute_checkWritable_of_not readonly)]
    split
    · rw [after, execute_modify_bind, ← after]
      exact .inr (.inr ⟨_, _, fun _ => rfl, stored _⟩)
    · split
      · rename_i seconds
        let asked : State := { state with queries := .time :: state.queries }
        have timed : execute (reading (·.sources.drawTime)) state =
            (.ok (state.sources.time state.queries), asked) := rfl
        rw [after_bind_of_ok timed]
        rcases (state.sources.time state.queries).since (.whole (Text.intValue value.toList)) with
          fault | base
        · have failed := execute_ofExcept (Except.error fault : Except Fault Instant) asked
          exact .inr (.inl ⟨seconds, by rw [after, execute_bind_of_error failed]⟩)
        · have computed := execute_ofExcept (Except.ok base : Except Fault Instant) asked
          rw [after_bind_of_ok computed, after, execute_modify_bind, ← after]
          exact .inr (.inr ⟨_, _, fun other => absurd seconds other, stored _⟩)
      · exact .inr (.inr ⟨_, _, fun _ => rfl, stored state⟩)

theorem indexKey_eq_ok {array key : String} {index : Nat}
    (written : indexKey array index = .ok key) :
    index < Text.numberLimit ∧ key = elementKey array (toString index) := by
  unfold indexKey Text.decimal? at written
  split at written
  · rename_i digits found
    split at found
    · rename_i short
      cases found
      cases written
      rw [Int.natAbs_natCast] at short
      exact ⟨short, rfl⟩
    · contradiction
  · contradiction

/-- Put a value at an index of a name that is known to be that of an array. -/
def storeAt (array : String) (index : Nat) (value : String) : Write Unit := do
  let key ← MonadExcept.ofExcept (indexKey array index)
  changeStore (·.put key value)
  changeStore (·.addAttribute array Attribute.indexed)

/-- The state in which a scalar is the element at zero of an array. -/
def promote (array scalar : String) (state : State) : State :=
  { state with store := (state.store.drop array).put (elementKey array "0") scalar }

theorem get?_promote (array scalar : String) (state : State) :
    (promote array scalar state).store.get? array = none := by
  simp [promote, elementKey_ne_self]

/-- What putting an element does first depends on the scalar, and on whether the name is already
that of an array. -/
theorem after_putElement (array : String) (index : Nat) (value : String) (state : State) :
    after (putElement array index value) state =
      match state.store.get? array with
      | none => after (storeAt array index value) state
      | some scalar =>
        match state.isArray array with
        | .error _ => state
        | .ok true => after (storeAt array index value) state
        | .ok false => after (storeAt array index value) (promote array scalar state) := by
  unfold putElement
  rw [after_get_bind]
  cases state.store.get? array with
  | none => rfl
  | some scalar =>
    rcases state.isArray array with fault | (_ | _) <;> rfl

section Touching

variable {name array : String} {puts : String → Prop} {declares : Prop} {state : State}

theorem touches_assign (isPut : puts name) (value : String) (state : State) :
    Touches name puts declares state (after (assign name value) state) := by
  rcases after_assign_cases name value state with
    ⟨-, same⟩ | ⟨-, same⟩ | ⟨queries, base, timed, same⟩
  · rw [same]
    exact .refl state
  · rw [same]
    exact Touches.compute state _ fun _ => rfl
  · rw [same]
    refine (Touches.compute state queries timed).trans ?_
    unfold assigned
    split
    · exact (Touches.put _ value .self isPut).trans (.mark _ (.inr rfl))
    · exact .put _ value .self isPut

theorem touches_dropKey {key : String} (owned : Owns name key) (state : State) :
    Touches name puts declares state (after (dropKey key) state) := by
  unfold dropKey
  rw [after_get_bind]
  split
  · exact .drop state owned
  · exact .refl state

theorem touches_clearArray (name : String) (state : State) :
    Touches name puts declares state (after (clearArray name) state) := by
  unfold clearArray
  rw [after_get_bind]
  apply Touches.bind (.ofExcept _ state)
  intro keys middle computed
  rw [execute_ofExcept] at computed
  obtain ⟨listing, rfl⟩ := Prod.mk.inj computed
  exact after_forM (Touches name puts declares) .refl .trans
    (fun key member => touches_dropKey (owns_of_mem_elementKeys listing member)) state

section Elements

variable (isPut : ∀ n < Text.numberLimit, puts (elementKey name (toString n)))

include isPut

/-- A value is put at an index, if that can be spelled, and what follows touches the variable. -/
theorem touches_putIndex {α : Type} {next : Unit → Write α} (index : Nat) (value : String)
    (state : State)
    (further : ∀ stored, Touches name puts declares stored (after (next ()) stored)) :
    Touches name puts declares state (after (do
      let key ← MonadExcept.ofExcept (indexKey name index)
      changeStore (·.put key value) >>= next) state) := by
  apply Touches.bind (.ofExcept _ state)
  intro key same computed
  rw [execute_ofExcept] at computed
  obtain ⟨short, rfl⟩ := indexKey_eq_ok (Prod.mk.inj computed).1
  apply Touches.bind (.put same value (.index short) (isPut index short))
  exact fun _ stored _ => further stored

theorem touches_storeAt (index : Nat) (value : String) (state : State) :
    Touches name puts declares state (after (storeAt name index value) state) :=
  touches_putIndex isPut index value state fun stored => .mark stored (.inl rfl)

theorem touches_putElement (index : Nat) (value : String) (state : State) :
    Touches name puts declares state (after (putElement name index value) state) := by
  rw [after_putElement]
  split
  · exact touches_storeAt isPut index value state
  · rename_i scalar _
    split
    · exact .refl state
    · exact touches_storeAt isPut index value state
    · -- The scalar is moved: it is dropped, and put back as the element at zero.
      have dropped : Touches name puts declares state
          { state with store := state.store.drop name } :=
        .drop state (owns_self name)
      have zero : ∀ state : State, state.Stores name (elementKey name "0") :=
        fun _ => .index (n := 0) Text.numberLimit_pos
      have promoted : Touches name puts declares state (promote name scalar state) :=
        dropped.trans (.put _ scalar (zero _) (isPut 0 Text.numberLimit_pos))
      exact promoted.trans (touches_storeAt isPut index value _)

theorem touches_putElements (index : Nat) (values : List String) (state : State) :
    Touches name puts declares state (after (putElements name index values) state) := by
  induction values generalizing index state with
  | nil => exact .refl state
  | cons value rest inductionHypothesis =>
    exact touches_putIndex isPut index value state (inductionHypothesis (index + 1))

end Elements

/-- An element is put under a key that is computed, or at an index. -/
theorem touches_setElement_of_resolve? (found : state.resolve? name = some array)
    (subscript value : String)
    (keyed : state.isAssociative array = true → ∀ text,
      (execute (Subscript.key state.value subscript) state.queries).1 = .ok text →
        puts (elementKey array text))
    (indexed : state.isAssociative array = false → ∀ n < Text.numberLimit,
      puts (elementKey array (toString n))) :
    Touches array puts declares state (after (setElement name subscript value) state) := by
  unfold setElement
  rw [after_get_bind, found]
  apply Touches.bind (.checkWritable array state)
  intro _ checked allowed
  obtain rfl := execute_checkWritable allowed
  rw [after_get_bind]
  cases associative : checked.isAssociative array with
  | true =>
    apply Touches.bind (.reading _ checked)
    intro key drawn read
    rw [execute_reading_eq] at read
    obtain ⟨computed, rfl⟩ := Prod.mk.inj read
    exact .put _ value (.key key associative) (keyed associative key computed)
  | false =>
    apply Touches.bind (.reading _ checked)
    intro index drawn _
    split
    · exact .refl drawn
    · exact touches_putElement (indexed associative) _ value drawn

theorem touches_setArray_of_resolve? (found : state.resolve? name = some array)
    (values : List String)
    (isPut : ∀ n < Text.numberLimit, puts (elementKey array (toString n))) :
    Touches array puts declares state (after (setArray name values) state) := by
  unfold setArray
  rw [after_get_bind, found]
  apply Touches.bind (.checkWritable array state)
  intro _ writable _
  apply Touches.bind (touches_clearArray array writable)
  intro _ cleared _
  apply Touches.bind (.drop cleared (owns_self array))
  intro _ dropped _
  apply Touches.bind (touches_putElements isPut 0 values dropped)
  exact fun _ filled _ => .mark filled (.inl rfl)

theorem touches_putItems (items : List (String × String))
    (associative : state.isAssociative array = true)
    (isPut : ∀ item ∈ items, puts (elementKey array item.1)) :
    Touches array puts declares state { state with
      store := items.foldl (fun store (key, value) => store.put (elementKey array key) value)
        state.store } := by
  induction items generalizing state with
  | nil => exact .refl state
  | cons item rest inductionHypothesis =>
    obtain ⟨first, others⟩ := List.forall_mem_cons.mp isPut
    have still : State.isAssociative
        { state with store := state.store.put (elementKey array item.1) item.2 } array = true :=
      associative
    exact (Touches.put state item.2 (.key item.1 associative) first).trans
      (inductionHypothesis still others)

/-- Items are put into an array that is declared associative before. -/
theorem touches_setAssociativeArray_of_resolve? (found : state.resolve? name = some array)
    (items : List (String × String)) (isPut : ∀ item ∈ items, puts (elementKey array item.1)) :
    Touches array puts True state (after (setAssociativeArray name items) state) := by
  unfold setAssociativeArray
  rw [after_get_bind, found]
  apply Touches.bind (.checkWritable array state)
  intro _ writable _
  apply Touches.bind (.declare writable trivial)
  intro _ declared ran
  apply Touches.bind (touches_clearArray array declared)
  intro _ cleared cleared_ran
  refine touches_putItems items ?_ isPut
  have kept : cleared.associative = declared.associative := by
    rw [← after_eq_of_execute cleared_ran]
    have clears : Touches array (fun _ => True) False declared _ :=
      touches_clearArray array declared
    exact clears.associative
  rw [isAssociative, kept, ← after_eq_of_execute ran]
  exact Std.ExtTreeSet.contains_insert_self

/-- Unsetting one element drops it from its array. -/
theorem touches_unsetElement {unsetWhole : String → Write Unit} {reference : Reference}
    (single : isWhole reference.subscript = false) (state : State) :
    Touches (state.resolved reference.array) puts declares state
      (after (unsetElement unsetWhole reference) state) := by
  unfold unsetElement
  rw [after_get_bind]
  apply Touches.bind (.checkWritable _ state)
  intro _ checked allowed
  obtain rfl := execute_checkWritable allowed
  rw [if_neg (by simp [single]), after_get_bind]
  split
  · apply Touches.bind (.reading _ checked)
    exact fun key drawn _ => .drop drawn (owns_elementKey _ key)
  · apply Touches.bind (.reading _ checked)
    intro index drawn _
    split
    · exact .refl drawn
    · apply Touches.bind (.ofExcept _ drawn)
      intro key same computed
      rw [execute_ofExcept] at computed
      obtain ⟨-, rfl⟩ := indexKey_eq_ok (Prod.mk.inj computed).1
      exact .drop same (owns_elementKey _ _)

end Touching

/-- A variable that the name leads to is assigned to, in whatever way. -/
def Assigns (name : String) (first second : State) : Prop :=
  ∃ target, LeadsTo first name target ∧ Touches target (fun _ => True) True first second

theorem assigns_setElement (name subscript value : String) (state : State) :
    Assigns name state (after (setElement name subscript value) state) := by
  cases found : state.resolve? name with
  | none =>
    rw [setElement, after_get_bind, found]
    exact ⟨name, .self name, .refl state⟩
  | some array =>
    exact ⟨array, .nameref found (.self array), touches_setElement_of_resolve? found subscript value
      (fun _ _ _ => trivial) fun _ _ _ => trivial⟩

theorem assigns_setArray (name : String) (values : List String) (state : State) :
    Assigns name state (after (setArray name values) state) := by
  cases found : state.resolve? name with
  | none =>
    rw [setArray, after_get_bind, found]
    exact ⟨name, .self name, .refl state⟩
  | some array =>
    exact ⟨array, .nameref found (.self array), touches_setArray_of_resolve? found values
      fun _ _ => trivial⟩

theorem assigns_setAssociativeArray (name : String) (items : List (String × String))
    (state : State) :
    Assigns name state (after (setAssociativeArray name items) state) := by
  cases found : state.resolve? name with
  | none =>
    rw [setAssociativeArray, after_get_bind, found]
    exact ⟨name, .self name, .refl state⟩
  | some array =>
    exact ⟨array, .nameref found (.self array), touches_setAssociativeArray_of_resolve? found items
      fun _ _ => trivial⟩

theorem assigns_setVariable (name value : String) (state : State) :
    Assigns name state (after (setVariable name value) state) := by
  unfold setVariable
  cases parsed : Reference.parse? name with
  | some reference =>
    obtain ⟨target, leads, touches⟩ :=
      assigns_setElement reference.array reference.subscript value state
    exact ⟨target, .element parsed leads, touches⟩
  | none =>
    simp only [after_get_bind]
    cases found : state.resolve? name with
    | none => exact ⟨name, .self name, .refl state⟩
    | some middle =>
      cases parsedMiddle : Reference.parse? middle with
      | some reference =>
        obtain ⟨target, leads, touches⟩ :=
          assigns_setElement reference.array reference.subscript value state
        refine ⟨target, .nameref found (.element parsedMiddle leads), ?_⟩
        simpa only [parsedMiddle] using touches
      | none =>
        refine ⟨middle, .nameref found (.self middle), ?_⟩
        simpa only [parsedMiddle] using touches_assign trivial value state

end Shell.State
