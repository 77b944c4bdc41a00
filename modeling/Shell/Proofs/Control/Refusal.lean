import Shell.Control.Script
import Shell.Proofs.Frame.Bookkeeping
import Shell.Proofs.Frame.Locals
import Shell.Proofs.Variable.Reading
import Shell.Variable.Option

/-!
# Requests that fail

What a request to a shell leaves behind if it fails. A request looks at the state
first, and the sources may be asked for that; it writes only when nothing can go wrong
any more. Two requests begin to write too early: a scalar is turned into an array
before the index of the new element is spelled, and a variable is hidden before its
elements are listed. They, and no others, can be interrupted halfway.
-/

namespace Shell

open Running

namespace State

variable {α β : Type}

/-- The second state is the first one, but the sources may have been asked. -/
def SameButQueries (first second : State) : Prop :=
  ∃ queries, second = { first with queries := queries }

theorem SameButQueries.refl (state : State) : state.SameButQueries state := ⟨state.queries, rfl⟩

theorem SameButQueries.trans {first second third : State} (before : first.SameButQueries second)
    (next : second.SameButQueries third) : first.SameButQueries third := by
  obtain ⟨_, rfl⟩ := before
  obtain ⟨queries, rfl⟩ := next
  exact ⟨queries, rfl⟩

/-- The action changes nothing, however it ends, but may ask the sources. -/
def Looks (action : Write α) : Prop := ∀ state : State, state.SameButQueries (after action state)

/-- The action never fails. -/
def Succeeds (action : Write α) : Prop :=
  ∀ state, ∃ value last, execute action state = (.ok value, last)

/-- If the action fails, then it has changed nothing. -/
def Refuses (action : Write α) (state : State) : Prop :=
  ∀ fault last, execute action state = (.error fault, last) → state.SameButQueries last

theorem Looks.refuses {action : Write α} (looks : Looks action) (state : State) :
    Refuses action state := by
  intro fault last failed
  rw [← after_eq_of_execute failed]
  exact looks state

theorem Succeeds.not_error {action : Write α} (succeeds : Succeeds action) {state last : State}
    {fault : Fault} : execute action state ≠ (.error fault, last) := by
  obtain ⟨value, other, succeeded⟩ := succeeds state
  rw [succeeded]
  exact fun failed => nomatch (Prod.mk.inj failed).1

theorem Succeeds.refuses {action : Write α} (succeeds : Succeeds action) (state : State) :
    Refuses action state := fun _ _ failed => absurd failed succeeds.not_error

/-- What comes after a look refuses from where the look led. -/
theorem Looks.bind {action : Write α} {next : α → Write β} {state : State} (looks : Looks action)
    (second : ∀ value queries,
      execute action state = (.ok value, { state with queries := queries }) →
      Refuses (next value) { state with queries := queries }) :
    Refuses (action >>= next) state := by
  intro fault last failed
  obtain ⟨queries, same⟩ := looks state
  rw [execute_bind] at failed
  cases ran : execute action state with
  | mk result middle =>
    rw [after_eq_of_execute ran] at same
    subst same
    rw [ran] at failed
    cases result with
    | error stop =>
      cases failed
      exact ⟨queries, rfl⟩
    | ok value =>
      exact SameButQueries.trans ⟨queries, rfl⟩ (second value queries ran fault last failed)

theorem Succeeds.bind {action : Write α} {next : α → Write β} (first : Succeeds action)
    (second : ∀ value, Succeeds (next value)) : Succeeds (action >>= next) := by
  intro state
  obtain ⟨value, middle, ran⟩ := first state
  rw [execute_bind_of_ok ran]
  exact second value middle

theorem looks_checkWritable (name : String) : Looks (checkWritable name) := by
  intro state
  rw [after_checkWritable]
  exact .refl state

theorem looks_ofExcept (result : Except Fault α) :
    Looks (MonadExcept.ofExcept result : Write α) := by
  intro state
  rw [after_ofExcept]
  exact .refl state

theorem looks_reading (read : State → Draw α) : Looks (reading read) := by
  intro state
  obtain ⟨result, queries, ran⟩ := execute_reading read state
  exact ⟨queries, after_eq_of_execute ran⟩

theorem succeeds_changeStore (change : Store → Store) : Succeeds (changeStore change) :=
  fun _ => ⟨_, _, rfl⟩

theorem succeeds_modify (change : State → State) :
    Succeeds (modify change : Write Unit) := fun _ => ⟨_, _, rfl⟩

theorem refuses_get_bind {next : State → Write α} {state : State}
    (rest : Refuses (next state) state) :
    Refuses (get >>= next) state := rest

theorem refuses_assign (name value : String) (state : State) :
    Refuses (assign name value) state := by
  -- What remains to be done once the special variables are dealt with.
  have rest : Succeeds (do
      changeStore (·.put name value)
      if (← get).options.allexport then
        changeStore (·.addAttribute name Attribute.exported)) := by
    refine (succeeds_changeStore _).bind fun _ stored => ?_
    rw [execute_get_bind]
    split
    · exact succeeds_changeStore _ stored
    · exact ⟨_, _, rfl⟩
  refine (looks_checkWritable name).bind fun _ queries _ => ?_
  split
  · exact ((succeeds_modify _).bind fun _ => rest).refuses _
  · split
    · refine (looks_reading _).bind fun now _ _ => ?_
      refine (looks_ofExcept _).bind fun base _ _ => ?_
      exact Succeeds.refuses (Succeeds.bind (fun _ => ⟨_, _, rfl⟩) fun _ => rest) _
    · exact rest.refuses _

theorem not_sameButQueries_promote {array scalar : String} {state : State}
    (present : (state.store.get? array).isSome = true) (queries : Queries) :
    ¬ state.SameButQueries (promote array scalar { state with queries := queries }) := by
  rintro ⟨other, same⟩
  have gone := get?_promote array scalar { state with queries := queries }
  rw [same] at gone
  rw [gone] at present
  contradiction

theorem indexKey_of_le {array : String} {index : Nat} (long : Text.numberLimit ≤ index) :
    indexKey array index = .error .numberTooLong := by
  have unspelled : Text.decimal? index = none := by simp [Text.decimal?, long]
  rw [indexKey, unspelled]

theorem indexKey_of_lt {array : String} {index : Nat} (short : index < Text.numberLimit) :
    indexKey array index = .ok (elementKey array (toString index)) := by
  have spelled : Text.decimal? index = some (toString index) := by
    simp only [Text.decimal?, Int.natAbs_natCast, short, if_true]
    rfl
  rw [indexKey, spelled]

/-- The new element of an array has an index that cannot be spelled, and the array is a scalar so
far. -/
def Overflows (state : State) (array : String) (index : Nat) : Prop :=
  Text.numberLimit ≤ index ∧ (state.store.get? array).isSome = true ∧
    state.isArray array = .ok false

theorem execute_putElement_of_overflows {array : String} {index : Nat} {state : State}
    (value : String) (overflows : state.Overflows array index) :
    ∃ scalar, execute (putElement array index value) state =
      (.error .numberTooLong, promote array scalar state) := by
  obtain ⟨long, present, scalarOnly⟩ := overflows
  obtain ⟨scalar, found⟩ := Option.isSome_iff_exists.mp present
  refine ⟨scalar, ?_⟩
  unfold putElement
  rw [execute_get_bind, found, scalarOnly, indexKey_of_le long]
  rfl

theorem refuses_putElement {array : String} {index : Nat} {state : State} (value : String)
    (fits : ¬ state.Overflows array index) : Refuses (putElement array index value) state := by
  have store : ∀ key, Succeeds (do
      changeStore (·.put key value)
      changeStore (·.addAttribute array Attribute.indexed)) := fun key =>
    (succeeds_changeStore _).bind fun _ => succeeds_changeStore _
  unfold putElement
  refine refuses_get_bind ?_
  split
  · rename_i scalar found
    refine (looks_ofExcept _).bind fun isArray queries listed => ?_
    rw [execute_ofExcept] at listed
    split
    · rename_i scalarOnly
      have short : index < Text.numberLimit := by
        by_contra long
        refine fits ⟨Nat.le_of_not_lt long, by rw [found]; rfl, ?_⟩
        rw [(Prod.mk.inj listed).1]
        simpa using scalarOnly
      rw [indexKey_of_lt short]
      exact Succeeds.refuses ((succeeds_changeStore _).bind fun _ =>
        Succeeds.bind (fun _ => ⟨_, _, execute_ofExcept _ _⟩) fun key => store key) _
    · exact (looks_ofExcept _).bind fun key _ _ => (store key).refuses _
  · exact (looks_ofExcept _).bind fun key _ _ => (store key).refuses _

/-- The subscript denotes an index of the array. -/
def Denotes (state : State) (array subscript : String) (index : Nat) : Prop :=
  ((state.subscriptIndex state.value array subscript).run state.queries).1 = .ok (some index)

/-- An assignment to an element of a name turns a scalar into an array, and then cannot spell the
index. -/
def Promotes (state : State) (name subscript : String) : Prop :=
  ∃ array index, state.resolve? name = some array ∧ state.store.isReadonly array = false ∧
    state.isAssociative array = false ∧ state.Denotes array subscript index ∧
    state.Overflows array index

theorem execute_setElement_of_overflows {name array subscript : String} {index : Nat}
    {state : State} (value : String) (found : state.resolve? name = some array)
    (writable : state.store.isReadonly array = false) (plain : state.isAssociative array = false)
    (denotes : state.Denotes array subscript index) (overflows : state.Overflows array index) :
    ∃ scalar queries, execute (setElement name subscript value) state =
      (.error .numberTooLong, promote array scalar { state with queries := queries }) := by
  let queries := ((state.subscriptIndex state.value array subscript).run state.queries).2
  have still : State.Overflows { state with queries := queries } array index := overflows
  obtain ⟨scalar, stopped⟩ := execute_putElement_of_overflows value still
  have drawn : execute (reading fun state => state.subscriptIndex state.value array subscript)
      state = (.ok (some index), { state with queries := queries }) := by
    rw [execute_reading_eq, denotes]
  refine ⟨scalar, queries, ?_⟩
  unfold setElement
  rw [execute_get_bind, found]
  refine (execute_bind_of_ok (execute_checkWritable_of_not writable)).trans ?_
  rw [execute_get_bind, if_neg (by simp [plain])]
  exact (execute_bind_of_ok drawn).trans stopped

theorem not_refuses_setElement {name subscript : String} {state : State} (value : String)
    (promotes : state.Promotes name subscript) :
    ¬ Refuses (setElement name subscript value) state := by
  obtain ⟨array, index, found, writable, plain, denotes, overflows⟩ := promotes
  obtain ⟨scalar, queries, stopped⟩ :=
    execute_setElement_of_overflows value found writable plain denotes overflows
  exact fun refuses => not_sameButQueries_promote overflows.2.1 queries (refuses _ _ stopped)

theorem refuses_setElement {name subscript : String} {state : State} (value : String)
    (clear : ¬ state.Promotes name subscript) :
    Refuses (setElement name subscript value) state := by
  unfold setElement
  refine refuses_get_bind ?_
  split
  · exact Succeeds.refuses (fun _ => ⟨_, _, rfl⟩) state
  · rename_i array found
    refine (looks_checkWritable array).bind fun _ same allowed => ?_
    have writable := isReadonly_of_execute allowed
    rw [execute_checkWritable allowed]
    refine refuses_get_bind ?_
    split
    · exact (looks_reading _).bind fun key _ _ => (succeeds_changeStore _).refuses _
    · rename_i plain
      refine (looks_reading _).bind fun index queries ran => ?_
      rw [execute_reading_eq] at ran
      split
      · exact (looks_ofExcept (.error _)).refuses _
      · rename_i index
        refine refuses_putElement value fun overflows => clear ?_
        exact ⟨array, index, found, writable, Bool.eq_false_iff.mpr plain, (Prod.mk.inj ran).1,
          overflows⟩

theorem refuses_setElement_iff (name subscript value : String) (state : State) :
    Refuses (setElement name subscript value) state ↔ ¬ state.Promotes name subscript :=
  ⟨fun refuses promotes => not_refuses_setElement value promotes refuses, refuses_setElement value⟩

/-- The element that a name stands for: one it refers to itself, or one that its namerefs lead
to. -/
def reference? (state : State) (name : String) : Option Reference :=
  (Reference.parse? name).or ((state.resolve? name).bind Reference.parse?)

/-- An assignment to a name is one to the element that it stands for, if there is one. -/
theorem execute_setVariable (name value : String) (state : State) :
    execute (setVariable name value) state =
      match state.reference? name with
      | some reference => execute (setElement reference.array reference.subscript value) state
      | none =>
        match state.resolve? name with
        | none => (.ok (), state)
        | some target => execute (assign target value) state := by
  unfold setVariable reference?
  cases parsed : Reference.parse? name with
  | some reference => rfl
  | none =>
    simp only [execute_get_bind, Option.none_or]
    cases found : state.resolve? name with
    | none => rfl
    | some target =>
      simp only [Option.bind_some]
      cases Reference.parse? target <;> rfl

theorem refuses_setVariable_iff (name value : String) (state : State) :
    Refuses (setVariable name value) state ↔
      ∀ reference, state.reference? name = some reference →
        ¬ state.Promotes reference.array reference.subscript := by
  unfold Refuses
  rw [execute_setVariable]
  cases found : state.reference? name with
  | some reference =>
    simp only [Option.some.injEq, forall_eq']
    exact refuses_setElement_iff _ _ value state
  | none =>
    simp only [reduceCtorEq, false_implies, implies_true, iff_true]
    split
    · exact fun _ _ failed => nomatch (Prod.mk.inj failed).1
    · exact refuses_assign _ value state

section Clearing

variable {array : String} {state : State}

/-- Clearing an array fails before anything is dropped, or not at all. -/
theorem execute_clearArray_cases (array : String) (single : state.SingleLine) :
    (∃ last, execute (clearArray array) state = (.ok (), last)) ∨
      ∃ fault, execute (clearArray array) state = (.error fault, state) := by
  by_cases readable : state.Readable array
  · obtain ⟨keys, cleared, -⟩ := execute_clearArray readable
    exact .inl ⟨_, cleared⟩
  · obtain ⟨fault, failed⟩ := elementKeys_of_not_readable (fun _ => single.suffix) readable
    refine .inr ⟨fault, ?_⟩
    unfold clearArray
    rw [execute_get_bind, failed]
    rfl

theorem refuses_clearArray_bind {next : Unit → Write α} (single : state.SingleLine)
    (rest : Succeeds (next ())) : Refuses (clearArray array >>= next) state := by
  intro fault last failed
  rcases execute_clearArray_cases array single with ⟨cleared, ran⟩ | ⟨_, ran⟩
  · rw [execute_bind_of_ok ran] at failed
    exact absurd failed rest.not_error
  · rw [execute_bind_of_error ran] at failed
    rw [← (Prod.mk.inj failed).2]
    exact .refl state

theorem succeeds_putElements (array : String) {index : Nat} {values : List String}
    (fits : index + values.length ≤ Text.numberLimit) :
    Succeeds (putElements array index values) := by
  induction values generalizing index with
  | nil => exact fun _ => ⟨_, _, rfl⟩
  | cons value rest inductionHypothesis =>
    rw [List.length_cons] at fits
    rw [putElements, indexKey_of_lt (by omega)]
    refine Succeeds.bind (fun _ => ⟨_, _, execute_ofExcept _ _⟩) fun key => ?_
    exact (succeeds_changeStore _).bind fun _ => inductionHypothesis (by omega)

theorem refuses_setArray (name : String) {values : List String} (single : state.SingleLine)
    (fits : values.length ≤ Text.numberLimit) : Refuses (setArray name values) state := by
  unfold setArray
  refine refuses_get_bind ?_
  split
  · exact Succeeds.refuses (fun _ => ⟨_, _, rfl⟩) state
  · rename_i array _
    refine (looks_checkWritable array).bind fun _ queries _ => ?_
    refine refuses_clearArray_bind single ?_
    refine (succeeds_changeStore _).bind fun _ => ?_
    exact (succeeds_putElements array (by omega)).bind fun _ => succeeds_changeStore _

theorem refuses_setAssociativeArray (name : String) (items : List (String × String))
    (state : State) : Refuses (setAssociativeArray name items) state := by
  unfold setAssociativeArray
  refine refuses_get_bind ?_
  split
  · exact Succeeds.refuses (fun _ => ⟨_, _, rfl⟩) state
  · rename_i array _
    refine (looks_checkWritable array).bind fun _ queries _ => ?_
    -- All keys of an associative array are listed, whatever they are.
    intro fault last failed
    obtain ⟨_, declared, registered⟩ : ∃ value declared,
        execute (declareAssociative array) { state with queries := queries } =
          (.ok value, declared) :=
      ⟨_, _, rfl⟩
    have associative : declared.isAssociative array = true := by
      rw [← after_eq_of_execute registered]
      exact Std.ExtTreeSet.contains_insert_self
    have readable : declared.Readable array := by
      intro plain
      rw [associative] at plain
      contradiction
    obtain ⟨keys, cleared, -⟩ := execute_clearArray readable
    rw [execute_bind_of_ok registered, execute_bind_of_ok cleared] at failed
    exact absurd failed (succeeds_changeStore _).not_error

theorem refuses_unsetName (name : String) (single : state.SingleLine) :
    Refuses (unsetName name) state := by
  refine (looks_checkWritable name).bind fun _ queries _ => ?_
  refine refuses_clearArray_bind single ?_
  exact (succeeds_modify _).bind fun _ => succeeds_modify _

theorem refuses_unsetElement {unsetWhole : String → Write Unit} (reference : Reference)
    (whole : ∀ array, Refuses (unsetWhole array) state) :
    Refuses (unsetElement unsetWhole reference) state := by
  unfold unsetElement
  refine refuses_get_bind ?_
  refine (looks_checkWritable _).bind fun _ _ allowed => ?_
  rw [execute_checkWritable allowed]
  split
  · exact whole _
  · refine refuses_get_bind ?_
    split
    · exact (looks_reading _).bind fun _ _ _ => (succeeds_changeStore _).refuses _
    · refine (looks_reading _).bind fun index _ _ => ?_
      split
      · exact (looks_ofExcept (.error _)).refuses _
      · exact (looks_ofExcept _).bind fun _ _ _ => (succeeds_changeStore _).refuses _

theorem refuses_unsetWithin (depth : Nat) (name : String) (single : state.SingleLine) :
    Refuses (unsetWithin depth name) state := by
  induction depth generalizing name with
  | zero => exact (looks_ofExcept (.error .nestingTooDeep)).refuses state
  | succ depth inductionHypothesis =>
    unfold unsetWithin
    split
    · exact refuses_unsetElement _ inductionHypothesis
    · refine refuses_get_bind ?_
      split
      · exact Succeeds.refuses (fun _ => ⟨_, _, rfl⟩) state
      · split
        · exact refuses_unsetElement _ inductionHypothesis
        · exact refuses_unsetName _ single

theorem refuses_unset (name : String) (single : state.SingleLine) :
    Refuses (unset name) state :=
  refuses_get_bind (refuses_unsetWithin _ name single)

theorem refuses_unsetNameref (name : String) (single : state.SingleLine) :
    Refuses (unsetNameref name) state := by
  unfold unsetNameref
  split
  · exact refuses_unsetElement _ fun array => refuses_unset array single
  · exact refuses_unsetName name single

end Clearing

section Declaring

variable {name : String} {state : State}

/-- A variable that a declaration hides, and whose elements it then cannot list. -/
structure HidesUnlisted (state : State) (name : String) : Prop where
  inCall : state.scopes.isEmpty = false
  identifier : Text.isName name.toList = true
  fresh : state.isLocal name = false
  unreadable : ¬ state.Readable name

theorem isLocal_hide (name : String) (inCall : state.scopes.isEmpty = false) :
    (hide name state).isLocal name = true := by
  cases scopes : state.scopes with
  | nil =>
    rw [scopes] at inCall
    contradiction
  | cons scope outer =>
    simp [isLocal, hide, saveValue, scopes]

theorem elementKeys_hide (state : State) (name array : String) :
    (hide name state).elementKeys array = state.elementKeys array := by
  have same : hide name state =
      { state with scopes := (hide name state).scopes, shadows := (hide name state).shadows } := by
    unfold hide saveValue
    split <;> rfl
  rw [same]
  rfl

theorem visible_hide (name : String) (state : State) :
    (hide name state).visible = state.visible := by
  unfold hide saveValue
  split <;> rfl

/-- A variable whose elements can be listed is saved, and everything reads as before. -/
theorem execute_startLocal_of_readable (inCall : state.scopes.isEmpty = false)
    (readable : state.Readable name) :
    ∃ middle, execute (startLocal name) state = (.ok (), middle) ∧
      middle.visible = state.visible := by
  obtain ⟨keys, listing, -, listed⟩ := elementKeys_of_readable readable
  obtain ⟨scope, outer, scopes⟩ : ∃ scope outer, (hide name state).scopes = scope :: outer := by
    cases scopes : state.scopes with
    | nil => simp [scopes] at inCall
    | cons scope outer => exact ⟨_, outer, by simp [hide, saveValue, scopes]; rfl⟩
  have present : ∀ key ∈ keys, (hide name state).store.has key = true := by
    intro key member
    rw [store_hide]
    exact ((listed key).mp member).1
  refine ⟨{ hide name state with scopes := saveAll (hide name state).store keys scope :: outer },
    ?_, visible_hide name state⟩
  unfold startLocal
  rw [execute_modify_bind, execute_get_bind, elementKeys_hide, listing]
  exact execute_saveElements scopes present

/-- A declaration comes to its end if it hides no variable that cannot be listed. -/
theorem execute_declareLocal_of_listed (value : Option String)
    (inCall : state.scopes.isEmpty = false) (identifier : Text.isName name.toList = true)
    (clear : ¬ state.HidesUnlisted name) :
    ∃ middle, middle.visible = state.visible ∧
      execute (declareLocal name value) state = execute (finishLocal name value) middle := by
  rw [execute_declareLocal_eq, if_neg (by simp [inCall]), if_neg (by simp [identifier])]
  by_cases here : state.isLocal name = true
  · exact ⟨state, rfl, if_pos here⟩
  · have readable : state.Readable name := by
      by_contra unreadable
      exact clear ⟨inCall, identifier, Bool.eq_false_iff.mpr here, unreadable⟩
    obtain ⟨middle, started, same⟩ := execute_startLocal_of_readable inCall readable
    exact ⟨middle, same, by rw [if_neg here, execute_bind_of_ok started]⟩

/-- A declaration that hides a variable it cannot list stops there. -/
theorem execute_declareLocal_of_unlisted (value : Option String) (single : state.SingleLine)
    (hides : state.HidesUnlisted name) :
    ∃ fault, execute (declareLocal name value) state = (.error fault, hide name state) := by
  obtain ⟨fault, failed⟩ := elementKeys_of_not_readable (fun _ => single.suffix) hides.unreadable
  rw [← elementKeys_hide state name] at failed
  refine ⟨fault, ?_⟩
  rw [execute_declareLocal_eq, if_neg (by simp [hides.inCall]), if_neg (by simp [hides.identifier]),
    if_neg (by simp [hides.fresh]), execute_bind_of_error (execute_startLocal_of_error failed)]

theorem not_refuses_declareLocal (value : Option String) (single : state.SingleLine)
    (hides : state.HidesUnlisted name) : ¬ Refuses (declareLocal name value) state := by
  obtain ⟨fault, stopped⟩ := execute_declareLocal_of_unlisted value single hides
  intro refuses
  obtain ⟨queries, same⟩ := refuses fault _ stopped
  have here := isLocal_hide name hides.inCall
  rw [same] at here
  exact absurd (hides.fresh.symm.trans here) (by decide)

theorem refuses_declareLocal (value : Option String) (clear : ¬ state.HidesUnlisted name) :
    Refuses (declareLocal name value) state := by
  intro fault last failed
  by_cases outside : state.scopes.isEmpty = true
  · rw [execute_declareLocal_eq, if_pos outside] at failed
    cases failed
    exact .refl state
  by_cases identifier : Text.isName name.toList = true
  · obtain ⟨middle, -, ran⟩ := execute_declareLocal_of_listed value (by simpa using outside)
      identifier clear
    have finishes : Succeeds (finishLocal name value) := fun state =>
      (execute_finishLocal name value state).elim fun last ran => ⟨(), last, ran.1⟩
    rw [ran] at failed
    exact absurd failed finishes.not_error
  · rw [execute_declareLocal_eq, if_neg outside, if_pos (by simp [identifier])] at failed
    cases failed
    exact .refl state

theorem refuses_declareLocal_iff (value : Option String) (single : state.SingleLine) :
    Refuses (declareLocal name value) state ↔ ¬ state.HidesUnlisted name :=
  ⟨fun refuses hides => not_refuses_declareLocal value single hides refuses,
    refuses_declareLocal value⟩

end Declaring

section Options

theorem refuses_setOption (name : String) (on : Bool) (state : State) :
    Refuses (setOption name on) state := by
  unfold setOption
  split
  · exact ((succeeds_modify _).bind fun _ => succeeds_modify _).refuses state
  · split
    · exact (looks_ofExcept (.error _)).bind fun _ _ _ => (succeeds_modify _).refuses _
    · exact (succeeds_modify _).refuses state

theorem refuses_setFlag (flag : String) (on : Bool) (state : State) :
    Refuses (setFlag flag on) state := by
  unfold setFlag
  split
  · exact refuses_setOption _ on state
  · split
    · exact (looks_ofExcept (.error _)).refuses state
    · exact Succeeds.refuses (fun _ => ⟨_, _, rfl⟩) state

theorem refuses_setShopt (name : String) (on : Bool) (state : State) :
    Refuses (setShopt name on) state := by
  have rest : Succeeds (do
      modify fun state : State => { state with shopts := state.shopts.insert name on }
      modify syncListings : Write Unit) := (succeeds_modify _).bind fun _ => succeeds_modify _
  unfold setShopt
  split
  · exact (looks_ofExcept (.error _)).bind fun _ _ _ => rest.refuses _
  · exact rest.refuses state

end Options

end State

/-- A request to a shell. -/
inductive Request (κ : Type)
  | setVariable (name value : String)
  | setElement (name subscript value : String)
  | setArray (name : String) (values : List String)
  | setAssociativeArray (name : String) (items : List (String × String))
  | unset (name : String)
  | unsetNameref (name : String)
  | declareLocal (name : String) (value : Option String)
  | setOption (name : String) (on : Bool)
  | setFlag (flag : String) (on : Bool)
  | setShopt (name : String) (on : Bool)
  | define (name : String) (body : List (Statement κ)) (source reading : Option String)
  | openFrame (limits : Limits) (name : String) (source : Option String) (args : List String)
      (line : Option Int)

namespace Request

variable {κ σ : Type}

/-- What a request does. -/
def action : Request κ → Run κ σ Unit
  | setVariable name value => Action.write (State.setVariable name value)
  | setElement name subscript value => Action.write (State.setElement name subscript value)
  | setArray name values => Action.write (State.setArray name values)
  | setAssociativeArray name items => Action.write (State.setAssociativeArray name items)
  | unset name => Action.write (State.unset name)
  | unsetNameref name => Action.write (State.unsetNameref name)
  | declareLocal name value => Action.write (State.declareLocal name value)
  | setOption name on => Action.write (State.setOption name on)
  | setFlag flag on => Action.write (State.setFlag flag on)
  | setShopt name on => Action.write (State.setShopt name on)
  | define name body source reading => (fun _ => ()) <$> Function.define name body source reading
  | openFrame limits name source args line =>
    (fun _ => ()) <$> Action.onState (State.openFrame limits name source args line)

/-- Every value of an array that is replaced has an index that can be spelled. -/
def Fits : Request κ → Prop
  | setArray _ values => values.length ≤ Text.numberLimit
  | _ => True

/-- The request begins to write in the state, and then fails. -/
def Interrupted (state : State) : Request κ → Prop
  | setVariable name _ => ∃ reference, state.reference? name = some reference ∧
      state.Promotes reference.array reference.subscript
  | setElement name subscript _ => state.Promotes name subscript
  | declareLocal name _ => state.HidesUnlisted name
  | _ => False

variable {machine last : Machine (Function κ) σ} {stop : Stop}

/-- A write that fails leaves the machine alone exactly if it refuses. -/
theorem unchanged_write_iff {action : Write Unit}
    (failed : execute (Action.write action) machine = (.error stop, last)) :
    (∃ queries, last = { machine with state := { machine.state with queries := queries } }) ↔
      State.Refuses action machine.state := by
  rw [execute_write] at failed
  constructor
  · rintro ⟨queries, rfl⟩ fault next ran
    rw [ran] at failed
    exact ⟨queries, congrArg Machine.state (Prod.mk.inj failed).2⟩
  · intro refuses
    cases ran : execute action machine.state with
    | mk result next =>
      rw [ran] at failed
      obtain ⟨stopped, rfl⟩ := Prod.mk.inj failed
      cases result with
      | ok value => exact nomatch stopped
      | error fault =>
        obtain ⟨queries, rfl⟩ := refuses fault next ran
        exact ⟨queries, rfl⟩

theorem execute_define_error {name : String} {body : List (Statement κ)}
    {source reading : Option String}
    (failed : execute (Function.define name body source reading) machine = (.error stop, last)) :
    last = machine := by
  unfold Function.define at failed
  rw [execute_state_bind] at failed
  split at failed
  · exact (Prod.mk.inj failed).2.symm
  · exact nomatch (Prod.mk.inj failed).1

/-- A request that fails leaves the machine as it was, except that the sources may have been
asked, unless it was interrupted. -/
theorem unchanged_iff_not_interrupted {request : Request κ} (single : machine.state.SingleLine)
    (fits : request.Fits) (failed : execute request.action machine = (.error stop, last)) :
    (∃ queries, last = { machine with state := { machine.state with queries := queries } }) ↔
      ¬ request.Interrupted machine.state := by
  cases request with
  | setVariable name value =>
    rw [unchanged_write_iff failed, State.refuses_setVariable_iff]
    simp only [Interrupted, not_exists, not_and]
  | setElement name subscript value =>
    exact (unchanged_write_iff failed).trans (State.refuses_setElement_iff name subscript value _)
  | declareLocal name value =>
    exact (unchanged_write_iff failed).trans (State.refuses_declareLocal_iff value single)
  | setArray name values =>
    exact iff_of_true ((unchanged_write_iff failed).mpr (State.refuses_setArray name single fits))
      not_false
  | setAssociativeArray name items =>
    exact iff_of_true
      ((unchanged_write_iff failed).mpr (State.refuses_setAssociativeArray name items _)) not_false
  | unset name =>
    exact iff_of_true
      ((unchanged_write_iff failed).mpr (State.refuses_unset name single)) not_false
  | unsetNameref name =>
    exact iff_of_true
      ((unchanged_write_iff failed).mpr (State.refuses_unsetNameref name single)) not_false
  | setOption name on =>
    exact iff_of_true ((unchanged_write_iff failed).mpr (State.refuses_setOption name on _))
      not_false
  | setFlag flag on =>
    exact iff_of_true ((unchanged_write_iff failed).mpr (State.refuses_setFlag flag on _)) not_false
  | setShopt name on =>
    exact iff_of_true ((unchanged_write_iff failed).mpr (State.refuses_setShopt name on _))
      not_false
  | define name body source reading =>
    have same := execute_define_error (execute_map_eq_error.mp failed)
    exact iff_of_true ⟨machine.state.queries, same⟩ not_false
  | openFrame limits name source args line =>
    have stopped := execute_map_eq_error.mp failed
    rw [execute_onState] at stopped
    cases ran : execute (State.openFrame limits name source args line) machine.state with
    | mk result next =>
      rw [ran] at stopped
      obtain ⟨rfl, rfl⟩ := Prod.mk.inj stopped
      have unchanged := State.execute_openFrame_error ran
      subst unchanged
      exact iff_of_true ⟨machine.state.queries, rfl⟩ not_false

/-- A shell with a readonly variable. -/
def readonlyShell : Machine (Function κ) Unit where
  state := { store := (({} : Store).put "x" "v").addAttribute "x" Attribute.readonly }
  host := ()

theorem readonlyShell_refuses :
    let machine : Machine (Function Unit) Unit := readonlyShell
    let request : Request Unit := .setVariable "x" "w"
    execute request.action machine = (.error (.fault (.readonly "x")), machine) ∧
      ((∃ queries, machine = { machine with state := { machine.state with queries := queries } }) ↔
        ¬ request.Interrupted machine.state) := by
  have single : (readonlyShell : Machine (Function Unit) Unit).state.SingleLine :=
    State.singleLine_of_keys (by decide)
  refine ⟨rfl, ?_⟩
  exact unchanged_iff_not_interrupted single trivial rfl

/-- A shell with a scalar and a large number. -/
def scalarShell : Machine (Function Unit) Unit where
  state :=
    { store := (({} : Store).put "x" "v").put "a"
        (String.ofList ('1' :: List.replicate 100 '0')) }
  host := ()

/-- The number of the scalar shell to the power of 43. -/
def largeSubscript : String := String.ofList ((List.replicate 43 ['a', '*']).flatten.dropLast)

theorem denotes_largeSubscript :
    scalarShell.state.Denotes "x" largeSubscript (Nat.pow 10 Text.digitLimit) := by
  have evaluated : ((scalarShell.state.subscriptIndex scalarShell.state.value "x"
      largeSubscript).run scalarShell.state.queries).1.toOption =
        some (some (Nat.pow 10 Text.digitLimit)) := by decide +kernel
  unfold State.Denotes
  revert evaluated
  generalize ((scalarShell.state.subscriptIndex scalarShell.state.value "x"
      largeSubscript).run scalarShell.state.queries).1 = result
  intro evaluated
  cases result with
  | error fault => exact nomatch evaluated
  | ok index => exact congrArg Except.ok (Option.some.inj evaluated)

/-- The scalar is gone after a request that failed. -/
theorem scalarShell_loses_scalar :
    ∃ last, execute (Request.setElement "x" largeSubscript "w").action scalarShell =
        (.error (.fault .numberTooLong), last) ∧
      scalarShell.state.store.get? "x" = some "v" ∧ last.state.store.get? "x" = none := by
  have overflows : scalarShell.state.Overflows "x" (Nat.pow 10 Text.digitLimit) := by
    refine ⟨?_, rfl, rfl⟩
    unfold Text.numberLimit
    exact Nat.le_refl _
  obtain ⟨scalar, queries, stopped⟩ :=
    State.execute_setElement_of_overflows "w" rfl rfl rfl denotes_largeSubscript overflows
  refine ⟨{ scalarShell with
    state := State.promote "x" scalar { scalarShell.state with queries := queries } }, ?_, rfl,
    State.get?_promote "x" scalar _⟩
  rw [action, execute_write, stopped]
  rfl

end Request

end Shell
