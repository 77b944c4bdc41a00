import Shell.Proofs.Frame.Restore
import Shell.Proofs.Variable.Writes

/-!
# What opening and closing a call do to the bookkeeping

A state keeps count of the loops, calls and conditions around the present statement.
Opening a call adds one entry to every stack. Closing it takes the entries away again
if it succeeds; if it fails, the depth of calls stays.
-/

namespace Shell

open Running

/-- What a state keeps count of. -/
structure Bookkeeping where
  loopDepth : Int
  inCondition : Bool
  callDepth : Int
  callNames : List String
  callLines : List Int
  callSources : List String
  valueScopes : Nat
  attributeScopes : Nat
  exportScopes : Nat
deriving DecidableEq, Repr

namespace State

def bookkeeping (state : State) : Bookkeeping where
  loopDepth := state.loopDepth
  inCondition := state.inCondition
  callDepth := state.callDepth
  callNames := state.callNames
  callLines := state.callLines
  callSources := state.callSources
  valueScopes := state.scopes.length
  attributeScopes := state.store.saved.length
  exportScopes := state.localExports.length

/-- Writing variables keeps the books. -/
theorem Edits.bookkeeping {name : String} {first second : State} (edits : Edits name first second) :
    second.bookkeeping = first.bookkeeping := by
  have same : ∀ state : State, state.bookkeeping = state.surroundings.bookkeeping := fun _ => rfl
  rw [same second, edits.surroundings, ← same first]

theorem bookkeeping_setVariable (name value : String) (state : State) :
    (after (setVariable name value) state).bookkeeping = state.bookkeeping := by
  obtain ⟨target, -, edits⟩ := edits_setVariable name value state
  exact edits.bookkeeping

section Opening

variable {limits : Limits} {name : String} {source : Option String} {args : List String}
  {line : Option Int} {state next : State}

theorem execute_openFrame_error {stop : Stop}
    (failed : execute (openFrame limits name source args line) state = (.error stop, next)) :
    next = state := by
  unfold openFrame at failed
  rw [execute_get_bind] at failed
  by_cases deep : limits.callDepth < state.callDepth + 1
  · rw [if_pos deep] at failed
    exact (Prod.mk.inj failed).2.symm
  · rw [if_neg deep] at failed
    exact nomatch (Prod.mk.inj failed).1

theorem execute_openFrame_ok {frame : Frame}
    (opened : execute (openFrame limits name source args line) state = (.ok frame, next)) :
    ∃ call, next.bookkeeping = (state.enter call).bookkeeping := by
  unfold openFrame at opened
  rw [execute_get_bind] at opened
  by_cases deep : limits.callDepth < state.callDepth + 1
  · rw [if_pos deep] at opened
    exact nomatch (Prod.mk.inj opened).1
  · rw [if_neg deep] at opened
    refine ⟨⟨name, line.getD state.line, sourceOrMain source⟩, ?_⟩
    rw [← (Prod.mk.inj opened).2]
    simp [bookkeeping]

end Opening

section Preserving

variable {β : Type} {view : State → β}

/-- The action leaves a part of the state alone, whether it succeeds or fails. -/
def Preserves {α : Type} (view : State → β) (action : Write α) : Prop :=
  ∀ state, view (after action state) = view state

theorem Preserves.bind {α γ : Type} {action : Write α} {next : α → Write γ}
    (first : Preserves view action) (second : ∀ value, Preserves view (next value)) :
    Preserves view (action >>= next) := fun state =>
  after_bind (fun old new => view new = view old) (fun left right => right.trans left)
    (first state) fun value middle _ => second value middle

theorem Preserves.get {α : Type} {next : State → Write α}
    (rest : ∀ state, Preserves view (next state)) : Preserves view (get >>= next) :=
  fun state => rest state state

/-- What follows an action and leaves a part of the state alone can be left out for it. -/
theorem Preserves.after_bind {α γ : Type} {action : Write α} {next : α → Write γ}
    (second : ∀ value, Preserves view (next value)) (state : State) :
    view (after (action >>= next) state) = view (after action state) := by
  rcases ran : execute action state with ⟨fault | value, middle⟩
  · rw [after, execute_bind_of_error ran, after_eq_of_execute ran]
  · rw [after_bind_of_ok ran, second value middle, after_eq_of_execute ran]

theorem Preserves.forM {γ : Type} {action : γ → Write Unit}
    (each : ∀ item, Preserves view (action item)) (items : List γ) :
    Preserves view (items.forM action) :=
  after_forM (fun old new => view new = view old) (fun _ => rfl)
    (fun left right => right.trans left) fun item _ => each item

theorem preserves_ofExcept {α : Type} (result : Except Fault α) :
    Preserves view (MonadExcept.ofExcept result : Write α) := by
  intro state
  rw [after_ofExcept]

theorem preserves_checkWritable (name : String) : Preserves view (checkWritable name) := by
  intro state
  rw [after_checkWritable]

/-- A reading is only seen by what sees the queries. -/
theorem preserves_reading {α : Type}
    (blind : ∀ (state : State) (queries : Queries),
      view { state with queries := queries } = view state)
    (read : State → Draw α) : Preserves view (reading read) := by
  intro state
  obtain ⟨result, queries, ran⟩ := execute_reading read state
  rw [after_eq_of_execute ran]
  exact blind state queries

/-- What a view does not see makes no difference to it. -/
theorem eq_of_blind (blur : State → State) {first second : State} (view : State → β)
    (blind : ∀ state, view (blur state) = view state) (same : blur second = blur first) :
    view second = view first := by
  rw [← blind second, same, blind]

theorem Preserves.of_blind {α : Type} {blur : State → State} {action : Write α}
    (keeps : Preserves blur action) (view : State → β)
    (blind : ∀ state, view (blur state) = view state) : Preserves view action :=
  fun state => eq_of_blind blur view blind (keeps state)

end Preserving

/-- A state without the values of variables. -/
def skeleton (state : State) : State :=
  { state with store := { state.store with values := ∅ } }

/-- A state without values: neither those of variables nor those that calls have saved. -/
def valueless (state : State) : State := { state.skeleton with scopes := [], shadows := [] }

section Declaring

theorem bookkeeping_saveValue (key : String) (value : Option String) (state : State) :
    (saveValue key value state).bookkeeping = state.bookkeeping := by
  unfold saveValue
  cases scopes : state.scopes with
  | nil => rfl
  | cons scope outer => simp [bookkeeping, scopes]

theorem bookkeeping_hide (name : String) (state : State) :
    (hide name state).bookkeeping = state.bookkeeping :=
  bookkeeping_saveValue name _ state

theorem preserves_saveElement (key : String) : Preserves bookkeeping (saveElement key) := by
  intro state
  unfold saveElement
  rw [after_get_bind]
  cases state.store.get? key with
  | none => rfl
  | some value => exact bookkeeping_saveValue key (some value) state

theorem preserves_startLocal (name : String) : Preserves bookkeeping (startLocal name) := by
  unfold startLocal
  refine Preserves.bind (bookkeeping_hide name) fun _ => Preserves.get fun _ => ?_
  exact (preserves_ofExcept _).bind fun keys => Preserves.forM preserves_saveElement keys

theorem preserves_finishLocal (name : String) (value : Option String) :
    Preserves bookkeeping (finishLocal name value) := by
  unfold finishLocal
  refine Preserves.bind (fun state => ?_) fun _ => ?_
  · have levels : (state.store.saveAttributes name).saved.length = state.store.saved.length := by
      unfold Store.saveAttributes
      cases stack : state.store.saved <;> simp [stack]
    simp [bookkeeping, levels]
  · cases value with
    | some value => exact fun _ => rfl
    | none =>
      intro state
      rw [after_get_bind]
      split <;> rfl

theorem valueless_saveValue (key : String) (value : Option String) (state : State) :
    (saveValue key value state).valueless = state.valueless := by
  unfold saveValue
  cases state.scopes <;> rfl

theorem preserves_valueless_startLocal (name : String) : Preserves valueless (startLocal name) := by
  unfold startLocal
  refine Preserves.bind (fun state => valueless_saveValue name _ state) fun _ => ?_
  refine Preserves.get fun _ => ?_
  refine (preserves_ofExcept _).bind fun keys => Preserves.forM (fun key state => ?_) keys
  unfold saveElement
  rw [after_get_bind]
  cases state.store.get? key with
  | none => rfl
  | some value => exact valueless_saveValue key (some value) state

/-- Making a variable local keeps the books. -/
theorem preserves_declareLocal (name : String) (value : Option String) :
    Preserves bookkeeping (declareLocal name value) := by
  intro state
  rw [after, execute_declareLocal_eq]
  split
  · rfl
  split
  · rfl
  split
  · exact preserves_finishLocal name value state
  · exact (preserves_startLocal name).bind (fun _ => preserves_finishLocal name value) state

end Declaring

section Closing

/-- The part of a state that closing a call leaves alone, apart from the depth of calls. -/
def unframed (state : State) : State :=
  { state with
    store := {}
    associative := ∅
    scopes := []
    shadows := []
    unsetLocals := ∅
    localExports := []
    callNames := []
    callLines := []
    callSources := [] }

/-- A state without variables and calls. -/
def uncalled (state : State) : State := { state.unframed with callDepth := 0 }

/-- How deep calls and loops are nested around the present statement. -/
def depths (state : State) : Int × Int := (state.callDepth, state.loopDepth)

theorem Preserves.callDepth {α : Type} {action : Write α} (keeps : Preserves State.depths action) :
    Preserves State.callDepth action := fun state => congrArg Prod.fst (keeps state)

theorem preserves_dropLocalElements (scope : Table (Option String)) (array : String) :
    Preserves skeleton (dropLocalElements scope array) := by
  refine Preserves.get fun _ => ?_
  refine (preserves_ofExcept _).bind fun keys => Preserves.forM (fun key => ?_) keys
  split
  · exact fun _ => rfl
  · intro state
    unfold dropKey
    rw [after_get_bind]
    split <;> rfl

theorem skeleton_closeValues {state : State} {scope : Table (Option String)}
    {outer : List (Table (Option String))} (scopes : state.scopes = scope :: outer) (level : Nat) :
    (after (closeValues level) state).skeleton = skeleton { state with scopes := outer } := by
  rw [after, execute_closeValues_eq scopes]
  have back : Preserves skeleton (changeStore (restoreValues · scope)) := by
    intro state
    rw [after_changeStore, restoreValues_eq]
    rfl
  exact (Preserves.forM (preserves_dropLocalElements scope) _).bind (fun _ => back)
    { state with scopes := outer }

theorem preserves_closeValues (level : Nat) : Preserves unframed (closeValues level) := by
  intro state
  cases scopes : state.scopes with
  | nil =>
    unfold closeValues
    rw [after_get_bind, scopes]
    rfl
  | cons scope outer =>
    have same := congrArg unframed (skeleton_closeValues scopes level)
    exact same

theorem preserves_closeAttributes : Preserves unframed closeAttributes := by
  intro state
  unfold closeAttributes
  rw [after_get_bind]
  cases state.store.saved <;> rfl

theorem preserves_closeExports (restored : List String) :
    Preserves unframed (closeExports restored) := by
  intro state
  unfold closeExports
  rw [after_get_bind]
  cases state.localExports <;> rfl

/-- A call that is closed takes the innermost entry from every stack. -/
theorem closeFrame_cases {state last : State} {frame : Frame} {value : Unit}
    (ran : execute (closeFrame frame) state = (.ok value, last)) :
    ∃ scope outer saved savedOuter exported exports middle,
      state.scopes = scope :: outer ∧ state.store.saved = saved :: savedOuter ∧
      state.localExports = exported :: exports ∧
      execute (closeValues frame.scope) state = (.ok (), middle) ∧
      middle.skeleton = skeleton { state with scopes := outer } ∧
      last = closed frame saved savedOuter exported exports middle := by
  obtain ⟨_, middle, values, rest⟩ := execute_bind_eq_ok.mp ran
  obtain ⟨restored, attributed, attributesBack, rest⟩ := execute_bind_eq_ok.mp rest
  rw [execute_modify_bind] at rest
  obtain ⟨_, unexported, exportsBack, -⟩ := execute_bind_eq_ok.mp rest
  have inCall : state.scopes ≠ [] := by
    intro none
    unfold closeValues at values
    rw [execute_get_bind, none] at values
    cases values
  obtain ⟨scope, outer, scopes⟩ := List.exists_cons_of_ne_nil inCall
  have same := skeleton_closeValues scopes frame.scope
  rw [after_eq_of_execute values] at same
  have savedSame := eq_of_blind skeleton (fun state => state.store.saved) (fun _ => rfl) same
  have exportsSame := eq_of_blind skeleton State.localExports (fun _ => rfl) same
  have attributesSaved : middle.store.saved ≠ [] := by
    intro none
    unfold closeAttributes at attributesBack
    rw [execute_get_bind, none] at attributesBack
    cases attributesBack
  obtain ⟨saved, savedOuter, stack⟩ := List.exists_cons_of_ne_nil attributesSaved
  rw [execute_closeAttributes stack] at attributesBack
  cases attributesBack
  have exported : middle.localExports ≠ [] := by
    intro none
    have still : (forgetScope frame.scope
      (withAttributesBack saved savedOuter middle)).localExports = [] := none
    unfold closeExports at exportsBack
    rw [execute_get_bind, still] at exportsBack
    cases exportsBack
  obtain ⟨exported, exports, exportStack⟩ := List.exists_cons_of_ne_nil exported
  rw [execute_closeFrame values stack exportStack] at ran
  exact ⟨scope, outer, saved, savedOuter, exported, exports, middle, scopes,
    savedSame.symm.trans stack, exportsSame.symm.trans exportStack, values, same,
    (Prod.mk.inj ran).2.symm⟩

/-- One call less if it succeeds, as many as before if it fails. -/
def ClosesOne (state : State) : Except Fault Unit × State → Prop
  | (.ok _, last) => last.callDepth = state.callDepth - 1
  | (.error _, last) => last.callDepth = state.callDepth

theorem Preserves.closesOne {α : Type} {action : Write α} {next : α → Write Unit}
    (keeps : Preserves State.callDepth action)
    (rest : ∀ value state, ClosesOne state (execute (next value) state)) (state : State) :
    ClosesOne state (execute (action >>= next) state) := by
  have first : (execute action state).2.callDepth = state.callDepth := keeps state
  rw [execute_bind]
  generalize execute action state = ran at first ⊢
  rcases ran with ⟨fault | value, middle⟩
  · exact first
  · have last := rest value middle
    unfold ClosesOne at last ⊢
    rw [← show middle.callDepth = state.callDepth from first]
    exact last

theorem closesOne_closeFrame (frame : Frame) (state : State) :
    ClosesOne state (execute (closeFrame frame) state) := by
  have keeps : ∀ {α : Type} {action : Write α}, Preserves unframed action →
      Preserves State.callDepth action := fun unseen =>
    (unseen.of_blind depths fun _ => rfl).callDepth
  unfold closeFrame
  refine (keeps (preserves_closeValues frame.scope)).closesOne (fun _ => ?_) state
  refine (keeps preserves_closeAttributes).closesOne fun restored => ?_
  refine Preserves.closesOne (fun _ => rfl) fun _ => ?_
  refine (keeps (preserves_closeExports restored)).closesOne fun _ => ?_
  refine Preserves.closesOne (fun _ => rfl) fun _ state => ?_
  cases frame.count.isNone <;> rfl

/-- Closing a call only touches variables and calls, also if it fails. -/
theorem preserves_uncalled_closeFrame (frame : Frame) :
    Preserves uncalled (closeFrame frame) := by
  have keeps : ∀ {α : Type} {action : Write α}, Preserves unframed action →
      Preserves uncalled action := fun unseen => unseen.of_blind uncalled fun _ => rfl
  unfold closeFrame
  refine (keeps (preserves_closeValues frame.scope)).bind fun _ => ?_
  refine (keeps preserves_closeAttributes).bind fun restored => ?_
  refine Preserves.bind (fun _ => rfl) fun _ => ?_
  refine (keeps (preserves_closeExports restored)).bind fun _ => ?_
  refine Preserves.bind (fun _ => rfl) fun _ state => ?_
  cases frame.count.isNone <;> rfl

/-- Closing a call leaves the depth of loops alone. -/
theorem preserves_closeFrame (frame : Frame) : Preserves State.loopDepth (closeFrame frame) :=
  (preserves_uncalled_closeFrame frame).of_blind loopDepth fun _ => rfl

/-- What is neither a variable nor about calls or loops: how many commands were run, and whether a
condition is being checked. -/
def progress (state : State) : Int × Bool := (state.commandCount, state.inCondition)

/-- Closing a call is no command and no condition. -/
theorem preserves_progress_closeFrame (frame : Frame) :
    Preserves State.progress (closeFrame frame) :=
  (preserves_uncalled_closeFrame frame).of_blind progress fun _ => rfl

/-- A call that is closed leaves the books as they were before it was opened. -/
theorem bookkeeping_closeFrame {before state : State} {call : Call} {frame : Frame}
    (inside : state.bookkeeping = (before.enter call).bookkeeping)
    (closable : state.Closable frame.scope) :
    ∃ last, execute (closeFrame frame) state = (.ok (), last) ∧
      last.bookkeeping = before.bookkeeping := by
  have scopesLength : state.scopes.length = before.scopes.length + 1 :=
    congrArg Bookkeeping.valueScopes inside
  have savedLength : state.store.saved.length = before.store.saved.length + 1 :=
    congrArg Bookkeeping.attributeScopes inside
  have exportsLength : state.localExports.length = before.localExports.length + 1 :=
    congrArg Bookkeeping.exportScopes inside
  obtain ⟨scope, outer, scopes⟩ := List.exists_cons_of_length_eq_add_one scopesLength
  obtain ⟨saved, rest, stack⟩ := List.exists_cons_of_length_eq_add_one savedLength
  obtain ⟨exported, exports, exportStack⟩ := List.exists_cons_of_length_eq_add_one exportsLength
  obtain ⟨dropped, values, -⟩ := execute_closeValues scopes closable
  have closing := execute_closeFrame values ((saved_withValuesBack _ _ _ _).trans stack)
    exportStack
  refine ⟨_, closing, ?_⟩
  rw [scopes, List.length_cons, Nat.add_right_cancel_iff] at scopesLength
  rw [stack, List.length_cons, Nat.add_right_cancel_iff] at savedLength
  rw [exportStack, List.length_cons, Nat.add_right_cancel_iff] at exportsLength
  have names : state.callNames = call.name :: before.callNames :=
    congrArg Bookkeeping.callNames inside
  have lines : state.callLines = call.line :: before.callLines :=
    congrArg Bookkeeping.callLines inside
  have sources : state.callSources = call.source :: before.callSources :=
    congrArg Bookkeeping.callSources inside
  have depth : state.callDepth = before.callDepth + 1 := congrArg Bookkeeping.callDepth inside
  have loops : state.loopDepth = before.loopDepth := congrArg Bookkeeping.loopDepth inside
  have condition : state.inCondition = before.inCondition :=
    congrArg Bookkeeping.inCondition inside
  have back : state.callDepth - 1 = before.callDepth := by omega
  unfold bookkeeping
  rw [saved_closed, savedLength]
  change Bookkeeping.mk state.loopDepth state.inCondition (state.callDepth - 1)
    state.callNames.tail state.callLines.tail state.callSources.tail outer.length _
    exports.length = _
  rw [loops, condition, back, names, lines, sources, scopesLength, exportsLength]
  rfl

end Closing

end State

end Shell
