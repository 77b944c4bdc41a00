import Shell.Proofs.Frame.Bookkeeping

/-!
# Exports for as long as a call lasts

Two things take an export back when a call ends. The attributes of a local variable
are again what they were when it was made local, and any other name that was
exported for the call loses the export. Neither knows whether the name was exported
before the call. So a name that a call exports before it makes it local is exported
after the call exactly if the call made it local at all, whatever it was before; every
other name comes out of the call as it went in.
-/

namespace Shell.State

open Running

/-- How a function is called. -/
structure Invocation where
  limits : Limits := {}
  function : String
  source : Option String := none
  args : List String := []
  line : Option Int := none

/-- Something that a function does about a variable. -/
inductive Deed
  | exportLocal (name : String)
  | declareLocal (name : String) (value : Option String)
  | assign (name value : String)

/-- The body of a function: deeds, and calls of other bodies. -/
inductive Body
  | done
  | act (deed : Deed) (rest : Body)
  | call (invocation : Invocation) (inner rest : Body)

def Deed.perform : Deed → Write Unit
  | exportLocal name => State.exportLocal name
  | declareLocal name value => State.declareLocal name value
  | assign name value => setVariable name value

/-- The deed exports the name. -/
def Deed.exports (name : String) : Deed → Bool
  | exportLocal other => other == name
  | _ => false

/-- The deed makes the name local. It may fail to. -/
def Deed.localizes (name : String) (state : State) : Deed → Bool
  | declareLocal other value =>
    other == name && (execute (State.declareLocal other value) state).1.isOk
  | _ => false

/-- The frame of a call, and the state in it. -/
def Invocation.enter (call : Invocation) (state : State) : Except Stop Frame × State :=
  execute (openFrame call.limits call.function call.source call.args call.line) state

/-- The state after a call. One that goes too deep is not made. -/
def Invocation.perform (call : Invocation) (body : State → State) (state : State) : State :=
  match call.enter state with
  | (.ok frame, inside) => after (closeFrame frame) (body inside)
  | (.error _, same) => same

namespace Body

/-- The state after a body. A deed that fails is over, and what it did before stays. -/
def run : Body → State → State
  | done, state => state
  | act deed rest, state => rest.run (after deed.perform state)
  | call invocation inner rest, state => rest.run (invocation.perform inner.run state)

/-- The body exports the name itself, and does so before it makes the name local. -/
def exportsFirst (name : String) : Body → State → Bool
  | done, _ => false
  | act deed rest, state =>
    deed.exports name ||
      (!deed.localizes name state && rest.exportsFirst name (after deed.perform state))
  | call invocation inner rest, state => rest.exportsFirst name (invocation.perform inner.run state)

/-- The body makes the name local itself. -/
def localizes (name : String) : Body → State → Bool
  | done, _ => false
  | act deed rest, state =>
    deed.localizes name state || rest.localizes name (after deed.perform state)
  | call invocation inner rest, state => rest.localizes name (invocation.perform inner.run state)

/-- Something holds of every call that is made in a body, also in the bodies that it calls. -/
def EveryCall (Property : State → Invocation → Body → Prop) : Body → State → Prop
  | done, _ => True
  | act deed rest, state => rest.EveryCall Property (after deed.perform state)
  | call invocation inner rest, state =>
    (Property state invocation inner ∧ ∀ frame inside,
      invocation.enter state = (.ok frame, inside) → inner.EveryCall Property inside) ∧
    rest.EveryCall Property (invocation.perform inner.run state)

end Body

/-- The innermost call has exported the name. -/
def ownExport (state : State) (name : String) : Bool :=
  state.localExports.head?.any (·.contains name)

/-- Whether the name was exported when the innermost call made it local, if it did. -/
def savedExport? (state : State) (name : String) : Option Bool :=
  (state.store.saved.head?.bind (·[name]?)).map fun attributes =>
    (attributes.getD ∅).contains Attribute.exported

/-- Whether the name will be exported once the innermost call is closed. -/
def exportedOutside (state : State) (name : String) : Bool :=
  (state.savedExport? name).getD (!state.ownExport name && state.store.isExported name)

section Assigning

/-- Exports stay as they are as long as assignments do not export. -/
def SameExport (name : String) (first second : State) : Prop :=
  first.options.allexport = false →
    second.store.isExported name = first.store.isExported name ∧ second.options.allexport = false

variable {name : String} {first second third : State}

theorem SameExport.refl (name : String) (state : State) : SameExport name state state :=
  fun off => ⟨rfl, off⟩

theorem SameExport.trans (before : SameExport name first second)
    (next : SameExport name second third) : SameExport name first third := by
  intro off
  obtain ⟨same, still⟩ := before off
  exact ⟨(next still).1.trans same, (next still).2⟩

theorem SameExport.bind {α β : Type} {action : Write α} {next : α → Write β} {state : State}
    (first : SameExport name state (after action state))
    (second : ∀ value middle, execute action state = (.ok value, middle) →
      SameExport name middle (after (next value) middle)) :
    SameExport name state (after (action >>= next) state) :=
  after_bind (SameExport name) SameExport.trans first second

theorem SameExport.of_eq (attributes : second.store.attributes = first.store.attributes)
    (options : second.options = first.options) : SameExport name first second := by
  intro off
  rw [options]
  exact ⟨Store.hasAttribute_congr (by rw [attributes]) _, off⟩

theorem sameExport_ofExcept {α : Type} (result : Except Fault α) (state : State) :
    SameExport name state (after (MonadExcept.ofExcept result : Write α) state) := by
  rw [after_ofExcept]
  exact .refl name state

theorem sameExport_reading {α : Type} (read : State → Draw α) (state : State) :
    SameExport name state (after (reading read) state) := by
  obtain ⟨result, queries, ran⟩ := execute_reading read state
  rw [after_eq_of_execute ran]
  exact .of_eq rfl rfl

theorem sameExport_checkWritable (target : String) (state : State) :
    SameExport name state (after (checkWritable target) state) := by
  rw [after_checkWritable]
  exact .refl name state

theorem sameExport_addAttribute (target : String) {letter : String}
    (other : letter ≠ Attribute.exported) (state : State) :
    SameExport name state (after (changeStore (·.addAttribute target letter)) state) := by
  intro off
  refine ⟨?_, off⟩
  rw [after_changeStore, Store.isExported, Store.hasAttribute_addAttribute, beq_false_of_ne other]
  simp [Store.isExported]

theorem sameExport_assign (target value : String) (state : State) :
    SameExport name state (after (assign target value) state) := by
  rcases after_assign_cases target value state with
    ⟨-, same⟩ | ⟨-, same⟩ | ⟨queries, base, -, same⟩
  · rw [same]
    exact .of_eq rfl rfl
  · rw [same]
    exact .of_eq rfl rfl
  · rw [same]
    intro off
    have unmarked : state.assigned target value = state.store.put target value :=
      if_neg (by simp [off])
    rw [unmarked]
    exact ⟨rfl, off⟩

theorem sameExport_putElement (array : String) (index : Nat) (value : String) (state : State) :
    SameExport name state (after (putElement array index value) state) := by
  have store : ∀ middle, SameExport name middle (after (do
      let key ← MonadExcept.ofExcept (indexKey array index)
      changeStore (·.put key value)
      changeStore (·.addAttribute array Attribute.indexed)) middle) := by
    intro middle
    refine (sameExport_ofExcept _ middle).bind fun key _ _ => SameExport.bind (.of_eq rfl rfl) ?_
    exact fun _ stored _ => sameExport_addAttribute array (by decide) stored
  unfold putElement
  rw [after_get_bind]
  split
  · refine (sameExport_ofExcept _ state).bind fun isArray middle _ => ?_
    split
    · exact SameExport.bind (.of_eq rfl rfl) fun _ moved _ => store moved
    · exact store middle
  · exact store state

theorem sameExport_setElement (array subscript value : String) (state : State) :
    SameExport name state (after (setElement array subscript value) state) := by
  unfold setElement
  rw [after_get_bind]
  split
  · exact .refl name state
  · refine (sameExport_checkWritable _ state).bind fun _ checked _ => ?_
    rw [after_get_bind]
    split
    · exact (sameExport_reading _ checked).bind fun _ _ _ => .of_eq rfl rfl
    · refine (sameExport_reading _ checked).bind fun index middle _ => ?_
      split
      · exact .refl name middle
      · exact sameExport_putElement _ _ value middle

/-- An assignment changes no export, unless all assignments export. -/
theorem sameExport_setVariable (target value : String) (state : State) :
    SameExport name state (after (setVariable target value) state) := by
  unfold setVariable
  split
  · exact sameExport_setElement _ _ value state
  · rw [after_get_bind]
    split
    · exact .refl name state
    · split
      · exact sameExport_setElement _ _ value state
      · exact sameExport_assign _ value state

end Assigning

section Deeds

variable {name : String} {state : State}

/-- A state in which a call is open, and in which assignments do not export. -/
structure InCall (state : State) : Prop where
  saved : state.store.saved ≠ []
  exports : state.localExports ≠ []
  silent : state.options.allexport = false

/-- The open calls around the innermost one, and the options, are the same in two states. -/
structure SameAround (first second : State) : Prop where
  saved : second.store.saved.tail = first.store.saved.tail
  exports : second.localExports.tail = first.localExports.tail
  options : second.options = first.options

theorem SameAround.trans {first second third : State} (before : SameAround first second)
    (next : SameAround second third) : SameAround first third :=
  ⟨next.saved.trans before.saved, next.exports.trans before.exports,
    next.options.trans before.options⟩

/-- The same calls are open in two states, and the options are the same. -/
structure SameCalls (first second : State) : Prop where
  saved : second.store.saved = first.store.saved
  exports : second.localExports = first.localExports
  options : second.options = first.options

theorem SameCalls.inCall {first second : State} (same : SameCalls first second)
    (inCall : first.InCall) : second.InCall ∧ SameAround first second := by
  obtain ⟨saved, exports, options⟩ := same
  refine ⟨⟨?_, ?_, ?_⟩, congrArg List.tail saved, congrArg List.tail exports, options⟩
  · rw [saved]
    exact inCall.saved
  · rw [exports]
    exact inCall.exports
  · rw [options]
    exact inCall.silent

/-- What a deed does to the exports of a name, and to what the innermost call knows of them. -/
structure Deed.Marks (deed : Deed) (name : String) (first second : State) : Prop where
  exported : second.store.isExported name = (first.store.isExported name || deed.exports name)
  own : second.ownExport name = (first.ownExport name || deed.exports name)
  saved : second.savedExport? name = (first.savedExport? name).or
    (if deed.localizes name first then some (first.store.isExported name) else none)

theorem marks_exportLocal (inCall : state.InCall) (other : String) :
    (Deed.exportLocal other).Marks name state (after (State.exportLocal other) state) := by
  obtain ⟨names, outer, exports⟩ := List.exists_cons_of_ne_nil inCall.exports
  refine ⟨?_, ?_, ?_⟩
  · change (state.store.addAttribute other Attribute.exported).hasAttribute name _ = _
    rw [Store.hasAttribute_addAttribute, beq_self_eq_true, Bool.and_true, Bool.or_comm]
    rfl
  · unfold ownExport State.exportLocal
    rw [after_modify, exports]
    rw [Bool.eq_iff_iff]
    simp [Deed.exports, Std.ExtTreeSet.contains_insert, or_comm]
  · change state.savedExport? name = _
    simp [Deed.localizes]

theorem inCall_exportLocal (inCall : state.InCall) (other : String) :
    (after (State.exportLocal other) state).InCall ∧
      SameAround state (after (State.exportLocal other) state) := by
  obtain ⟨names, outer, exports⟩ := List.exists_cons_of_ne_nil inCall.exports
  refine ⟨⟨inCall.saved, ?_, inCall.silent⟩, rfl, ?_, rfl⟩
  · unfold State.exportLocal
    rw [after_modify, exports]
    exact List.cons_ne_nil _ _
  · unfold State.exportLocal
    rw [after_modify, exports]
    rfl

theorem valueless_withSavedAttributes (other : String) (state : State) :
    (withSavedAttributes other state).valueless = withSavedAttributes other state.valueless := by
  unfold withSavedAttributes valueless skeleton Store.saveAttributes
  cases state.store.saved <;> rfl

theorem valueless_finishLocal (other : String) (value : Option String) (state : State) :
    ∃ last, execute (finishLocal other value) state = (.ok (), last) ∧
      last.valueless = (withSavedAttributes other state).valueless := by
  unfold finishLocal
  rw [execute_modify_bind]
  cases value with
  | some value => exact ⟨_, rfl, rfl⟩
  | none =>
    simp only [execute_get_bind]
    split <;> exact ⟨_, rfl, rfl⟩

/-- A declaration that fails changes no attributes, and one that succeeds saves those of the
variable. -/
theorem declareLocal_cases (other : String) (value : Option String) (state : State) :
    (∃ fault last, execute (State.declareLocal other value) state = (.error fault, last) ∧
      last.valueless = state.valueless) ∨
    ∃ last, execute (State.declareLocal other value) state = (.ok (), last) ∧
      last.valueless = (withSavedAttributes other state).valueless := by
  rw [execute_declareLocal_eq]
  split
  · exact .inl ⟨_, _, rfl, rfl⟩
  split
  · exact .inl ⟨_, _, rfl, rfl⟩
  split
  · exact .inr (valueless_finishLocal other value state)
  · have kept := preserves_valueless_startLocal other state
    cases started : execute (startLocal other) state with
    | mk result middle =>
      rw [after_eq_of_execute started] at kept
      cases result with
      | error fault => exact .inl ⟨fault, middle, execute_bind_of_error started, kept⟩
      | ok _ =>
        obtain ⟨last, ran, same⟩ := valueless_finishLocal other value middle
        refine .inr ⟨last, (execute_bind_of_ok started).trans ran, ?_⟩
        rw [same, valueless_withSavedAttributes, kept, ← valueless_withSavedAttributes]

/-- Two states that differ in values only agree about exports. -/
theorem InCall.of_valueless {first second : State} (inCall : first.InCall)
    (same : second.valueless = first.valueless) : second.InCall ∧ SameAround first second := by
  have calls : SameCalls first second :=
    ⟨eq_of_blind valueless (fun state => state.store.saved) (fun _ => rfl) same,
      eq_of_blind valueless State.localExports (fun _ => rfl) same,
      eq_of_blind valueless State.options (fun _ => rfl) same⟩
  exact calls.inCall inCall

theorem withSavedAttributes_eq {scope : Table (Option Attributes)}
    {outer : List (Table (Option Attributes))} (saved : state.store.saved = scope :: outer)
    (other : String) :
    withSavedAttributes other state = { state with
      store := { state.store with
        saved := scope.insertIfNew other state.store.attributes[other]? :: outer }
      unsetLocals := state.unsetLocals.erase other } := by
  rw [withSavedAttributes, Store.saveAttributes, saved]

theorem inCall_declareLocal (inCall : state.InCall) (other : String) (value : Option String) :
    (after (State.declareLocal other value) state).InCall ∧
      SameAround state (after (State.declareLocal other value) state) := by
  rcases declareLocal_cases other value state with ⟨fault, last, ran, same⟩ | ⟨last, ran, same⟩
  · rw [after_eq_of_execute ran]
    exact inCall.of_valueless same
  · rw [after_eq_of_execute ran]
    obtain ⟨scope, outer, saved⟩ := List.exists_cons_of_ne_nil inCall.saved
    rw [withSavedAttributes_eq saved] at same
    have declared : State.InCall { state with
        store := { state.store with
          saved := scope.insertIfNew other state.store.attributes[other]? :: outer }
        unsetLocals := state.unsetLocals.erase other } :=
      ⟨List.cons_ne_nil _ _, inCall.exports, inCall.silent⟩
    obtain ⟨lastInCall, around⟩ := declared.of_valueless same
    refine ⟨lastInCall, around.saved.trans ?_, around.exports, around.options⟩
    rw [saved]
    rfl

theorem marks_declareLocal (inCall : state.InCall) (other : String) (value : Option String) :
    (Deed.declareLocal other value).Marks name state
      (after (State.declareLocal other value) state) := by
  have agree : ∀ {first second : State}, second.valueless = first.valueless →
      second.store.isExported name = first.store.isExported name ∧
        second.ownExport name = first.ownExport name ∧
        second.savedExport? name = first.savedExport? name := fun same =>
    ⟨eq_of_blind valueless (fun state => state.store.isExported name) (fun _ => rfl) same,
      eq_of_blind valueless (State.ownExport · name) (fun _ => rfl) same,
      eq_of_blind valueless (State.savedExport? · name) (fun _ => rfl) same⟩
  rcases declareLocal_cases other value state with ⟨fault, last, ran, same⟩ | ⟨last, ran, same⟩
  · have failed : (Deed.declareLocal other value).localizes name state = false := by
      rw [Deed.localizes, ran]
      simp [Except.isOk, Except.toBool]
    rw [after_eq_of_execute ran]
    obtain ⟨exported, own, saved⟩ := agree same
    exact ⟨exported.trans (Bool.or_false _).symm, own.trans (Bool.or_false _).symm,
      by simpa [failed] using saved⟩
  · have succeeded : (Deed.declareLocal other value).localizes name state = (other == name) := by
      rw [Deed.localizes, ran]
      simp [Except.isOk, Except.toBool]
    rw [after_eq_of_execute ran]
    obtain ⟨scope, outer, stack⟩ := List.exists_cons_of_ne_nil inCall.saved
    rw [withSavedAttributes_eq stack] at same
    obtain ⟨exported, own, saved⟩ := agree same
    refine ⟨exported.trans (Bool.or_false _).symm, own.trans (Bool.or_false _).symm, ?_⟩
    rw [saved, succeeded]
    unfold savedExport?
    rw [stack]
    simp only [List.head?_cons, Option.bind_some, Std.ExtTreeMap.getElem?_insertIfNew]
    by_cases different : other = name
    · subst different
      by_cases present : other ∈ scope
      · simp [present]
      · simp [present, Store.isExported, Store.hasAttribute, Store.attributesOf]
    · simp [different]

theorem inCall_assign (inCall : state.InCall) (target value : String) :
    (after (setVariable target value) state).InCall ∧
      SameAround state (after (setVariable target value) state) := by
  obtain ⟨edited, -, edits⟩ := edits_setVariable target value state
  have saved := congrArg (fun state : State => state.store.saved) edits.surroundings
  have exports := congrArg State.localExports edits.surroundings
  have options := congrArg State.options edits.surroundings
  have calls : SameCalls state (after (setVariable target value) state) := ⟨saved, exports, options⟩
  exact calls.inCall inCall

theorem marks_assign (inCall : state.InCall) (target value : String) :
    (Deed.assign target value).Marks name state (after (setVariable target value) state) := by
  obtain ⟨edited, -, edits⟩ := edits_setVariable target value state
  have exported : SameExport name state _ := sameExport_setVariable target value state
  have own := congrArg (State.ownExport · name) edits.surroundings
  have saved := congrArg (State.savedExport? · name) edits.surroundings
  exact ⟨(exported inCall.silent).1.trans (Bool.or_false _).symm,
    own.trans (Bool.or_false _).symm, saved.trans Option.or_none.symm⟩

theorem Deed.inCall (deed : Deed) (inCall : state.InCall) :
    (after deed.perform state).InCall ∧ SameAround state (after deed.perform state) := by
  cases deed with
  | exportLocal other => exact inCall_exportLocal inCall other
  | declareLocal other value => exact inCall_declareLocal inCall other value
  | assign target value => exact inCall_assign inCall target value

theorem Deed.marks (deed : Deed) (inCall : state.InCall) :
    deed.Marks name state (after deed.perform state) := by
  cases deed with
  | exportLocal other => exact marks_exportLocal inCall other
  | declareLocal other value => exact marks_declareLocal inCall other value
  | assign target value => exact marks_assign inCall target value

end Deeds

section Closing

variable {name : String} {state last : State} {frame : Frame}

theorem isExported_dropExports (names : List String) (store : Store) (name : String) :
    (dropExports names store).isExported name =
      (!names.contains name && store.isExported name) := by
  induction names generalizing store with
  | nil => simp [dropExports]
  | cons first rest inductionHypothesis =>
    refine (inductionHypothesis _).trans ?_
    rw [Store.isExported, Store.hasAttribute_dropAttribute, List.contains_cons, Store.isExported]
    by_cases same : first = name
    · simp [same]
    · simp [beq_false_of_ne same, beq_false_of_ne (Ne.symm same)]

theorem isExported_closed (saved : Table (Option Attributes))
    (outer : List (Table (Option Attributes))) (exported : Names) (exports : List Names)
    (state : State) (name : String) :
    (closed frame saved outer exported exports state).store.isExported name =
      (saved[name]?.map fun attributes => (attributes.getD ∅).contains Attribute.exported).getD
        (!exported.contains name && state.store.isExported name) := by
  cases found : saved[name]? with
  | some attributes =>
    rw [Store.isExported, Store.hasAttribute, Store.attributesOf,
      attributes_closed _ _ _ _ _ _ found]
    rfl
  | none =>
    have missing : name ∉ saved := by
      rw [Std.ExtTreeMap.mem_iff_isSome_getElem?, found]
      simp
    change (withPositionalBack frame (dropExports _ _)).hasAttribute name _ = _
    rw [withPositionalBack_eq]
    refine (isExported_dropExports _ _ name).trans ?_
    have restored : (Store.restoreAttributes state.store.attributes saved)[name]? =
        state.store.attributes[name]? := by
      rw [getElem?_restoreAttributes, found]
      rfl
    have same : (forgetScope frame.scope (withAttributesBack saved outer state)).store.isExported
        name = state.store.isExported name := Store.hasAttribute_congr restored _
    have listed : (exported.toList.filter fun name => !saved.keys.contains name).contains name =
        exported.contains name := by
      rw [Bool.eq_iff_iff]
      simp [missing]
    rw [same, listed]
    rfl

/-- What closing a call makes of exports, if it succeeds. -/
theorem exports_closeFrame {value : Unit}
    (ran : execute (closeFrame frame) state = (.ok value, last)) :
    (∀ name, last.store.isExported name = state.exportedOutside name) ∧
      last.store.saved = state.store.saved.tail ∧ last.localExports = state.localExports.tail ∧
      last.options = state.options := by
  obtain ⟨scope, outer, saved, savedOuter, exported, exports, middle, -, stack, exportStack, -,
    same, rfl⟩ := closeFrame_cases ran
  refine ⟨fun name => ?_, ?_, ?_, ?_⟩
  · have exportedSame := congrArg (fun state : State => state.store.isExported name) same
    rw [isExported_closed, show middle.store.isExported name = state.store.isExported name from
      exportedSame]
    unfold exportedOutside savedExport? ownExport
    rw [stack, exportStack]
    rfl
  · rw [saved_closed, stack]
    rfl
  · rw [exportStack]
    rfl
  · have optionsSame := congrArg State.options same
    exact optionsSame

end Closing

/-- The call is closed at its end, unless it is not made at all. -/
def Closes (state : State) (invocation : Invocation) (body : Body) : Prop :=
  ∀ frame inside, invocation.enter state = (.ok frame, inside) →
    ∃ last, execute (closeFrame frame) (body.run inside) = (.ok (), last)

/-- After the call exactly those names are exported that were before. -/
def RestoresExports (state : State) (invocation : Invocation) (body : Body) : Prop :=
  ∀ name, (invocation.perform body.run state).store.isExported name = state.store.isExported name

/-- After the call all names are exported that the call around it has exported. -/
def RetainsExports (state : State) (invocation : Invocation) (body : Body) : Prop :=
  ∀ name, state.ownExport name = true →
    (invocation.perform body.run state).store.isExported name = true

/-- A name that the call exports, and has not made local before, was not exported before the call,
or it was, and the call makes it local later. -/
def Fair (state : State) (invocation : Invocation) (body : Body) : Prop :=
  ∀ frame inside, invocation.enter state = (.ok frame, inside) → ∀ name,
    body.exportsFirst name inside = true →
      body.localizes name inside = state.store.isExported name

theorem Body.EveryCall.imp {First Second : State → Invocation → Body → Prop}
    (implies : ∀ state invocation body, First state invocation body → Second state invocation body)
    {body : Body} {state : State} (every : body.EveryCall First state) :
    body.EveryCall Second state := by
  induction body generalizing state with
  | done => trivial
  | act deed rest inductionHypothesis => exact inductionHypothesis every
  | call invocation inner rest innerHypothesis restHypothesis =>
    exact ⟨⟨implies _ _ _ every.1.1, fun frame inside entered =>
      innerHypothesis (every.1.2 frame inside entered)⟩, restHypothesis every.2⟩

section Calls

variable {name : String} {state inside : State} {invocation : Invocation} {frame : Frame}
  {inner body : Body}

/-- What a call knows about exports when it begins: nothing. -/
structure Begins (state inside : State) : Prop where
  attributes : inside.store.attributes = state.store.attributes
  saved : inside.store.saved = ∅ :: state.store.saved
  exports : inside.localExports = ∅ :: state.localExports
  options : inside.options = state.options

theorem begins_of_enter (entered : invocation.enter state = (.ok frame, inside)) :
    Begins state inside := by
  unfold Invocation.enter openFrame at entered
  rw [execute_get_bind] at entered
  split at entered
  · cases entered
  · cases entered
    exact ⟨attributes_replacePositional _ _, saved_replacePositional _ _, rfl, rfl⟩

theorem Begins.inCall (begins : Begins state inside) (silent : state.options.allexport = false) :
    inside.InCall := by
  refine ⟨?_, ?_, ?_⟩
  · rw [begins.saved]
    exact List.cons_ne_nil _ _
  · rw [begins.exports]
    exact List.cons_ne_nil _ _
  · rw [begins.options]
    exact silent

theorem Begins.savedExport? (begins : Begins state inside) : inside.savedExport? name = none := by
  rw [State.savedExport?, begins.saved]
  simp

theorem Begins.ownExport (begins : Begins state inside) : inside.ownExport name = false := by
  rw [State.ownExport, begins.exports]
  simp

theorem Begins.isExported (begins : Begins state inside) :
    inside.store.isExported name = state.store.isExported name :=
  Store.hasAttribute_congr (by rw [begins.attributes]) _

theorem SameCalls.savedExport? {first second : State} (same : SameCalls first second) :
    second.savedExport? name = first.savedExport? name := by
  rw [State.savedExport?, State.savedExport?, same.saved]

theorem SameCalls.ownExport {first second : State} (same : SameCalls first second) :
    second.ownExport name = first.ownExport name := by
  rw [State.ownExport, State.ownExport, same.exports]

/-- A call that is closed leaves the open calls as they were, if its body does so around it. -/
theorem sameCalls_perform (silent : state.options.allexport = false)
    (closes : Closes state invocation inner)
    (around : ∀ frame inside, invocation.enter state = (.ok frame, inside) → inside.InCall →
      SameAround inside (inner.run inside)) :
    SameCalls state (invocation.perform inner.run state) := by
  unfold Invocation.perform
  cases entered : invocation.enter state with
  | mk result inside =>
    cases result with
    | error stop =>
      obtain rfl := execute_openFrame_error entered
      exact ⟨rfl, rfl, rfl⟩
    | ok frame =>
      obtain ⟨last, ran⟩ := closes frame inside entered
      have begins := begins_of_enter entered
      have same := around frame inside entered (begins.inCall silent)
      obtain ⟨-, saved, exports, options⟩ := exports_closeFrame ran
      dsimp only
      rw [after_eq_of_execute ran]
      refine ⟨?_, ?_, options.trans (same.options.trans begins.options)⟩
      · rw [saved, same.saved, begins.saved, List.tail_cons]
      · rw [exports, same.exports, begins.exports, List.tail_cons]

/-- A body whose calls are all closed stays in its own call. -/
theorem inCall_run (every : body.EveryCall Closes state) (inCall : state.InCall) :
    (body.run state).InCall ∧ SameAround state (body.run state) := by
  induction body generalizing state with
  | done => exact ⟨inCall, rfl, rfl, rfl⟩
  | act deed rest inductionHypothesis =>
    obtain ⟨next, same⟩ := deed.inCall inCall
    obtain ⟨last, later⟩ := inductionHypothesis every next
    exact ⟨last, same.trans later⟩
  | call invocation inner rest innerHypothesis restHypothesis =>
    have calls : SameCalls state (invocation.perform inner.run state) :=
      sameCalls_perform inCall.silent every.1.1 fun frame inside entered begun =>
        (innerHypothesis (every.1.2 frame inside entered) begun).2
    obtain ⟨next, same⟩ := calls.inCall inCall
    obtain ⟨last, later⟩ := restHypothesis every.2 next
    exact ⟨last, same.trans later⟩

/-- The call is closed, and restores the exports. -/
def ClosesRestoring (state : State) (invocation : Invocation) (body : Body) : Prop :=
  Closes state invocation body ∧ RestoresExports state invocation body

theorem sameCalls_of_every (inCall : state.InCall) (closes : Closes state invocation inner)
    (every : ∀ frame inside, invocation.enter state = (.ok frame, inside) →
      inner.EveryCall ClosesRestoring inside) :
    SameCalls state (invocation.perform inner.run state) :=
  sameCalls_perform inCall.silent closes fun frame inside entered begun =>
    (inCall_run ((every frame inside entered).imp fun _ _ _ both => both.1) begun).2

/-- What a call has saved of a name stays. -/
theorem savedExport?_run (every : body.EveryCall ClosesRestoring state) (inCall : state.InCall)
    {saved : Bool} (found : state.savedExport? name = some saved) :
    (body.run state).savedExport? name = some saved := by
  induction body generalizing state with
  | done => exact found
  | act deed rest inductionHypothesis =>
    refine inductionHypothesis every (deed.inCall inCall).1 ?_
    rw [(deed.marks inCall).saved, found]
    rfl
  | call invocation inner rest innerHypothesis restHypothesis =>
    have calls := sameCalls_of_every inCall every.1.1.1 every.1.2
    exact restHypothesis every.2 (calls.inCall inCall).1 (calls.savedExport?.trans found)

/-- Whether a name that is not yet local is exported after the call: if it was exported before it
was made local, that depends on whether it is made local at all; else it is as before. -/
theorem exportedOutside_run (every : body.EveryCall ClosesRestoring state) (inCall : state.InCall)
    (free : state.savedExport? name = none)
    (visible : state.ownExport name = true → state.store.isExported name = true) :
    (body.run state).exportedOutside name =
      if state.ownExport name || body.exportsFirst name state then body.localizes name state
      else state.store.isExported name := by
  induction body generalizing state with
  | done =>
    unfold Body.run exportedOutside Body.exportsFirst Body.localizes
    rw [free]
    cases state.ownExport name <;> simp
  | act deed rest inductionHypothesis =>
    have next := (deed.inCall inCall).1
    have marks : deed.Marks name state _ := deed.marks inCall
    have later : rest.EveryCall ClosesRestoring (after deed.perform state) := every
    cases localizes : deed.localizes name state with
    | true =>
      -- From now on the call knows what to put back.
      have kept := marks.saved
      rw [free, localizes] at kept
      have outside : (rest.run (after deed.perform state)).exportedOutside name =
          state.store.isExported name := by
        rw [exportedOutside, savedExport?_run later next kept]
        rfl
      have silent : deed.exports name = false := by
        cases deed with
        | declareLocal other value => rfl
        | exportLocal other => contradiction
        | assign target value => rfl
      rw [Body.run, outside, Body.exportsFirst, Body.localizes, localizes, silent]
      cases own : state.ownExport name with
      | true => simpa using visible own
      | false => simp
    | false =>
      have still : (after deed.perform state).savedExport? name = none := by
        rw [marks.saved, free, localizes]
        rfl
      have outcome := inductionHypothesis later next still ?_
      · rw [Body.run, outcome, marks.own, marks.exported, Body.exportsFirst, Body.localizes,
          localizes]
        cases deed.exports name <;> simp
      · rw [marks.own, marks.exported, Bool.or_eq_true, Bool.or_eq_true]
        exact Or.imp_left visible
  | call invocation inner rest innerHypothesis restHypothesis =>
    have calls := sameCalls_of_every inCall every.1.1.1 every.1.2
    have same : (invocation.perform inner.run state).store.isExported name = _ :=
      every.1.1.2 name
    have later := restHypothesis every.2 (calls.inCall inCall).1 (calls.savedExport?.trans free)
      (by rwa [calls.ownExport, same])
    rw [Body.run, later, calls.ownExport, same]
    rfl

/-- A call in which all other calls restore the exports restores them exactly if it is fair. -/
theorem restoresExports_iff (silent : state.options.allexport = false)
    (closes : Closes state invocation inner)
    (every : ∀ frame inside, invocation.enter state = (.ok frame, inside) →
      inner.EveryCall ClosesRestoring inside) :
    RestoresExports state invocation inner ↔ Fair state invocation inner := by
  unfold RestoresExports Fair Invocation.perform
  cases entered : invocation.enter state with
  | mk result inside =>
    cases result with
    | error stop =>
      obtain rfl := execute_openFrame_error entered
      simp
    | ok frame =>
      obtain ⟨last, ran⟩ := closes frame inside entered
      have begins := begins_of_enter entered
      have outcome : ∀ name, last.store.isExported name =
          if inner.exportsFirst name inside then inner.localizes name inside
          else state.store.isExported name := by
        intro name
        rw [(exports_closeFrame ran).1, exportedOutside_run (every frame inside entered)
          (begins.inCall silent) begins.savedExport? (by simp [begins.ownExport]),
          begins.ownExport, begins.isExported, Bool.false_or]
      dsimp only
      rw [after_eq_of_execute ran]
      constructor
      · rintro restores frame inside ⟨⟩ name first
        rw [← restores name, outcome, if_pos first]
      · intro fair name
        rw [outcome]
        split
        · rename_i first
          exact fair frame inside rfl name first
        · rfl

/-- The call is closed, and it is fair. -/
def ClosesFair (state : State) (invocation : Invocation) (body : Body) : Prop :=
  Closes state invocation body ∧ Fair state invocation body

theorem everyCall_restoring_iff (inCall : state.InCall) :
    body.EveryCall ClosesRestoring state ↔ body.EveryCall ClosesFair state := by
  induction body generalizing state with
  | done => exact Iff.rfl
  | act deed rest inductionHypothesis => exact inductionHypothesis (deed.inCall inCall).1
  | call invocation inner rest innerHypothesis restHypothesis =>
    have nested : (∀ frame inside, invocation.enter state = (.ok frame, inside) →
          inner.EveryCall ClosesRestoring inside) ↔
        ∀ frame inside, invocation.enter state = (.ok frame, inside) →
          inner.EveryCall ClosesFair inside :=
      forall_congr' fun frame => forall_congr' fun inside => forall_congr' fun entered =>
        innerHypothesis ((begins_of_enter entered).inCall inCall.silent)
    constructor
    · rintro ⟨⟨⟨closes, restores⟩, every⟩, rest⟩
      have next := ((sameCalls_of_every inCall closes every).inCall inCall).1
      exact ⟨⟨⟨closes, (restoresExports_iff inCall.silent closes every).mp restores⟩,
        nested.mp every⟩, (restHypothesis next).mp rest⟩
    · rintro ⟨⟨⟨closes, fair⟩, every⟩, rest⟩
      have restoring := nested.mpr every
      have next := ((sameCalls_of_every inCall closes restoring).inCall inCall).1
      exact ⟨⟨⟨closes, (restoresExports_iff inCall.silent closes restoring).mpr fair⟩, restoring⟩,
        (restHypothesis next).mpr rest⟩

/-- Where all calls restore the exports, what a call has exported stays exported until it ends. -/
theorem everyCall_retains (every : body.EveryCall ClosesRestoring state) (inCall : state.InCall)
    (visible : ∀ name, state.ownExport name = true → state.store.isExported name = true) :
    body.EveryCall RetainsExports state := by
  induction body generalizing state with
  | done => trivial
  | act deed rest inductionHypothesis =>
    refine inductionHypothesis every (deed.inCall inCall).1 fun name own => ?_
    have marks : deed.Marks name state _ := deed.marks inCall
    rw [marks.own, Bool.or_eq_true] at own
    rw [marks.exported, Bool.or_eq_true]
    exact own.imp_left (visible name)
  | call invocation inner rest innerHypothesis restHypothesis =>
    have calls := sameCalls_of_every inCall every.1.1.1 every.1.2
    have restores := every.1.1.2
    refine ⟨⟨fun name own => (restores name).trans (visible name own), ?_⟩, ?_⟩
    · intro frame inside entered
      have begins := begins_of_enter entered
      refine innerHypothesis (every.1.2 frame inside entered) (begins.inCall inCall.silent) ?_
      intro name own
      rw [begins.ownExport] at own
      contradiction
    · refine restHypothesis every.2 (calls.inCall inCall).1 fun name own => ?_
      rw [calls.ownExport] at own
      exact (restores name).trans (visible name own)

end Calls

/-- Something holds of a call and of all calls that are made in it. -/
def Throughout (Property : State → Invocation → Body → Prop) (state : State)
    (invocation : Invocation) (body : Body) : Prop :=
  Property state invocation body ∧ ∀ frame inside,
    invocation.enter state = (.ok frame, inside) → body.EveryCall Property inside

/-- In a call, every call restores the exports, and leaves those of the call around it alone,
exactly if every call is fair, provided that they are all closed. -/
theorem exports_last_as_call_iff (invocation : Invocation) (body : Body) {state : State}
    (silent : state.options.allexport = false) :
    (Throughout ClosesRestoring state invocation body ∧
      ∀ frame inside, invocation.enter state = (.ok frame, inside) →
        body.EveryCall RetainsExports inside) ↔
    Throughout ClosesFair state invocation body := by
  have nested : (∀ frame inside, invocation.enter state = (.ok frame, inside) →
        body.EveryCall ClosesRestoring inside) ↔
      ∀ frame inside, invocation.enter state = (.ok frame, inside) →
        body.EveryCall ClosesFair inside :=
    forall_congr' fun frame => forall_congr' fun inside => forall_congr' fun entered =>
      everyCall_restoring_iff ((begins_of_enter entered).inCall silent)
  constructor
  · rintro ⟨⟨⟨closes, restores⟩, every⟩, -⟩
    exact ⟨⟨closes, (restoresExports_iff silent closes every).mp restores⟩, nested.mp every⟩
  · rintro ⟨⟨closes, fair⟩, every⟩
    have restoring := nested.mpr every
    refine ⟨⟨⟨closes, (restoresExports_iff silent closes restoring).mpr fair⟩, restoring⟩, ?_⟩
    intro frame inside entered
    have begins := begins_of_enter entered
    refine everyCall_retains (restoring frame inside entered) (begins.inCall silent) ?_
    intro name own
    rw [begins.ownExport] at own
    contradiction

/-- A body that exports a name, and calls another one that makes the name local and exports it. -/
def exportingBody : Body :=
  .act (.exportLocal "m") (.call { function := "g" }
    (.act (.declareLocal "m" none) (.act (.exportLocal "m") .done)) .done)

theorem exportingBody_restores :
    Throughout ClosesRestoring {} { function := "f" } exportingBody ∧
      ∀ frame inside, Invocation.enter { function := "f" } {} = (.ok frame, inside) →
        exportingBody.EveryCall RetainsExports inside := by
  refine (exports_last_as_call_iff { function := "f" } exportingBody rfl).mpr ⟨⟨?_, ?_⟩, ?_⟩
  · rintro frame inside ⟨⟩
    exact ⟨_, rfl⟩
  · rintro frame inside ⟨⟩ name -
    rfl
  · rintro frame inside ⟨⟩
    refine ⟨⟨⟨?_, ?_⟩, ?_⟩, trivial⟩
    · rintro frame inside ⟨⟩
      exact ⟨_, rfl⟩
    · rintro frame inside ⟨⟩ name first
      -- The declaration succeeds, and comes before the export.
      change (!("m" == name && true) && ("m" == name || false)) = true at first
      cases same : "m" == name <;> simp [same] at first
    · rintro frame inside ⟨⟩
      trivial

/-- A shell with an exported name. -/
def exportedShell : State := { store := ({} : Store).addAttribute "n" Attribute.exported }

theorem exportedShell_loses_export :
    exportedShell.options.allexport = false ∧ exportedShell.store.isExported "n" = true ∧
      (Invocation.perform { function := "f" } (Body.run (.act (.exportLocal "n") .done))
        exportedShell).store.isExported "n" = false := by
  decide +kernel

end Shell.State
