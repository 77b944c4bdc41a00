import Shell.Proofs.Frame.Bystanders
import Shell.Proofs.Frame.Locals
import Shell.Proofs.Frame.Noting

/-!
# The stacks of calls fit together

A call has one entry on each of six stacks, and two tables refer to calls by their
numbers: the one of hidden values, and the one of local variables that were unset. The
numbers are used again for later calls, so nothing of a call may be left in the tables
when it is closed. This is so as long as every call can be closed. If one cannot, then
closing it takes an entry off one stack only, and the depth of calls is never again
that of the scopes.
-/

namespace Shell

open Running

namespace State

/-- What a scope, counted from the outermost, holds under a name. -/
def held? (scopes : List (Table (Option String))) (level : Nat) (name : String) :
    Option (Option String) :=
  scopes.reverse[level]?.bind fun scope => scope[name]?

section Held

variable {scope : Table (Option String)} {outer : List (Table (Option String))} {level : Nat}
  {name : String} {value : Option String}

theorem held?_cons (scope : Table (Option String)) (outer : List (Table (Option String)))
    (level : Nat) (name : String) :
    held? (scope :: outer) level name =
      if level = outer.length then scope[name]? else held? outer level name := by
  unfold held?
  rw [List.reverse_cons, List.getElem?_append, List.length_reverse]
  split
  · rename_i less
    rw [if_neg (Nat.ne_of_lt less)]
  · rename_i notLess
    split
    · rename_i same
      simp [same]
    · rename_i different
      rw [List.getElem?_eq_none (by simp; omega), List.getElem?_eq_none (by simp; omega)]

theorem lt_of_held? {scopes : List (Table (Option String))}
    (held : held? scopes level name = some value) : level < scopes.length := by
  by_contra high
  unfold held? at held
  rw [List.getElem?_eq_none (by simpa using high)] at held
  contradiction

/-- A new scope is above all that were there. -/
theorem held?_openScope (held : held? outer level name = some value) :
    held? (scope :: outer) level name = some value := by
  rw [held?_cons, if_neg (Nat.ne_of_lt (lt_of_held? held)), held]

/-- A value that is saved later does not replace what is held. -/
theorem held?_insertIfNew (held : held? (scope :: outer) level name = some value) (key : String)
    (saved : Option String) :
    held? (scope.insertIfNew key saved :: outer) level name = some value := by
  rw [held?_cons] at held ⊢
  by_cases innermost : level = outer.length
  · rw [if_pos innermost] at held ⊢
    rw [Std.ExtTreeMap.getElem?_insertIfNew, if_neg, held]
    rintro ⟨same, missing⟩
    rw [Std.LawfulEqOrd.compare_eq_iff_eq] at same
    subst same
    apply missing
    rw [← Std.ExtTreeMap.isSome_getElem?_iff_mem, held]
    rfl
  · rw [if_neg innermost] at held ⊢
    exact held

end Held

/-- Every stack has one entry for each open call. The calls that hide a name have numbers that
ascend, from the outermost on, and each of them holds in its scope the value that it hides. Local
variables that are noted as unset belong to open calls. -/
structure WellStacked (state : State) : Prop where
  depth : state.callDepth = state.callNames.length
  lines : state.callLines.length = state.callNames.length
  sources : state.callSources.length = state.callNames.length
  scopes : state.scopes.length = state.callNames.length
  saved : state.store.saved.length = state.callNames.length
  exports : state.localExports.length = state.callNames.length
  distinct : (state.shadows.map (·.1)).Nodup
  nonempty : ∀ entry ∈ state.shadows, entry.2 ≠ []
  descending : ∀ entry ∈ state.shadows, (entry.2.map (·.scope)).Pairwise (· > ·)
  bounded : ∀ entry ∈ state.shadows, ∀ shadow ∈ entry.2, shadow.scope < state.scopes.length
  held : ∀ entry ∈ state.shadows, ∀ shadow ∈ entry.2,
    held? state.scopes shadow.scope entry.1 = some shadow.value
  unset : ∀ (name : String) (level : Nat), state.unsetLocals[name]? = some level →
    level < state.scopes.length

/-- A state in which no call is open, and nothing is left of one. It may have any variables. -/
structure Idle (state : State) : Prop where
  depth : state.callDepth = 0
  callStacks : state.callStacks = ([], [], [])
  scopes : state.scopes = []
  saved : state.store.saved = []
  exports : state.localExports = []
  shadows : state.shadows = []
  unset : state.unsetLocals = ∅

/-- States reached from one without open calls, by any operations that leave the depth of calls
alone, and by opening and closing calls, where the call opened last is closed first. The frames are
those of the calls that are open, innermost first. The number is that of the calls that could not be
closed, for a local array of theirs could not be listed. -/
inductive Course : List Frame → Nat → State → Prop
  | start {state : State} : state.Idle → Course [] 0 state
  | operate {κ σ : Type} {frames : List Frame} {stuck : Nat} {machine : Machine (Function κ) σ}
      {operation : Operation} : Course frames stuck machine.state →
        (∀ depth, operation ≠ .set (.callDepth depth)) →
          Course frames stuck (after (Session.perform operation) machine).state
  | enter {frames : List Frame} {stuck : Nat} {state inside : State} {limits : Limits}
      {function : String} {source : Option String} {args : List String} {line : Option Int}
      {frame : Frame} : Course frames stuck state →
        execute (openFrame limits function source args line) state = (.ok frame, inside) →
          Course (frame :: frames) stuck inside
  | refuse {frames : List Frame} {stuck : Nat} {state last : State} {limits : Limits}
      {function : String} {source : Option String} {args : List String} {line : Option Int}
      {stop : Stop} : Course frames stuck state →
        execute (openFrame limits function source args line) state = (.error stop, last) →
          Course frames stuck last
  | leave {frames : List Frame} {frame : Frame} {stuck : Nat} {state : State} :
      Course (frame :: frames) stuck state → state.Closable frame.scope →
        Course frames stuck (after (closeFrame frame) state)
  | strand {frames : List Frame} {frame : Frame} {stuck : Nat} {state : State} :
      Course (frame :: frames) stuck state → state.SingleLine → ¬ state.Closable frame.scope →
        Course frames (stuck + 1) (after (closeFrame frame) state)

/-- An operation that writes takes the state to the one after the writing. -/
theorem Course.write {frames : List Frame} {stuck : Nat} {state : State} (operation : Operation)
    {action : Write Unit} (writes : operation.write? = some action)
    (honest : ∀ depth, operation ≠ .set (.callDepth depth)) (course : Course frames stuck state) :
    Course frames stuck (after action state) := by
  let machine : Machine (Function Unit) Unit := { state := state, host := () }
  rw [← Session.state_perform_of_write machine writes]
  exact .operate course honest

/-- Each hidden name is hidden by some call, and the calls hold the values that they hide. -/
structure Backed (state : State) : Prop where
  nonempty : ∀ entry ∈ state.shadows, entry.2 ≠ []
  held : ∀ name, ∀ shadow ∈ shadowsOf name state.shadows,
    held? state.scopes shadow.scope name = some shadow.value

section Declaring

variable {state last : State} {name : String}

theorem Backed.of_frameStacks (backed : state.Backed)
    (same : last.frameStacks = state.frameStacks) : last.Backed := by
  obtain ⟨scopes, shadows, -, -⟩ : last.scopes = state.scopes ∧ last.shadows = state.shadows ∧
      last.store.saved = state.store.saved ∧
        last.localExports.length = state.localExports.length := by
    simpa only [frameStacks, Prod.mk.injEq] using same
  refine ⟨?_, ?_⟩
  · rw [shadows]
    exact backed.nonempty
  · rw [shadows, scopes]
    exact backed.held

theorem Backed.saveValue (backed : state.Backed) (key : String) (value : Option String) :
    (saveValue key value state).Backed := by
  unfold State.saveValue
  cases scopes : state.scopes with
  | nil => exact backed
  | cons scope outer =>
    refine ⟨backed.nonempty, fun name shadow member => ?_⟩
    have held := backed.held name shadow member
    rw [scopes] at held
    exact held?_insertIfNew held key value

theorem nonempty_of_mem_addShadow {shadow : Shadow} {shadows : List (String × List Shadow)}
    (nonempty : ∀ entry ∈ shadows, entry.2 ≠ []) :
    ∀ entry ∈ addShadow name shadow shadows, entry.2 ≠ [] := by
  induction shadows with
  | nil => simp [addShadow]
  | cons first rest inductionHypothesis =>
    obtain ⟨here, others⟩ := List.forall_mem_cons.mp nonempty
    obtain ⟨other, hidden⟩ := first
    unfold addShadow
    split
    · exact List.forall_mem_cons.mpr ⟨List.cons_ne_nil _ _, others⟩
    · exact List.forall_mem_cons.mpr ⟨here, inductionHypothesis others⟩

/-- The innermost call holds the value that it hides, if it held none before. -/
theorem Backed.hide (backed : state.Backed) (inCall : state.scopes ≠ [])
    (fresh : state.isLocal name = false) : (hide name state).Backed := by
  obtain ⟨scope, outer, scopes⟩ := List.exists_cons_of_ne_nil inCall
  have unheld : name ∉ scope := by
    unfold isLocal at fresh
    rw [scopes] at fresh
    exact Bool.eq_false_iff.mp fresh
  have kept := backed.saveValue name (state.store.get? name)
  unfold State.hide
  dsimp only
  refine ⟨nonempty_of_mem_addShadow kept.nonempty, fun other shadow member => ?_⟩
  rw [shadowsOf_addShadow] at member
  split at member
  · rename_i same
    subst same
    rcases List.mem_cons.mp member with rfl | before
    · unfold State.saveValue
      rw [scopes, List.length_cons, Nat.add_sub_cancel]
      dsimp only
      rw [held?_cons, if_pos rfl, Std.ExtTreeMap.getElem?_insertIfNew, if_pos ⟨by simp, unheld⟩]
    · exact kept.held name shadow before
  · exact kept.held other shadow member

theorem Backed.saveElement (backed : state.Backed) (key : String) :
    (after (saveElement key) state).Backed := by
  unfold State.saveElement
  rw [after_get_bind]
  split
  · exact backed.saveValue key _
  · exact backed

theorem Backed.startLocal (backed : state.Backed) (inCall : state.scopes ≠ [])
    (fresh : state.isLocal name = false) : (after (startLocal name) state).Backed := by
  have hidden := backed.hide inCall fresh
  unfold State.startLocal
  rw [after, execute_modify_bind, execute_get_bind, ← after]
  cases (State.hide name state).elementKeys name with
  | error fault => exact hidden
  | ok keys =>
    exact after_forM (fun first second : State => first.Backed → second.Backed) (fun _ => id)
      (fun before next => next ∘ before) (fun key _ _ backed => backed.saveElement key) _ hidden

theorem Backed.finishLocal (backed : state.Backed) (value : Option String) :
    (after (finishLocal name value) state).Backed := by
  obtain ⟨last, ran, edits⟩ := execute_finishLocal name value state
  rw [after_eq_of_execute ran]
  have saved : (withSavedAttributes name state).Backed := ⟨backed.nonempty, backed.held⟩
  exact saved.of_frameStacks edits.frameStacks

theorem Backed.declareLocal (backed : state.Backed) (name : String) (value : Option String) :
    (after (declareLocal name value) state).Backed := by
  rw [after, execute_declareLocal_eq]
  split
  · exact backed
  rename_i inCall
  split
  · exact backed
  split
  · exact backed.finishLocal value
  · rename_i fresh
    have started := backed.startLocal (by simpa using inCall) (by simpa using fresh)
    cases ran : execute (State.startLocal name) state with
    | mk result middle =>
      rw [after_eq_of_execute ran] at started
      cases result with
      | error fault =>
        rw [execute_bind_of_error ran]
        exact started
      | ok _ =>
        rw [execute_bind_of_ok ran]
        exact started.finishLocal value

end Declaring

section Calls

variable {calls : List (Frame × List String)} {frame : Frame} {names : List String}
  {state last : State}

theorem Recorded.lengths {shadows : List (String × List Shadow)}
    {scopes : List (Table (Option String))} {saved : List (Table (Option Attributes))}
    (recorded : Recorded shadows calls scopes saved) :
    scopes.length = calls.length ∧ saved.length = calls.length := by
  induction recorded with
  | nil => exact ⟨rfl, rfl⟩
  | cons _ _ _ inductionHypothesis =>
    exact ⟨congrArg Nat.succ inductionHypothesis.1, congrArg Nat.succ inductionHypothesis.2⟩

/-- What holds of a state with some open calls, besides the record of the calls. -/
structure Fits (calls : List (Frame × List String)) (state : State) : Prop where
  depth : state.callDepth = calls.length
  names : state.callNames.length = calls.length
  lines : state.callLines.length = calls.length
  sources : state.callSources.length = calls.length
  backed : state.Backed
  unset : ∀ (name : String) (level : Nat), state.unsetLocals[name]? = some level →
    level < state.scopes.length

theorem Fits.wellStacked (fits : Fits calls state) (tracked : Tracked calls state) :
    state.WellStacked := by
  obtain ⟨scopes, saved⟩ := tracked.recorded.lengths
  have listed : ∀ entry ∈ state.shadows, shadowsOf entry.1 state.shadows = entry.2 :=
    fun entry member => shadowsOf_of_mem tracked.distinct member
  have levelled : ∀ entry ∈ state.shadows, levels entry.1 state.shadows = entry.2.map (·.scope) :=
    fun entry member => congrArg _ (listed entry member)
  refine
    { depth := by rw [fits.depth, fits.names]
      lines := by rw [fits.lines, fits.names]
      sources := by rw [fits.sources, fits.names]
      scopes := by rw [scopes, fits.names]
      saved := by rw [saved, fits.names]
      exports := by rw [tracked.exports, fits.names]
      distinct := tracked.distinct
      nonempty := fits.backed.nonempty
      descending := fun entry member => ?_
      bounded := fun entry member shadow inEntry => ?_
      held := fun entry member shadow inEntry => ?_
      unset := fits.unset }
  · rw [← levelled entry member]
    exact tracked.descending entry.1
  · refine tracked.bounded entry.1 shadow.scope ?_
    rw [levelled entry member]
    exact List.mem_map_of_mem inEntry
  · refine fits.backed.held entry.1 shadow ?_
    rw [listed entry member]
    exact inEntry

/-- Operations keep the calls, and note what is unset in the innermost one only. -/
theorem Fits.of_notes (fits : Fits calls state) (notes : Notes state last) (backed : last.Backed) :
    Fits calls last where
  depth := notes.depth.trans fits.depth
  names := (congrArg (·.1.length) notes.callStacks).trans fits.names
  lines := (congrArg (·.2.1.length) notes.callStacks).trans fits.lines
  sources := (congrArg (·.2.2.length) notes.callStacks).trans fits.sources
  backed := backed
  unset name level found := by
    rw [notes.scopes]
    rcases notes.unset name level found with old | innermost
    · exact fits.unset name level old
    · omega

theorem Fits.opening (fits : Fits calls state) {inside : State} {limits : Limits}
    {function : String} {source : Option String} {args : List String} {line : Option Int}
    (opened : execute (openFrame limits function source args line) state = (.ok frame, inside)) :
    Fits ((frame, []) :: calls) inside := by
  unfold openFrame at opened
  rw [execute_get_bind] at opened
  split at opened
  · cases opened
  · cases opened
    refine ⟨?_, congrArg Nat.succ fits.names, congrArg Nat.succ fits.lines,
      congrArg Nat.succ fits.sources, ⟨fits.backed.nonempty, ?_⟩, ?_⟩
    · change state.callDepth + 1 = _
      rw [fits.depth]
      rfl
    · exact fun name shadow member => held?_openScope (fits.backed.held name shadow member)
    · exact fun name level found => Nat.lt_succ_of_lt (fits.unset name level found)

theorem nonempty_forgetScope (scope : Nat) (state : State) :
    ∀ entry ∈ (forgetScope scope state).shadows, entry.2 ≠ [] := by
  intro entry member
  obtain ⟨⟨name, hidden⟩, -, kept⟩ := List.mem_filterMap.mp member
  dsimp only at kept
  split at kept
  · contradiction
  · rename_i some
    cases kept
    exact some

theorem getElem?_unsetLocals_forgetScope {scope level : Nat} {name : String}
    (found : (forgetScope scope state).unsetLocals[name]? = some level) :
    state.unsetLocals[name]? = some level ∧ level ≠ scope := by
  change (state.unsetLocals.filter fun _ index => index != scope)[name]? = some level at found
  rw [Std.ExtTreeMap.getElem?_filter', Option.filter_eq_some_iff] at found
  exact ⟨found.1, by simpa using found.2⟩

/-- What remains hidden once a call is forgotten is hidden by outer calls, and they hold it. -/
theorem Backed.forget (backed : state.Backed) (tracked : Tracked calls state)
    {scope : Table (Option String)} {outer : List (Table (Option String))}
    (scopes : state.scopes = scope :: outer) {name : String} {shadow : Shadow}
    (member : shadow ∈ shadowsOf name (forgetScope outer.length state).shadows) :
    held? outer shadow.scope name = some shadow.value := by
  have level : shadow.scope ∈ levels name (forgetScope outer.length state).shadows :=
    List.mem_map_of_mem member
  have kept : shadowsOf name (forgetScope outer.length state).shadows =
      (shadowsOf name state.shadows).dropWhile (·.scope == outer.length) :=
    shadowsOf_forget outer.length tracked.distinct
  rw [kept] at member
  have before := (List.dropWhile_sublist _).mem member
  have held := backed.held name shadow before
  rwa [scopes, held?_cons, if_neg ((tracked.mem_levels_forget scopes).mp level).2] at held

/-- What a call that is closed leaves of the stacks and tables. -/
theorem closeFrame_leaves (ran : execute (closeFrame frame) state = (.ok (), last)) :
    last.scopes = state.scopes.tail ∧ last.shadows = (forgetScope frame.scope state).shadows ∧
      last.unsetLocals = (forgetScope frame.scope state).unsetLocals ∧
      last.callStacks = state.leave.callStacks ∧ last.callDepth = state.callDepth - 1 := by
  obtain ⟨_, outer, _, _, _, _, middle, scopes, -, -, -, same, rfl⟩ := closeFrame_cases ran
  have parts : _ = _ := eq_of_blind skeleton (fun state => (state.scopes,
    (forgetScope frame.scope state).shadows, (forgetScope frame.scope state).unsetLocals,
    state.leave.callStacks, state.callDepth - 1)) (fun _ => rfl) same
  rw [scopes]
  simp only [Prod.mk.injEq] at parts
  exact parts

/-- A call that is closed leaves nothing under its number. -/
theorem Fits.closing (fits : Fits ((frame, names) :: calls) state)
    (tracked : Tracked ((frame, names) :: calls) state)
    (ran : execute (closeFrame frame) state = (.ok (), last)) : Fits calls last := by
  obtain ⟨scope, outer, _, _, scopes, -, level, -⟩ := tracked.innermost
  obtain ⟨remaining, shadows, unset, sameStacks, deep⟩ := closeFrame_leaves ran
  rw [scopes, List.tail_cons] at remaining
  rw [level] at shadows unset
  have shorter : ∀ {α : Type} {stack : List α}, stack.length = ((frame, names) :: calls).length →
      stack.tail.length = calls.length := by
    intro _ stack whole
    rw [List.length_tail, whole, List.length_cons, Nat.add_sub_cancel]
  refine ⟨?_, (congrArg (·.1.length) sameStacks).trans (shorter fits.names),
    (congrArg (·.2.1.length) sameStacks).trans (shorter fits.lines),
    (congrArg (·.2.2.length) sameStacks).trans (shorter fits.sources),
    ⟨?_, fun name shadow member => ?_⟩, fun name other found => ?_⟩
  · rw [deep, fits.depth, List.length_cons, Int.natCast_succ, Int.add_sub_cancel]
  · rw [shadows]
    exact nonempty_forgetScope outer.length state
  · rw [shadows] at member
    rw [remaining]
    exact fits.backed.forget tracked scopes member
  · rw [unset] at found
    obtain ⟨before, different⟩ := getElem?_unsetLocals_forgetScope found
    have small := fits.unset name other before
    rw [scopes, List.length_cons] at small
    rw [remaining]
    omega

/-- No call has failed to close so far: the calls fit, and they are those of a history. -/
def Orderly (frames : List Frame) (state : State) : Prop :=
  ∃ calls, calls.map Prod.fst = frames ∧ History calls state ∧ Fits calls state

theorem Idle.orderly (idle : state.Idle) : Orderly [] state := by
  obtain ⟨names, others⟩ := Prod.mk.inj idle.callStacks
  obtain ⟨lines, sources⟩ := Prod.mk.inj others
  refine ⟨[], rfl, .start idle.scopes idle.saved idle.exports idle.shadows, idle.depth,
    congrArg List.length names, congrArg List.length lines, congrArg List.length sources,
    ⟨?_, ?_⟩, ?_⟩
  · simp [idle.shadows]
  · simp [idle.shadows, shadowsOf]
  · simp [idle.unset]

theorem map_fst_declaring (names : List String) (calls : List (Frame × List String)) :
    (declaring names calls).map Prod.fst = calls.map Prod.fst := by
  cases calls <;> rfl

theorem Fits.declaring (fits : Fits calls state) (names : List String) :
    Fits (declaring names calls) state := by
  have same : (State.declaring names calls).length = calls.length := by cases calls <;> rfl
  exact ⟨fits.depth.trans (congrArg _ same.symm), fits.names.trans same.symm,
    fits.lines.trans same.symm, fits.sources.trans same.symm, fits.backed, fits.unset⟩

/-- Whatever an operation does, the calls hold what they hide. -/
theorem backed_perform {κ σ : Type} (machine : Machine (Function κ) σ) (operation : Operation)
    (backed : machine.state.Backed) : (after (Session.perform operation) machine).state.Backed := by
  cases operation with
  | declareLocal name value =>
    rw [Session.state_perform_of_write machine rfl]
    exact backed.declareLocal name value
  | saveAttributes name => exact ⟨backed.nonempty, backed.held⟩
  | _ => exact backed.of_frameStacks (Session.frameStacks_perform machine rfl)

theorem Orderly.operate {κ σ : Type} {frames : List Frame} {machine : Machine (Function κ) σ}
    {operation : Operation} (orderly : Orderly frames machine.state)
    (honest : ∀ depth, operation ≠ .set (.callDepth depth)) :
    Orderly frames (after (Session.perform operation) machine).state := by
  obtain ⟨calls, rfl, history, fits⟩ := orderly
  refine ⟨_, map_fst_declaring operation.declares calls, .operate history, ?_⟩
  exact (fits.declaring _).of_notes (Session.notes_perform machine honest)
    (backed_perform machine operation fits.backed)

theorem Orderly.opening {frames : List Frame} {inside : State} {limits : Limits}
    {function : String} {source : Option String} {args : List String} {line : Option Int}
    (orderly : Orderly frames state)
    (opened : execute (openFrame limits function source args line) state = (.ok frame, inside)) :
    Orderly (frame :: frames) inside := by
  obtain ⟨calls, rfl, history, fits⟩ := orderly
  exact ⟨(frame, []) :: calls, rfl, .enter history opened, fits.opening opened⟩

theorem Orderly.closing {frames : List Frame} (orderly : Orderly (frame :: frames) state)
    (closable : state.Closable frame.scope) :
    Orderly frames (after (closeFrame frame) state) := by
  obtain ⟨calls, split, history, fits⟩ := orderly
  obtain ⟨⟨_, names⟩, others, rfl, rfl, rfl⟩ := List.map_eq_cons_iff.mp split
  obtain ⟨last, ran⟩ := history.tracked.closes closable
  rw [after_eq_of_execute ran]
  exact ⟨others, rfl, .leave history ran, fits.closing history.tracked ran⟩

/-- More calls are counted than there are scopes. -/
def Overhung (state : State) : Prop := (state.scopes.length : Int) < state.callDepth

theorem Overhung.not_wellStacked (overhung : state.Overhung) : ¬ state.WellStacked := by
  intro wellStacked
  have depth := wellStacked.depth
  rw [← wellStacked.scopes] at depth
  unfold Overhung at overhung
  omega

theorem Overhung.opening (overhung : state.Overhung) {inside : State} {limits : Limits}
    {function : String} {source : Option String} {args : List String} {line : Option Int}
    (opened : execute (openFrame limits function source args line) state = (.ok frame, inside)) :
    inside.Overhung := by
  obtain ⟨call, books⟩ := execute_openFrame_ok opened
  have depth : inside.callDepth = state.callDepth + 1 := congrArg Bookkeeping.callDepth books
  have scopes : inside.scopes.length = state.scopes.length + 1 :=
    congrArg Bookkeeping.valueScopes books
  unfold Overhung at overhung ⊢
  omega

/-- Closing a call takes one scope off, if there is one, even if it fails. -/
theorem scopes_closeFrame (frame : Frame) (state : State) :
    (after (closeFrame frame) state).scopes = state.scopes.tail := by
  have first : (after (closeFrame frame) state).scopes =
      (after (closeValues frame.scope) state).scopes := by
    unfold closeFrame
    refine Preserves.after_bind (fun _ => ?_) state
    have attributes : Preserves State.scopes closeAttributes := by
      intro state
      unfold closeAttributes
      rw [after_get_bind]
      cases state.store.saved <;> rfl
    refine attributes.bind fun restored => Preserves.bind (fun _ => rfl) fun _ => ?_
    have exports : Preserves State.scopes (closeExports restored) := by
      intro state
      unfold closeExports
      rw [after_get_bind]
      cases state.localExports <;> rfl
    refine exports.bind fun _ => Preserves.bind (fun _ => rfl) fun _ state => ?_
    cases frame.count.isNone <;> rfl
  rw [first]
  cases scopes : state.scopes with
  | nil =>
    unfold closeValues
    rw [after_get_bind, scopes]
    exact scopes
  | cons scope outer =>
    exact (eq_of_blind skeleton State.scopes (fun _ => rfl)
      (skeleton_closeValues scopes frame.scope) :)

/-- A call that fails to close loses its scope, but is counted on. -/
theorem overhung_of_failed {fault : Fault}
    (failed : execute (closeFrame frame) state = (.error fault, last))
    (deep : (state.scopes.tail.length : Int) < state.callDepth) : last.Overhung := by
  have scopes := scopes_closeFrame frame state
  have closes := closesOne_closeFrame frame state
  rw [failed] at closes
  rw [after_eq_of_execute failed] at scopes
  have depth : last.callDepth = state.callDepth := closes
  unfold Overhung
  rwa [scopes, depth]

theorem Overhung.closing (overhung : state.Overhung) (frame : Frame) :
    (after (closeFrame frame) state).Overhung := by
  unfold Overhung at overhung
  rcases ran : execute (closeFrame frame) state with ⟨fault | _, last⟩
  · rw [after_eq_of_execute ran]
    refine overhung_of_failed ran ?_
    rw [List.length_tail]
    omega
  · rw [after_eq_of_execute ran]
    obtain ⟨remaining, -, -, -, depth⟩ := closeFrame_leaves ran
    obtain ⟨scope, outer, _, _, _, _, _, scopes, -⟩ := closeFrame_cases ran
    rw [scopes, List.length_cons] at overhung
    unfold Overhung
    rw [remaining, depth, scopes, List.tail_cons]
    omega

theorem Orderly.stranding {frames : List Frame} (orderly : Orderly (frame :: frames) state)
    (single : state.SingleLine) (stuck : ¬ state.Closable frame.scope) :
    (after (closeFrame frame) state).Overhung := by
  obtain ⟨calls, split, history, fits⟩ := orderly
  obtain ⟨fault, last, failed⟩ := execute_closeFrame_of_not_closable single stuck
  rw [after_eq_of_execute failed]
  refine overhung_of_failed failed ?_
  have aligned := history.tracked.recorded.lengths.1
  have count := congrArg List.length split
  rw [List.length_map, List.length_cons] at count
  rw [List.length_tail, fits.depth]
  omega

end Calls

/-- Until a call cannot be closed the state is orderly, and from then on it is overhung. -/
theorem Course.phases {frames : List Frame} {stuck : Nat} {state : State}
    (course : Course frames stuck state) :
    (stuck = 0 → Orderly frames state) ∧ (stuck ≠ 0 → state.Overhung) := by
  induction course with
  | start idle => exact ⟨fun _ => idle.orderly, fun failed => absurd rfl failed⟩
  | @operate κ σ frames stuck machine operation _ honest inductionHypothesis =>
    refine ⟨fun none => (inductionHypothesis.1 none).operate honest, fun failed => ?_⟩
    have overhung := inductionHypothesis.2 failed
    have notes := Session.notes_perform machine honest
    unfold Overhung at overhung ⊢
    rwa [notes.scopes, notes.depth]
  | enter _ opened inductionHypothesis =>
    exact ⟨fun none => (inductionHypothesis.1 none).opening opened,
      fun failed => (inductionHypothesis.2 failed).opening opened⟩
  | refuse _ refused inductionHypothesis =>
    rw [execute_openFrame_error refused]
    exact inductionHypothesis
  | leave _ closable inductionHypothesis =>
    exact ⟨fun none => (inductionHypothesis.1 none).closing closable,
      fun failed => (inductionHypothesis.2 failed).closing _⟩
  | @strand frames frame stuck state _ single unlisted inductionHypothesis =>
    refine ⟨fun none => absurd none (Nat.succ_ne_zero stuck), fun _ => ?_⟩
    by_cases none : stuck = 0
    · exact (inductionHypothesis.1 none).stranding single unlisted
    · exact (inductionHypothesis.2 none).closing frame

/-- The stacks of calls fit together exactly as long as every call could be closed. -/
theorem wellStacked_iff_none_stuck {frames : List Frame} {stuck : Nat} {state : State}
    (course : Course frames stuck state) : state.WellStacked ↔ stuck = 0 := by
  constructor
  · intro wellStacked
    by_contra failed
    exact (course.phases.2 failed).not_wellStacked wellStacked
  · intro none
    obtain ⟨calls, -, history, fits⟩ := course.phases.1 none
    exact fits.wellStacked history.tracked

/-- The state inside a call of `f`. -/
def calling (state : State) : State := after (openFrame {} "f" none [] none) state

/-- Two calls, one in the other. In both `x` is local, and in the inner one it was unset before it
became an array. -/
def nestedCall : State :=
  let outer := after (declareLocal "x" (some "v")) (calling {})
  after (declareAssociative "x") (after (unset "x") (after (declareLocal "x" none) (calling outer)))

/-- The numbers of the calls ascend while both are open, and nothing of the inner one is left when
it is closed. -/
theorem nestedCall_wellStacked : ∃ inner outer, Course [inner, outer] 0 nestedCall ∧
    nestedCall.WellStacked ∧ nestedCall.shadows = [("x", [⟨some "v", 1⟩, ⟨none, 0⟩])] ∧
      nestedCall.unsetLocals.toList = [("x", 1)] ∧
        (after (closeFrame inner) nestedCall).WellStacked ∧
          (after (closeFrame inner) nestedCall).shadows = [("x", [⟨none, 0⟩])] ∧
            (after (closeFrame inner) nestedCall).unsetLocals.toList = [] := by
  let outer : State := after (declareLocal "x" (some "v")) (calling {})
  have idle : Idle {} := ⟨rfl, rfl, rfl, rfl, rfl, rfl, rfl⟩
  have first : Course [({} : State).frame "f"] 0 (calling {}) :=
    .enter (.start idle)
      (show execute (openFrame {} "f" none [] none) {} = (.ok (({} : State).frame "f"), _) from rfl)
  have inOuter : Course [({} : State).frame "f"] 0 outer :=
    first.write (.declareLocal "x" (some "v")) rfl (by simp)
  have second : Course [outer.frame "f", ({} : State).frame "f"] 0 (calling outer) :=
    .enter inOuter
      (show execute (openFrame {} "f" none [] none) outer = (.ok (outer.frame "f"), _) from rfl)
  have inInner : Course [outer.frame "f", ({} : State).frame "f"] 0 nestedCall :=
    ((second.write (.declareLocal "x" none) rfl (by simp)).write (.unset "x") rfl (by simp)).write
      (.declareAssociative "x") rfl (by simp)
  have hidden : nestedCall.hiddenBy 1 = ["x"] := by decide +kernel
  have closable : nestedCall.Closable (outer.frame "f").scope := by
    intro scope _ earlier array later split
    have member : array ∈ nestedCall.hiddenBy 1 := by
      rw [show nestedCall.hiddenBy 1 = _ from split]
      simp
    rw [hidden, List.mem_singleton] at member
    subst member
    have associative : nestedCall.isAssociative "x" = true := by decide +kernel
    exact fun plain => absurd (associative.symm.trans plain) (by decide)
  exact ⟨_, _, inInner, (wellStacked_iff_none_stuck inInner).mpr rfl, by decide +kernel,
    by decide +kernel, (wellStacked_iff_none_stuck (inInner.leave closable)).mpr rfl,
    by decide +kernel, by decide +kernel⟩

/-- A call that has a local array which cannot be listed is never closed. -/
theorem unlistable_array_overhangs :
    ¬ ∀ (frames : List Frame) (stuck : Nat) (state : State),
      Course frames stuck state → state.WellStacked := by
  intro all
  have idle : longIndexState.Idle := ⟨rfl, rfl, rfl, rfl, rfl, rfl, rfl⟩
  have called : Course [longIndexState.frame "f"] 0 longIndexCall :=
    .enter (.start idle) (show execute (openFrame {} "f" none [] none) longIndexState =
      (.ok (longIndexState.frame "f"), longIndexCall) from rfl)
  have single : (hide "y" longIndexCall).SingleLine := by
    unfold SingleLine
    rw [store_hide]
    exact singleLine_longIndexCall
  have present : (hide "y" longIndexCall).store.has (elementKey "y" Text.longIndex) = true := by
    rw [store_hide, Store.has_eq_isSome_get?,
      get?_longIndexCall (not_positional_element "y" _ rfl), if_pos rfl]
    rfl
  obtain ⟨fault, failed⟩ : ∃ fault, execute (declareLocal "y" none) longIndexCall =
      (.error fault, hide "y" longIndexCall) :=
    execute_declareLocal_of_long rfl rfl (by decide) rfl single present
  have declared := called.write (.declareLocal "y" none) rfl (by simp)
  rw [after_eq_of_execute failed] at declared
  have stuck : ¬ (hide "y" longIndexCall).Closable (longIndexState.frame "f").scope :=
    not_closable_of_longIndex (by decide) rfl rfl present
  have stranded := declared.strand single stuck
  exact (stranded.phases.2 (Nat.succ_ne_zero 0)).not_wellStacked (all _ _ _ stranded)

end State

end Shell
