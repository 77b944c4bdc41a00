import Shell.Proofs.Frame.Bookkeeping
import Shell.Proofs.Frame.Operation
import Shell.Proofs.Variable.Reading

/-!
# Variables that are not local to a call

Closing a call drops the new elements of its local arrays, and puts back the values
that it saved when they were made local. Both are found by key, and a key may also
be the name of another variable. What a call saved, and what it hides, is recorded
all along: each key that an open call has saved is that of a variable which the call
hides, or of one of its elements. So a variable that is not local comes out of the
call as it is, unless its name is that of an element of a local array.
-/

namespace Shell

open Running

/-- The names that an operation declares in the innermost call, or whose attributes it saves. -/
def Operation.declares : Operation → List String
  | declareLocal name _ | saveAttributes name => [name]
  | _ => []

namespace State

/-- Open calls with the names declared in each, once more names are declared in the innermost. -/
def declaring (names : List String) : List (Frame × List String) → List (Frame × List String)
  | [] => []
  | (frame, declared) :: outer => (frame, names ++ declared) :: outer

/-- States reached from one without open calls, by any operations and by opening and closing calls.
The calls are those that are open, innermost first, with the names that were declared in them. -/
inductive History : List (Frame × List String) → State → Prop
  | start {state : State} : state.scopes = [] → state.store.saved = [] → state.localExports = [] →
      state.shadows = [] → History [] state
  | operate {κ σ : Type} {calls : List (Frame × List String)} {machine : Machine (Function κ) σ}
      {operation : Operation} : History calls machine.state →
        History (declaring operation.declares calls)
          (after (Session.perform operation) machine).state
  | enter {calls : List (Frame × List String)} {state inside : State} {limits : Limits}
      {function : String} {source : Option String} {args : List String} {line : Option Int}
      {frame : Frame} : History calls state →
        execute (openFrame limits function source args line) state = (.ok frame, inside) →
          History ((frame, []) :: calls) inside
  | leave {calls : List (Frame × List String)} {frame : Frame} {names : List String}
      {state last : State} : History ((frame, names) :: calls) state →
        execute (closeFrame frame) state = (.ok (), last) → History calls last

/-- The parts of a state that only declarations, and the opening and closing of calls, change. -/
def frameStacks (state : State) : List (Table (Option String)) × List (String × List Shadow) ×
    List (Table (Option Attributes)) × Nat :=
  (state.scopes, state.shadows, state.store.saved, state.localExports.length)

theorem Edits.frameStacks {name : String} {first second : State} (edits : Edits name first second) :
    second.frameStacks = first.frameStacks :=
  eq_of_blind State.surroundings State.frameStacks (fun _ => rfl) edits.surroundings

/-- Writing a variable that a name leads to leaves the stacks alone. -/
theorem frameStacks_of_edits {name : String} {first second : State}
    (edits : ∃ target, first.LeadsTo name target ∧ Edits target first second) :
    second.frameStacks = first.frameStacks := by
  obtain ⟨target, -, edited⟩ := edits
  exact edited.frameStacks

theorem frameStacks_setPositional (values : List String) (state : State) :
    (after (setPositional values) state).frameStacks = state.frameStacks := by
  unfold frameStacks setPositional
  rw [after_changeStore, saved_replacePositional]

theorem frameStacks_exportLocal (name : String) (state : State) :
    (after (exportLocal name) state).frameStacks = state.frameStacks := by
  unfold frameStacks exportLocal
  rw [after_modify]
  cases state.localExports <;> rfl

theorem Switched.frameStacks {first second : State} (switched : Switched first second) :
    second.frameStacks = first.frameStacks := by
  cases switched <;> rfl

end State

namespace Session

open State

variable {κ σ : Type} (machine : Machine (Function κ) σ)

/-- An operation that declares nothing leaves the stacks alone, whether it succeeds or fails. -/
theorem frameStacks_perform {operation : Operation} (silent : operation.declares = []) :
    (after (perform operation) machine).state.frameStacks = machine.state.frameStacks := by
  refine relates_perform machine (fun first second => second.frameStacks = first.frameStacks)
    (fun _ => rfl) fun write writes => ?_
  cases operation with
  | setVariable _ _ | unset _ | unsetNameref _ | setArray _ _ | setElement _ _ _
  | setAssociativeArray _ _ | declareAssociative _ | clearArray _ | put _ _ | take _
  | putNameref _ _ =>
    exact frameStacks_of_edits (edits_write rfl writes machine.state)
  | addAttribute _ _ | dropAttribute _ _ | syncListings =>
    cases writes
    rfl
  | setPositional values =>
    cases writes
    exact frameStacks_setPositional values machine.state
  | set setting =>
    cases writes
    cases setting <;> rfl
  | setOption option on =>
    cases writes
    exact (switched_setOption option on machine.state).frameStacks
  | setFlag flag on =>
    cases writes
    exact (switched_setFlag flag on machine.state).frameStacks
  | setShopt option on =>
    cases writes
    exact (switched_setShopt option on machine.state).frameStacks
  | exportLocal other =>
    cases writes
    exact frameStacks_exportLocal other machine.state
  | saveAttributes _ | declareLocal _ _ => exact nomatch silent
  | _ => exact nomatch writes

end Session

namespace State

/-- The calls that hide a name, innermost first. -/
def levels (name : String) (shadows : List (String × List Shadow)) : List Nat :=
  (shadowsOf name shadows).map (·.scope)

section Levels

variable {name : String} {state : State}

theorem levels_addShadow (name other : String) (shadow : Shadow)
    (shadows : List (String × List Shadow)) :
    levels name (addShadow other shadow shadows) =
      if other = name then shadow.scope :: levels name shadows else levels name shadows := by
  unfold levels
  rw [shadowsOf_addShadow]
  split <;> rfl

theorem mem_levels_addShadow {other : String} {shadow : Shadow}
    {shadows : List (String × List Shadow)} {level : Nat} :
    level ∈ levels name (addShadow other shadow shadows) ↔
      (other = name ∧ level = shadow.scope) ∨ level ∈ levels name shadows := by
  rw [levels_addShadow]
  by_cases same : other = name <;> simp [same]

theorem levels_forget (distinct : (state.shadows.map (·.1)).Nodup) (name : String)
    (scope : Nat) :
    levels name (forgetScope scope state).shadows =
      (levels name state.shadows).dropWhile (· == scope) := by
  unfold levels
  rw [List.dropWhile_map]
  exact congrArg _ (shadowsOf_forget scope distinct)

/-- Only the first of descending numbers can be the largest one. -/
theorem mem_dropWhile_top {numbers : List Nat} {top level : Nat}
    (descending : numbers.Pairwise (· > ·)) (bounded : ∀ n ∈ numbers, n ≤ top) :
    level ∈ numbers.dropWhile (· == top) ↔ level ∈ numbers ∧ level ≠ top := by
  cases numbers with
  | nil => simp
  | cons first rest =>
    obtain ⟨above, further⟩ := List.pairwise_cons.mp descending
    have small : ∀ n ∈ rest, n ≠ top := by
      intro n member
      have less := above n member
      have most := bounded first (by simp)
      omega
    by_cases same : first = top
    · have kept : rest.dropWhile (· == top) = rest := by
        cases rest with
        | nil => rfl
        | cons second more => simp [small second (by simp)]
      rw [List.dropWhile_cons_of_pos (by simp [same]), kept, List.mem_cons]
      constructor
      · intro member
        exact ⟨.inr member, small level member⟩
      · rintro ⟨rfl | member, different⟩
        · exact absurd same different
        · exact member
    · rw [List.dropWhile_cons_of_neg (by simp [same]), List.mem_cons]
      refine ⟨fun member => ⟨member, ?_⟩, And.left⟩
      rcases member with rfl | inRest
      · exact same
      · exact small level inRest

end Levels

/-- What an open call has saved belongs to variables that it hides, and they were declared in it. -/
structure Entry (shadows : List (String × List Shadow)) (level : Nat) (names : List String)
    (scope : Table (Option String)) (saved : Table (Option Attributes)) : Prop where
  owned : ∀ key, scope.contains key = true → ∃ name, level ∈ levels name shadows ∧ Owns name key
  values : ∀ name, level ∈ levels name shadows → scope.contains name = true
  declared : ∀ name, level ∈ levels name shadows → name ∈ names
  attributes : ∀ name ∈ saved, name ∈ names

section Entries

variable {shadows : List (String × List Shadow)} {level : Nat} {names : List String}
  {scope : Table (Option String)} {saved : Table (Option Attributes)} {name key : String}

/-- A value of a hidden variable is saved. -/
theorem Entry.saveValue (entry : Entry shadows level names scope saved)
    (hides : level ∈ levels name shadows) (owned : Owns name key) (value : Option String) :
    Entry shadows level names (scope.insertIfNew key value) saved := by
  refine ⟨?_, ?_, entry.declared, entry.attributes⟩
  · intro other contained
    rw [Std.ExtTreeMap.contains_insertIfNew, Bool.or_eq_true, beq_iff_eq] at contained
    rcases contained with same | before
    · rw [← Std.LawfulEqOrd.compare_eq_iff_eq.mp same]
      exact ⟨name, hides, owned⟩
    · exact entry.owned other before
  · intro other hidden
    rw [Std.ExtTreeMap.contains_insertIfNew, entry.values other hidden, Bool.or_true]

/-- A declared variable is hidden. -/
theorem Entry.hide (entry : Entry shadows level names scope saved) (declared : name ∈ names)
    (value : Option String) :
    Entry (addShadow name ⟨value, level⟩ shadows) level names (scope.insertIfNew name value)
      saved := by
  refine ⟨?_, ?_, ?_, entry.attributes⟩
  · intro other contained
    rw [Std.ExtTreeMap.contains_insertIfNew, Bool.or_eq_true, beq_iff_eq] at contained
    rcases contained with same | before
    · rw [← Std.LawfulEqOrd.compare_eq_iff_eq.mp same]
      exact ⟨name, mem_levels_addShadow.mpr (.inl ⟨rfl, rfl⟩), owns_self name⟩
    · obtain ⟨hidden, hides, owns⟩ := entry.owned other before
      exact ⟨hidden, mem_levels_addShadow.mpr (.inr hides), owns⟩
  · intro other hides
    rw [Std.ExtTreeMap.contains_insertIfNew]
    rcases mem_levels_addShadow.mp hides with ⟨rfl, -⟩ | before
    · simp
    · rw [entry.values other before, Bool.or_true]
  · intro other hides
    rcases mem_levels_addShadow.mp hides with ⟨rfl, -⟩ | before
    · exact declared
    · exact entry.declared other before

end Entries

/-- Every open call has its entry on each stack. -/
inductive Recorded (shadows : List (String × List Shadow)) : List (Frame × List String) →
    List (Table (Option String)) → List (Table (Option Attributes)) → Prop
  | nil : Recorded shadows [] [] []
  | cons {frame : Frame} {names : List String} {calls : List (Frame × List String)}
      {scope : Table (Option String)} {scopes : List (Table (Option String))}
      {saved : Table (Option Attributes)} {outer : List (Table (Option Attributes))} :
      frame.scope = scopes.length → Entry shadows scopes.length names scope saved →
        Recorded shadows calls scopes outer →
          Recorded shadows ((frame, names) :: calls) (scope :: scopes) (saved :: outer)

/-- Only hiding in the open calls matters. -/
theorem Recorded.congr {first second : List (String × List Shadow)}
    {calls : List (Frame × List String)} {scopes : List (Table (Option String))}
    {saved : List (Table (Option Attributes))} (recorded : Recorded first calls scopes saved)
    (same : ∀ name, ∀ level < scopes.length,
      level ∈ levels name second ↔ level ∈ levels name first) :
    Recorded second calls scopes saved := by
  induction recorded with
  | nil => exact .nil
  | @cons frame names calls scope scopes saved outer level entry _ inductionHypothesis =>
    have here : ∀ name, scopes.length ∈ levels name second ↔ scopes.length ∈ levels name first :=
      fun name => same name _ (by simp)
    refine .cons level ⟨?_, ?_, ?_, entry.attributes⟩ (inductionHypothesis ?_)
    · intro key contained
      obtain ⟨name, hides, owns⟩ := entry.owned key contained
      exact ⟨name, (here name).mpr hides, owns⟩
    · exact fun name hides => entry.values name ((here name).mp hides)
    · exact fun name hides => entry.declared name ((here name).mp hides)
    · exact fun name level less => same name level (Nat.lt_succ_of_lt less)

/-- The record of the open calls in a state is complete, and in order. -/
structure Tracked (calls : List (Frame × List String)) (state : State) : Prop where
  distinct : (state.shadows.map (·.1)).Nodup
  descending : ∀ name, (levels name state.shadows).Pairwise (· > ·)
  bounded : ∀ name, ∀ level ∈ levels name state.shadows, level < state.scopes.length
  exports : state.localExports.length = calls.length
  recorded : Recorded state.shadows calls state.scopes state.store.saved

section Tracking

variable {calls : List (Frame × List String)} {frame : Frame} {names : List String}
  {state last : State}

theorem Tracked.of_frameStacks (tracked : Tracked calls state)
    (same : last.frameStacks = state.frameStacks) : Tracked calls last := by
  obtain ⟨scopes, shadows, saved, exports⟩ : last.scopes = state.scopes ∧
      last.shadows = state.shadows ∧ last.store.saved = state.store.saved ∧
        last.localExports.length = state.localExports.length := by
    simpa only [frameStacks, Prod.mk.injEq] using same
  refine ⟨?_, ?_, ?_, ?_, ?_⟩
  · rw [shadows]
    exact tracked.distinct
  · rw [shadows]
    exact tracked.descending
  · rw [shadows, scopes]
    exact tracked.bounded
  · rw [exports]
    exact tracked.exports
  · rw [shadows, scopes, saved]
    exact tracked.recorded

theorem Tracked.declaring (tracked : Tracked calls state) (names : List String) :
    Tracked (declaring names calls) state := by
  cases calls with
  | nil => exact tracked
  | cons call calls =>
    obtain ⟨frame, declared⟩ := call
    refine ⟨tracked.distinct, tracked.descending, tracked.bounded, tracked.exports, ?_⟩
    have recorded := tracked.recorded
    generalize state.scopes = scopes at recorded ⊢
    generalize state.store.saved = saved at recorded ⊢
    cases recorded with
    | cons level entry outer =>
      refine .cons level ⟨entry.owned, entry.values, ?_, ?_⟩ outer
      · exact fun name hides => List.mem_append_right names (entry.declared name hides)
      · exact fun name member => List.mem_append_right names (entry.attributes name member)

/-- The attributes of a declared name are saved. -/
theorem Tracked.saveAttributes (tracked : Tracked calls state) {name : String}
    (declared : ∀ call ∈ calls.head?, name ∈ call.2) :
    Tracked calls { state with store := state.store.saveAttributes name } := by
  refine ⟨tracked.distinct, tracked.descending, tracked.bounded, tracked.exports, ?_⟩
  have recorded := tracked.recorded
  unfold Store.saveAttributes
  generalize state.scopes = scopes at recorded ⊢
  cases stack : state.store.saved with
  | nil =>
    rw [stack] at recorded
    dsimp only
    rw [stack]
    exact recorded
  | cons saved outer =>
    rw [stack] at recorded
    cases recorded with
    | cons level entry rest =>
      refine .cons level ⟨entry.owned, entry.values, entry.declared, ?_⟩ rest
      intro other member
      rcases Std.ExtTreeMap.mem_insertIfNew.mp member with same | before
      · rw [← Std.LawfulEqOrd.compare_eq_iff_eq.mp same]
        exact declared _ rfl
      · exact entry.attributes other before

/-- A value of a variable that the call hides is saved. -/
theorem Tracked.saveValue (tracked : Tracked calls state) {name key : String}
    (hides : state.scopes.length - 1 ∈ levels name state.shadows) (owned : Owns name key)
    (value : Option String) : Tracked calls (saveValue key value state) := by
  unfold State.saveValue
  cases scopes : state.scopes with
  | nil => exact tracked
  | cons scope outer =>
    have bounded := tracked.bounded
    have recorded := tracked.recorded
    rw [scopes] at hides bounded recorded
    refine ⟨tracked.distinct, tracked.descending, bounded, tracked.exports, ?_⟩
    dsimp only
    generalize state.store.saved = saved at recorded ⊢
    cases recorded with
    | cons level entry rest => exact .cons level (entry.saveValue hides owned value) rest

/-- A declared name is hidden that is not local yet. -/
theorem Tracked.hide (tracked : Tracked ((frame, names) :: calls) state) {name : String}
    (declared : name ∈ names) (fresh : state.isLocal name = false) :
    Tracked ((frame, names) :: calls) (hide name state) ∧
      (hide name state).scopes.length - 1 ∈ levels name (hide name state).shadows := by
  have bounded := tracked.bounded
  have recorded := tracked.recorded
  unfold isLocal at fresh
  unfold State.hide State.saveValue
  generalize stack : state.store.saved = saved at recorded
  generalize state.store.get? name = value
  cases scopes : state.scopes with
  | nil =>
    rw [scopes] at recorded
    cases recorded
  | cons scope outer =>
    rw [scopes] at fresh bounded recorded
    cases recorded with
    | cons level entry rest =>
      have below : ∀ n ∈ levels name state.shadows, n < outer.length := by
        intro n member
        have small : n < outer.length + 1 := bounded name n member
        have different : n ≠ outer.length := by
          rintro rfl
          exact absurd ((entry.values name member).symm.trans fresh) (by decide)
        omega
      refine ⟨⟨nodup_names_addShadow tracked.distinct, ?_, ?_, tracked.exports, ?_⟩,
        mem_levels_addShadow.mpr (.inl ⟨rfl, rfl⟩)⟩
      · intro other
        change (levels other (addShadow _ _ _)).Pairwise _
        rw [levels_addShadow]
        split
        · rename_i same
          subst same
          exact List.pairwise_cons.mpr ⟨below, tracked.descending name⟩
        · exact tracked.descending other
      · intro other n member
        rcases mem_levels_addShadow.mp member with ⟨-, rfl⟩ | before
        · exact Nat.lt_succ_self _
        · exact bounded other n before
      · change Recorded _ _ _ state.store.saved
        rw [stack]
        refine .cons level (entry.hide declared value) (rest.congr fun other n less => ?_)
        exact mem_levels_addShadow.trans (or_iff_right fun both => Nat.ne_of_lt less both.2)

theorem Tracked.saveElement (tracked : Tracked calls state) {name key : String}
    (hides : state.scopes.length - 1 ∈ levels name state.shadows) (owned : Owns name key) :
    Tracked calls (after (saveElement key) state) := by
  unfold State.saveElement
  rw [after_get_bind]
  split
  · exact tracked.saveValue hides owned _
  · exact tracked

theorem shadows_saveElement (key : String) (state : State) :
    (after (saveElement key) state).shadows = state.shadows := by
  unfold State.saveElement
  rw [after_get_bind]
  split
  · rw [after_modify]
    unfold State.saveValue
    cases state.scopes <;> rfl
  · rfl

/-- The elements of a variable that the call hides are saved, as far as that goes. -/
theorem Tracked.saveElements {name : String} {keys : List String}
    (owned : ∀ key ∈ keys, Owns name key) (tracked : Tracked calls state)
    (hides : state.scopes.length - 1 ∈ levels name state.shadows) :
    Tracked calls (after (keys.forM State.saveElement) state) := by
  let Keeps (first second : State) : Prop :=
    Tracked calls first ∧ first.scopes.length - 1 ∈ levels name first.shadows →
      Tracked calls second ∧ second.scopes.length - 1 ∈ levels name second.shadows
  have all : Keeps state (after (keys.forM State.saveElement) state) := by
    refine after_forM Keeps (fun _ => id) (fun before next start => next (before start)) ?_ state
    rintro key member state ⟨tracked, hides⟩
    have depth : (after (State.saveElement key) state).scopes.length = state.scopes.length :=
      congrArg Bookkeeping.valueScopes (preserves_saveElement key state)
    refine ⟨tracked.saveElement hides (owned key member), ?_⟩
    rw [shadows_saveElement, depth]
    exact hides
  exact (all ⟨tracked, hides⟩).1

theorem Tracked.startLocal (tracked : Tracked ((frame, names) :: calls) state) {name : String}
    (declared : name ∈ names) (fresh : state.isLocal name = false) :
    Tracked ((frame, names) :: calls) (after (startLocal name) state) := by
  obtain ⟨hidden, hides⟩ := tracked.hide declared fresh
  unfold State.startLocal
  rw [after, execute_modify_bind, execute_get_bind, ← after]
  cases listing : (State.hide name state).elementKeys name with
  | error fault => exact hidden
  | ok keys =>
    exact hidden.saveElements (fun key member => owns_of_mem_elementKeys listing member) hides

theorem Tracked.finishLocal (tracked : Tracked calls state) {name : String}
    (declared : ∀ call ∈ calls.head?, name ∈ call.2) (value : Option String) :
    Tracked calls (after (finishLocal name value) state) := by
  obtain ⟨last, ran, edits⟩ := execute_finishLocal name value state
  rw [after_eq_of_execute ran]
  have saved : Tracked calls (withSavedAttributes name state) :=
    (tracked.saveAttributes declared).of_frameStacks rfl
  exact saved.of_frameStacks edits.frameStacks

theorem Tracked.declareLocal (tracked : Tracked calls state) (name : String)
    (value : Option String) :
    Tracked (State.declaring [name] calls) (after (declareLocal name value) state) := by
  have extended := tracked.declaring [name]
  rw [after, execute_declareLocal_eq]
  split
  · exact extended
  rename_i inCall
  split
  · exact extended
  cases calls with
  | nil =>
    have recorded := tracked.recorded
    generalize state.scopes = scopes at recorded inCall
    generalize state.store.saved = saved at recorded
    cases recorded
    contradiction
  | cons call calls =>
    obtain ⟨frame, names⟩ := call
    have declared : ∀ call ∈ (State.declaring [name] ((frame, names) :: calls)).head?,
        name ∈ call.2 := by
      simp [State.declaring]
    split
    · exact extended.finishLocal declared value
    · rename_i fresh
      have started := extended.startLocal (show name ∈ [name] ++ names by simp)
        (by simpa using fresh)
      cases ran : execute (State.startLocal name) state with
      | mk result middle =>
        rw [after_eq_of_execute ran] at started
        cases result with
        | error fault =>
          rw [execute_bind_of_error ran]
          exact started
        | ok _ =>
          rw [execute_bind_of_ok ran]
          exact started.finishLocal declared value

theorem Tracked.opening (tracked : Tracked calls state) {inside : State} {limits : Limits}
    {function : String} {source : Option String} {args : List String} {line : Option Int}
    (opened : execute (openFrame limits function source args line) state = (.ok frame, inside)) :
    Tracked ((frame, []) :: calls) inside := by
  unfold openFrame at opened
  rw [execute_get_bind] at opened
  split at opened
  · cases opened
  · cases opened
    refine ⟨tracked.distinct, tracked.descending, ?_, congrArg Nat.succ tracked.exports, ?_⟩
    · exact fun name level member => Nat.lt_succ_of_lt (tracked.bounded name level member)
    · change Recorded _ _ _ (replacePositional _ args).saved
      rw [saved_replacePositional]
      refine .cons rfl ⟨?_, ?_, ?_, ?_⟩ tracked.recorded
      · intro key contained
        simp at contained
      · exact fun name hides => absurd (tracked.bounded name _ hides) (Nat.lt_irrefl _)
      · exact fun name hides => absurd (tracked.bounded name _ hides) (Nat.lt_irrefl _)
      · intro name member
        simp at member

/-- Of the calls that hide a name, only the one that is closed is forgotten. -/
theorem Tracked.mem_levels_forget (tracked : Tracked calls state) {scope : Table (Option String)}
    {outer : List (Table (Option String))} (scopes : state.scopes = scope :: outer) {name : String}
    {level : Nat} :
    level ∈ levels name (forgetScope outer.length state).shadows ↔
      level ∈ levels name state.shadows ∧ level ≠ outer.length := by
  have bounded := tracked.bounded name
  rw [scopes] at bounded
  rw [levels_forget tracked.distinct]
  exact mem_dropWhile_top (tracked.descending name) fun n member =>
    Nat.le_of_lt_succ (bounded n member)

theorem Tracked.closing (tracked : Tracked ((frame, names) :: calls) state)
    (ran : execute (closeFrame frame) state = (.ok (), last)) : Tracked calls last := by
  obtain ⟨scope, outer, saved, savedOuter, exported, exports, middle, scopes, stack, exportStack, -,
    same, rfl⟩ := closeFrame_cases ran
  have shadows : middle.shadows = state.shadows :=
    (eq_of_blind skeleton State.shadows (fun _ => rfl) same :)
  have outerScopes : middle.scopes = outer :=
    (eq_of_blind skeleton State.scopes (fun _ => rfl) same :)
  have recorded := tracked.recorded
  have bounded := tracked.bounded
  have aligned := tracked.exports
  rw [scopes, stack] at recorded
  rw [scopes] at bounded
  rw [exportStack] at aligned
  cases recorded with
  | cons level entry rest =>
    have left : (closed frame saved savedOuter exported exports middle).shadows =
        (forgetScope outer.length state).shadows := by
      change (forgetScope frame.scope middle).shadows = _
      unfold forgetScope
      rw [shadows, level]
    refine ⟨?_, ?_, ?_, Nat.succ.inj aligned, ?_⟩
    · rw [left]
      exact (names_forget_sublist outer.length state.shadows).nodup tracked.distinct
    · intro name
      rw [left, levels_forget tracked.distinct]
      exact (tracked.descending name).sublist (List.dropWhile_sublist _)
    · intro name n member
      rw [left, tracked.mem_levels_forget scopes] at member
      have small : n < outer.length + 1 := bounded name n member.1
      change n < middle.scopes.length
      rw [outerScopes]
      omega
    · rw [saved_closed, left]
      change Recorded _ calls middle.scopes savedOuter
      rw [outerScopes]
      refine rest.congr fun name n less => ?_
      rw [tracked.mem_levels_forget scopes, and_iff_left (Nat.ne_of_lt less)]

/-- Whatever happens, the record is complete. -/
theorem History.tracked (history : History calls state) : Tracked calls state := by
  induction history with
  | start scopes saved exports shadows =>
    refine ⟨?_, ?_, ?_, ?_, ?_⟩
    · simp [shadows]
    · simp [shadows, levels, shadowsOf]
    · simp [shadows, levels, shadowsOf]
    · simp [exports]
    · rw [shadows, scopes, saved]
      exact .nil
  | @operate κ σ calls machine operation _ inductionHypothesis =>
    cases operation with
    | declareLocal name value =>
      rw [Session.state_perform_of_write machine rfl]
      exact inductionHypothesis.declareLocal name value
    | saveAttributes name =>
      rw [Session.state_perform_of_write machine rfl]
      refine (inductionHypothesis.declaring [name]).saveAttributes ?_
      cases calls <;> simp [declaring]
    | _ =>
      exact (inductionHypothesis.declaring []).of_frameStacks
        (Session.frameStacks_perform machine rfl)
  | enter _ opened inductionHypothesis => exact inductionHypothesis.opening opened
  | leave _ ran inductionHypothesis => exact inductionHypothesis.closing ran

end Tracking

/-- Wherever the name is that of an element of a local array of the call, its value is the one that
was saved with the array; if none was saved, then it does not count as an element now. -/
def Unharmed (state : State) (frame : Frame) (name : String) : Prop :=
  ∀ scope ∈ state.scopes.head?, ∀ array ∈ state.hiddenBy frame.scope, ∀ suffix,
    name = elementKey array suffix →
      match scope[name]? with
      | some saved => saved = state.store.get? name
      | none => state.isAssociative array = false ∧ Text.isIndex suffix.toList = false

/-- If the name is one under which the call stack is read, then it reads the same in the caller. -/
def CallsAlike (state : State) (name : String) : Prop :=
  ∀ values inCaller, state.callArray? name = some values →
    state.leave.callArray? name = some inCaller →
      (·.headD "") <$> inCaller = (·.headD "") <$> values

section Closing

variable {calls : List (Frame × List String)} {frame : Frame} {names : List String} {name : String}
  {state last : State} {scope : Table (Option String)} {outer : List (Table (Option String))}

theorem Tracked.mem_hiddenBy (tracked : Tracked calls state)
    (scopes : state.scopes = scope :: outer) {array : String} :
    array ∈ state.hiddenBy outer.length ↔ outer.length ∈ levels array state.shadows := by
  rw [State.mem_hiddenBy tracked.distinct, ← List.head?_map]
  have descending := tracked.descending array
  have bounded := tracked.bounded array
  rw [scopes] at bounded
  change (levels array state.shadows).head? = some outer.length ↔ _
  constructor
  · exact List.mem_of_mem_head?
  · intro member
    cases listing : levels array state.shadows with
    | nil =>
      rw [listing] at member
      contradiction
    | cons first rest =>
      rw [listing] at descending bounded member
      have most : first < outer.length + 1 := bounded first (by simp)
      rcases List.mem_cons.mp member with same | inRest
      · rw [same]
        rfl
      · have less := (List.pairwise_cons.mp descending).1 _ inRest
        omega

/-- The innermost call of a tracked state. -/
theorem Tracked.innermost (tracked : Tracked ((frame, names) :: calls) state) :
    ∃ scope outer saved savedOuter, state.scopes = scope :: outer ∧
      state.store.saved = saved :: savedOuter ∧ frame.scope = outer.length ∧
      Entry state.shadows outer.length names scope saved := by
  have recorded := tracked.recorded
  generalize state.scopes = scopes at recorded
  generalize state.store.saved = stack at recorded
  cases recorded with
  | cons level entry rest => exact ⟨_, _, _, _, rfl, rfl, level, entry⟩

/-- A call whose local arrays can be listed is closed. -/
theorem Tracked.closes (tracked : Tracked ((frame, names) :: calls) state)
    (closable : state.Closable frame.scope) :
    ∃ last, execute (closeFrame frame) state = (.ok (), last) := by
  obtain ⟨scope, outer, saved, savedOuter, scopes, stack, -, -⟩ := tracked.innermost
  obtain ⟨exported, exports, exportStack⟩ := List.exists_cons_of_length_eq_add_one tracked.exports
  obtain ⟨dropped, values, -⟩ := execute_closeValues scopes closable
  exact ⟨_, execute_closeFrame values ((saved_withValuesBack _ _ _ _).trans stack) exportStack⟩

/-- A key that the call has saved, and that is not declared in it, is that of an element. -/
theorem Entry.exists_array {shadows : List (String × List Shadow)} {level : Nat}
    {saved : Table (Option Attributes)} (entry : Entry shadows level names scope saved)
    (elsewhere : name ∉ names) (contained : scope.contains name = true) :
    ∃ array suffix, level ∈ levels array shadows ∧ name = elementKey array suffix := by
  obtain ⟨array, hides, rfl | ⟨suffix, longer⟩⟩ := entry.owned name contained
  · exact absurd (entry.declared name hides) elsewhere
  · exact ⟨array, suffix, hides, longer⟩

/-- Of the keys that are there, and have no newlines, those of new elements are dropped. -/
theorem eq_of_execute_dropLocals {arrays : List String} {value : Unit}
    (ran : execute (arrays.forM (dropLocalElements scope)) state = (.ok value, last)) :
    ∃ dropped, last = { state with store := state.store.dropAll dropped } ∧
      ∀ key, state.store.has key = true → '\n' ∉ key.toList →
        (key ∈ dropped ↔ ∃ array ∈ arrays, state.Lists array key ∧ scope.contains key = false) := by
  induction arrays generalizing state with
  | nil =>
    cases ran
    exact ⟨[], rfl, by simp⟩
  | cons array rest inductionHypothesis =>
    rw [execute_forM_cons] at ran
    obtain ⟨_, middle, first, others⟩ := execute_bind_eq_ok.mp ran
    unfold dropLocalElements at first
    rw [execute_get_bind] at first
    cases listing : state.elementKeys array with
    | error fault =>
      rw [listing] at first
      cases first
    | ok keys =>
      rw [listing] at first
      change execute (keys.forM _) state = _ at first
      rw [forM_unless] at first
      have here := eq_of_execute_dropKeys first
      subst here
      obtain ⟨dropped, rfl, listed⟩ := inductionHypothesis others
      refine ⟨keys.filter (fun key => !scope.contains key) ++ dropped, ?_, ?_⟩
      · simp only [Store.dropAll, List.foldl_append]
      · intro key present single
        have now : key ∈ keys.filter (fun key => !scope.contains key) ↔
            state.Lists array key ∧ scope.contains key = false := by
          rw [List.mem_filter, mem_elementKeys_iff listing present single, Bool.not_eq_true']
        rw [List.mem_append, List.exists_mem_cons_iff, ← now]
        by_cases gone : key ∈ keys.filter fun key => !scope.contains key
        · exact iff_of_true (.inl gone) (.inl gone)
        · rw [or_iff_right gone, or_iff_right gone,
            listed key ((has_dropAll _ _ _).mpr ⟨present, gone⟩) single]
          simp only [lists_dropAll, gone, not_false_eq_true, and_true]

/-- What is under a key of the store after the call. -/
theorem get?_closeFrame (scopes : state.scopes = scope :: outer)
    (identifier : Text.isIdentifier name.toList = true) (bound : state.store.has name = true)
    (ran : execute (closeFrame frame) state = (.ok (), last)) :
    ∃ dropped : List String, last.store.get? name =
        scope[name]?.getD (if name ∈ dropped then none else state.store.get? name) ∧
      (name ∈ dropped ↔ ∃ array ∈ state.hiddenBy frame.scope, state.Lists array name ∧
        scope.contains name = false) := by
  have named := Text.isName_of_isIdentifier identifier
  obtain ⟨_, _, _, _, _, _, middle, -, -, -, values, -, rfl⟩ := closeFrame_cases ran
  rw [execute_closeValues_eq scopes] at values
  obtain ⟨_, emptied, drop, back⟩ := execute_bind_eq_ok.mp values
  obtain ⟨dropped, rfl, listed⟩ := eq_of_execute_dropLocals drop
  cases back
  refine ⟨dropped, ?_, listed name bound (Text.newline_notMem_of_isIdentifier identifier)⟩
  rw [get?_closed _ _ _ _ _ _ (not_positional_of_owns named (owns_self name))]
  refine (get?_restoreValues _ scope name).trans ?_
  rw [Store.get?_dropAll]

/-- The value of a bystander survives the call exactly if it is unharmed. -/
theorem get?_closeFrame_eq_iff (tracked : Tracked ((frame, names) :: calls) state)
    (identifier : Text.isIdentifier name.toList = true) (elsewhere : name ∉ names)
    (bound : state.store.has name = true)
    (ran : execute (closeFrame frame) state = (.ok (), last)) :
    last.store.get? name = state.store.get? name ↔ state.Unharmed frame name := by
  obtain ⟨scope, outer, saved, savedOuter, scopes, -, level, entry⟩ := tracked.innermost
  obtain ⟨dropped, value, drops⟩ := get?_closeFrame scopes identifier bound ran
  rw [value]
  rw [level] at drops
  unfold Unharmed
  simp only [scopes, List.head?_cons, Option.mem_some_iff, forall_eq', level]
  cases found : scope[name]? with
  | some kept =>
    have contained : scope.contains name = true := by
      rw [← Std.ExtTreeMap.isSome_getElem?_eq_contains, found]
      rfl
    obtain ⟨array, suffix, hides, longer⟩ := entry.exists_array elsewhere contained
    have hidden : array ∈ state.hiddenBy outer.length := (tracked.mem_hiddenBy scopes).mpr hides
    exact ⟨fun same _ _ _ _ => same, fun unharmed => unharmed array hidden suffix longer⟩
  | none =>
    have free : scope.contains name = false := by
      rw [← Std.ExtTreeMap.isSome_getElem?_eq_contains, found]
      rfl
    obtain ⟨present, held⟩ := Option.isSome_iff_exists.mp
      ((Store.has_eq_isSome_get? _ _).symm.trans bound)
    have kept : Option.getD none (if name ∈ dropped then none else state.store.get? name) =
        state.store.get? name ↔ name ∉ dropped := by
      rw [held]
      by_cases member : name ∈ dropped <;> simp [member]
    rw [kept, drops]
    constructor
    · intro undropped array hidden suffix longer
      by_contra counted
      refine undropped ⟨array, hidden, ⟨bound, suffix, longer, ?_⟩, free⟩
      rw [not_and_or, Bool.not_eq_false, Bool.not_eq_false] at counted
      exact counted
    · rintro unharmed ⟨array, hidden, ⟨-, suffix, longer, counted⟩, -⟩
      obtain ⟨plain, word⟩ := unharmed array hidden suffix longer
      rw [plain, word] at counted
      simp at counted

end Closing

section Reading

variable {calls : List (Frame × List String)} {frame : Frame} {names : List String} {name : String}
  {state last : State}

/-- What the shell computes under an identifier depends on neither. -/
theorem computed?_uncalled (identifier : Text.isIdentifier name.toList = true) (state : State) :
    state.uncalled.computed? name = state.computed? name := by
  unfold computed?
  split
  -- The parameters whose names are no identifiers.
  case h_1 | h_2 | h_4 | h_5 | h_6 | h_7 | h_8 | h_10 => exact absurd identifier (by decide)
  all_goals rfl

theorem computed?_of_callArray {values : Except Fault (List String)}
    (found : state.callArray? name = some values) : state.computed? name = none := by
  unfold callArray? at found
  split at found
  · subst name
    rfl
  · split at found
    · subst name
      rfl
    · split at found
      · subst name
        rfl
      · contradiction

/-- The caller has the same stacks, though not the innermost call. -/
theorem isSome_callArray?_leave (state : State) (name : String) :
    (state.leave.callArray? name).isSome = (state.callArray? name).isSome := by
  unfold callArray?
  repeat' split
  all_goals rfl

theorem callArray?_closeFrame (ran : execute (closeFrame frame) state = (.ok (), last))
    (name : String) : last.callArray? name = state.leave.callArray? name := by
  obtain ⟨_, _, _, _, _, _, middle, -, -, -, -, same, rfl⟩ := closeFrame_cases ran
  exact (eq_of_blind skeleton (fun state => state.leave.callArray? name) (fun _ => rfl) same :)

/-- A name that is not declared in a call is no more or less of a nameref after it. -/
theorem isNameref_closeFrame (tracked : Tracked ((frame, names) :: calls) state)
    (elsewhere : name ∉ names) (ran : execute (closeFrame frame) state = (.ok (), last)) :
    last.store.isNameref name = state.store.isNameref name := by
  obtain ⟨_, _, saved, _, -, stack, -, entry⟩ := tracked.innermost
  obtain ⟨_, _, _, _, _, _, middle, -, otherStack, -, -, same, rfl⟩ := closeFrame_cases ran
  rw [stack] at otherStack
  obtain ⟨rfl, -⟩ := List.cons.inj otherStack
  have unsaved : name ∉ saved := fun member => elsewhere (entry.attributes name member)
  refine (hasAttribute_closed _ _ _ _ _ _ unsaved (by decide)).trans ?_
  exact (eq_of_blind skeleton (fun state => state.store.isNameref name) (fun _ => rfl) same :)

/-- A bystander that keeps its value is read as before exactly if the calls are alike. -/
theorem reading_closeFrame_iff (tracked : Tracked ((frame, names) :: calls) state)
    (identifier : Text.isIdentifier name.toList = true) (elsewhere : name ∉ names)
    (bound : state.store.has name = true) (plain : state.store.isNameref name = false)
    (ran : execute (closeFrame frame) state = (.ok (), last))
    (same : last.store.get? name = state.store.get? name) :
    (execute (reading fun state => state.value name) last).1 =
        (execute (reading fun state => state.value name) state).1 ↔ state.CallsAlike name := by
  have stillPlain := (isNameref_closeFrame tracked elsewhere ran).trans plain
  have outside := preserves_uncalled_closeFrame frame state
  rw [after_eq_of_execute ran] at outside
  have computed : last.computed? name = state.computed? name :=
    eq_of_blind uncalled (State.computed? · name) (computed?_uncalled identifier) outside
  have queries : last.queries = state.queries :=
    (eq_of_blind uncalled State.queries (fun _ => rfl) outside :)
  obtain ⟨value, held⟩ := Option.isSome_iff_exists.mp
    ((Store.has_eq_isSome_get? _ _).symm.trans bound)
  rw [execute_reading_eq, execute_reading_eq, value_of_isIdentifier identifier plain,
    value_of_isIdentifier identifier stillPlain, computed, queries]
  unfold stored CallsAlike
  rw [callArray?_closeFrame ran, same, held]
  have asCalled := isSome_callArray?_leave state name
  cases found : state.callArray? name with
  | none =>
    rw [found] at asCalled
    have caller : state.leave.callArray? name = none := by simpa using asCalled
    rw [caller]
    simp
  | some values =>
    rw [found] at asCalled
    obtain ⟨inCaller, caller⟩ := Option.isSome_iff_exists.mp asCalled
    rw [computed?_of_callArray found, caller]
    change (execute (MonadExcept.ofExcept _ : Draw String) _).1 =
      (execute (MonadExcept.ofExcept _ : Draw String) _).1 ↔ _
    rw [execute_ofExcept, execute_ofExcept]
    constructor
    · rintro alike _ _ ⟨⟩ ⟨⟩
      exact alike
    · intro alike
      exact alike values inCaller rfl rfl

end Reading

/-- A call can be closed if its local arrays can be listed; where no key has a newline, this is also
necessary. Once it is closed, a variable that was not declared in it has the value it had exactly if
it was unharmed; and it is then also read as before, unless it is one of the names under which the
call stack is read. -/
theorem closing_keeps_bystander_iff {calls : List (Frame × List String)} {frame : Frame}
    {names : List String} {name : String} {state : State}
    (history : History ((frame, names) :: calls) state)
    (identifier : Text.isIdentifier name.toList = true) (elsewhere : name ∉ names)
    (bound : state.store.has name = true) :
    (state.Closable frame.scope → ∃ last, execute (closeFrame frame) state = (.ok (), last)) ∧
    (state.SingleLine → (∃ last, execute (closeFrame frame) state = (.ok (), last)) →
      state.Closable frame.scope) ∧
    ∀ last, execute (closeFrame frame) state = (.ok (), last) →
      (last.store.get? name = state.store.get? name ↔ state.Unharmed frame name) ∧
      (state.store.isNameref name = false →
        (last.store.get? name = state.store.get? name ∧
            (execute (reading fun state => state.value name) last).1 =
              (execute (reading fun state => state.value name) state).1 ↔
          state.Unharmed frame name ∧ state.CallsAlike name)) := by
  have tracked := history.tracked
  refine ⟨tracked.closes, ?_, fun last ran => ?_⟩
  · rintro single ⟨last, ran⟩
    exact closable_of_closeFrame single ran
  · have kept := get?_closeFrame_eq_iff tracked identifier elsewhere bound ran
    refine ⟨kept, fun plain => ?_⟩
    rw [← kept]
    refine and_congr_right fun same => ?_
    exact reading_closeFrame_iff tracked identifier elsewhere bound plain ran same

/-- An operation that writes takes the state to the one after the writing. -/
theorem History.write {calls : List (Frame × List String)} {state : State} (operation : Operation)
    {action : Write Unit} (writes : operation.write? = some action)
    (history : History calls state) :
    History (declaring operation.declares calls) (after action state) := by
  let machine : Machine (Function Unit) Unit := { state := state, host := () }
  rw [← Session.state_perform_of_write machine writes]
  exact .operate history

/-- A call with a local array, and with two variables that are not local to it: the name of one is
that of an element of the array. -/
def arrayCall : State :=
  let inside := ({} : State).enter ⟨"f", 0, mainSource⟩
  let called := { inside with store := replacePositional inside.store [] }
  let declared := after (declareAssociative "x") (after (declareLocal "x" none) called)
  after (setVariable "z" "w") (after (setVariable "x_y" "v") declared)

theorem history_arrayCall : History [(({} : State).frame "f", ["x"])] arrayCall := by
  have opened : History [(({} : State).frame "f", [])] _ :=
    .enter (.start rfl rfl rfl rfl)
      (show execute (openFrame {} "f" none [] none) {} = (.ok (({} : State).frame "f"), _) from rfl)
  have declared := (opened.write (.declareLocal "x" none) rfl).write (.declareAssociative "x") rfl
  exact (declared.write (.setVariable "x_y" "v") rfl).write (.setVariable "z" "w") rfl

theorem arrayCall_keeps_bystander :
    arrayCall.store.get? "z" = some "w" ∧
      ∃ last, execute (closeFrame (({} : State).frame "f")) arrayCall = (.ok (), last) ∧
        last.store.get? "z" = arrayCall.store.get? "z" ∧
        (execute (reading fun state => state.value "z") last).1 =
          (execute (reading fun state => state.value "z") arrayCall).1 := by
  have hidden : arrayCall.hiddenBy 0 = ["x"] := by decide +kernel
  have closable : arrayCall.Closable 0 := by
    intro scope _ earlier array later split
    have member : array ∈ arrayCall.hiddenBy 0 := by simp [split]
    rw [hidden, List.mem_singleton] at member
    subst member
    have associative : arrayCall.isAssociative "x" = true := by decide +kernel
    exact fun plain => absurd (associative.symm.trans plain) (by decide)
  have unharmed : arrayCall.Unharmed (({} : State).frame "f") "z" := by
    intro scope _ array member suffix longer
    have here : array ∈ arrayCall.hiddenBy 0 := member
    rw [hidden, List.mem_singleton] at here
    subst here
    have texts := congrArg String.toList longer
    simp at texts
  have alike : arrayCall.CallsAlike "z" := by
    intro values _ found
    have none : arrayCall.callArray? "z" = none := by decide +kernel
    rw [none] at found
    contradiction
  obtain ⟨closes, -, kept⟩ := closing_keeps_bystander_iff history_arrayCall
    (show Text.isIdentifier "z".toList = true by decide) (by decide) (by decide +kernel)
  obtain ⟨last, ran⟩ := closes closable
  refine ⟨by decide +kernel, last, ran, ?_⟩
  exact ((kept last ran).2 (by decide +kernel)).mpr ⟨unharmed, alike⟩

/-- The variable whose name is that of an element is gone after the call. -/
theorem arrayCall_drops_bystander :
    History [(({} : State).frame "f", ["x"])] arrayCall ∧ "x_y" ∉ ["x"] ∧
      arrayCall.store.get? "x_y" = some "v" ∧
      (execute (closeFrame (({} : State).frame "f")) arrayCall).1 = .ok () ∧
      (after (closeFrame (({} : State).frame "f")) arrayCall).store.get? "x_y" = none :=
  ⟨history_arrayCall, by decide, by decide +kernel, by decide +kernel, by decide +kernel⟩

end State

end Shell
