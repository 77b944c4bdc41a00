import Shell.Proofs.Frame.Exports
import Shell.Proofs.Frame.Operation
import Shell.Proofs.Variable.ElementZero
import Shell.Proofs.Variable.Readonly

/-!
# What operations do to the record of calls

Between the opening and the closing of calls the call stacks, the depth of calls and the
number of scopes stay as they are, whatever operations take place. When a local variable
of the innermost call is unset, this is noted with the number of the call, and making it
local again takes the note back. Nothing else writes notes, so every new note is about
the innermost call.
-/

namespace Shell

open Running

namespace State

/-- The stacks of the functions that were called, of the lines of the calls, and of the files. -/
def callStacks (state : State) : List String × List Int × List String :=
  (state.callNames, state.callLines, state.callSources)

/-- The call stacks of a state, how deep the calls are, the number of scopes, and the notes of local
variables that were unset. -/
def callRecord (state : State) : (List String × List Int × List String) × Int × Nat × Table Nat :=
  (state.callStacks, state.callDepth, state.scopes.length, state.unsetLocals)

/-- The second state has the calls and the notes of the first one, except for notes that were taken
back and for new ones about the innermost call. -/
structure Notes (first second : State) : Prop where
  callStacks : second.callStacks = first.callStacks
  depth : second.callDepth = first.callDepth
  scopes : second.scopes.length = first.scopes.length
  unset : ∀ (name : String) (level : Nat), second.unsetLocals[name]? = some level →
    first.unsetLocals[name]? = some level ∨ level + 1 = first.scopes.length

namespace Notes

variable {first second third : State}

theorem of_callRecord (same : second.callRecord = first.callRecord) : Notes first second := by
  obtain ⟨sameStacks, depth, scopes, unset⟩ : second.callStacks = first.callStacks ∧
      second.callDepth = first.callDepth ∧ second.scopes.length = first.scopes.length ∧
        second.unsetLocals = first.unsetLocals := by
    simpa only [callRecord, Prod.mk.injEq] using same
  exact ⟨sameStacks, depth, scopes, fun _ _ found => .inl (unset ▸ found)⟩

theorem trans (before : Notes first second) (next : Notes second third) : Notes first third where
  callStacks := next.callStacks.trans before.callStacks
  depth := next.depth.trans before.depth
  scopes := next.scopes.trans before.scopes
  unset name level found := by
    rcases next.unset name level found with old | innermost
    · exact before.unset name level old
    · exact .inr (innermost.trans before.scopes)

end Notes

/-- No assignment touches the record. -/
theorem Touches.callRecord {name : String} {puts : String → Prop} {declares : Prop}
    {first second : State} (touches : Touches name puts declares first second) :
    second.callRecord = first.callRecord := by
  induction touches with
  | trans _ _ before next => exact next.trans before
  | _ => rfl

theorem Assigns.notes {name : String} {first second : State} (assigns : Assigns name first second) :
    Notes first second := by
  obtain ⟨target, -, touches⟩ := assigns
  exact .of_callRecord touches.callRecord

section Unsetting

theorem notes_noteUnset (name : String) (state : State) : Notes state (noteUnset name state) := by
  unfold noteUnset
  split
  · rename_i scope outer scopes
    split
    · refine ⟨rfl, rfl, rfl, fun other level found => ?_⟩
      rw [Std.ExtTreeMap.getElem?_insert] at found
      split at found
      · cases found
        exact .inr (by rw [scopes, List.length_cons])
      · exact .inl found
    · exact .of_callRecord rfl
  · exact .of_callRecord rfl

theorem notes_unsetName (name : String) (state : State) :
    Notes state (after (unsetName name) state) := by
  obtain ⟨cleared, touches, same | ⟨-, same⟩⟩ := unsetName_cases name (fun _ => True) True state
  · rw [same]
    exact .of_callRecord touches.callRecord
  · have unset : Notes cleared (unsetPlain name cleared) := .of_callRecord rfl
    rw [same]
    exact (Notes.of_callRecord touches.callRecord).trans (unset.trans (notes_noteUnset name _))

theorem notes_unsetElement {unsetWhole : String → Write Unit} (reference : Reference)
    (whole : ∀ array state, Notes state (after (unsetWhole array) state)) (state : State) :
    Notes state (after (unsetElement unsetWhole reference) state) := by
  cases all : isWhole reference.subscript with
  | false =>
    have touches : Touches _ (fun _ => True) True state
      (after (unsetElement unsetWhole reference) state) := touches_unsetElement all state
    exact .of_callRecord touches.callRecord
  | true =>
    rw [after_unsetElement_of_whole unsetWhole all]
    split
    · exact .of_callRecord rfl
    · exact whole _ state

theorem notes_unsetWithin (depth : Nat) (name : String) (state : State) :
    Notes state (after (unsetWithin depth name) state) := by
  induction depth generalizing name state with
  | zero => exact .of_callRecord rfl
  | succ depth inductionHypothesis =>
    rw [after_unsetWithin_succ]
    split
    · exact notes_unsetElement _ inductionHypothesis state
    · split
      · exact .of_callRecord rfl
      · exact notes_unsetName _ state

theorem notes_unset (name : String) (state : State) :
    Notes state (after (State.unset name) state) := by
  unfold State.unset
  rw [after_get_bind]
  exact notes_unsetWithin _ name state

theorem notes_unsetNameref (name : String) (state : State) :
    Notes state (after (unsetNameref name) state) := by
  unfold unsetNameref
  split
  · exact notes_unsetElement _ notes_unset state
  · exact notes_unsetName name state

end Unsetting

/-- Making a variable local can only take a note back. -/
theorem notes_declareLocal (name : String) (value : Option String) (state : State) :
    Notes state (after (declareLocal name value) state) := by
  have books := preserves_declareLocal name value state
  refine ⟨congrArg (fun books : Bookkeeping => (books.callNames, books.callLines,
    books.callSources)) books, congrArg Bookkeeping.callDepth books,
    congrArg Bookkeeping.valueScopes books, fun other level found => .inl ?_⟩
  rcases declareLocal_cases name value state with ⟨_, last, ran, same⟩ | ⟨last, ran, same⟩
  · rw [after_eq_of_execute ran] at found
    have kept : last.unsetLocals = state.unsetLocals :=
      (eq_of_blind valueless State.unsetLocals (fun _ => rfl) same :)
    rwa [kept] at found
  · rw [after_eq_of_execute ran] at found
    have erased : last.unsetLocals = state.unsetLocals.erase name :=
      (eq_of_blind valueless State.unsetLocals (fun _ => rfl) same :)
    rw [erased, Std.ExtTreeMap.getElem?_erase] at found
    split at found
    · contradiction
    · exact found

theorem Switched.callRecord {first second : State} (switched : Switched first second) :
    second.callRecord = first.callRecord := by
  cases switched <;> rfl

/-- No writing opens or closes a call, and it notes what is unset in the innermost one only. -/
theorem notes_write {operation : Operation} {write : Write Unit}
    (writes : operation.write? = some write)
    (honest : ∀ depth, operation ≠ .set (.callDepth depth)) (state : State) :
    Notes state (after write state) := by
  cases operation with
  | declareAssociative _ | put _ _ | take _ | putNameref _ _ | addAttribute _ _
  | dropAttribute _ _ | saveAttributes _ | setPositional _ | exportLocal _ | syncListings =>
    cases writes
    exact .of_callRecord rfl
  | setVariable name value =>
    cases writes
    exact (assigns_setVariable name value state).notes
  | setArray name values =>
    cases writes
    exact (assigns_setArray name values state).notes
  | setElement name subscript value =>
    cases writes
    exact (assigns_setElement name subscript value state).notes
  | setAssociativeArray name items =>
    cases writes
    exact (assigns_setAssociativeArray name items state).notes
  | clearArray name =>
    cases writes
    have touches : Touches name (fun _ => True) True state _ := touches_clearArray name state
    exact .of_callRecord touches.callRecord
  | unset name =>
    cases writes
    exact notes_unset name state
  | unsetNameref name =>
    cases writes
    exact notes_unsetNameref name state
  | declareLocal name value =>
    cases writes
    exact notes_declareLocal name value state
  | setOption option on =>
    cases writes
    exact .of_callRecord (switched_setOption option on state).callRecord
  | setFlag flag on =>
    cases writes
    exact .of_callRecord (switched_setFlag flag on state).callRecord
  | setShopt option on =>
    cases writes
    exact .of_callRecord (switched_setShopt option on state).callRecord
  | set setting =>
    cases writes
    cases setting with
    | callDepth depth => exact absurd rfl (honest depth)
    | _ => exact .of_callRecord rfl
  | _ => exact nomatch writes

end State

namespace Session

open State

variable {κ σ : Type} (machine : Machine (Function κ) σ)

/-- No operation opens or closes a call, and it notes what is unset in the innermost one only,
whether it succeeds or fails. -/
theorem notes_perform {operation : Operation}
    (honest : ∀ depth, operation ≠ .set (.callDepth depth)) :
    Notes machine.state (after (perform operation) machine).state :=
  relates_perform machine Notes (fun _ => .of_callRecord rfl) fun _ writes =>
    notes_write writes honest machine.state

end Session

end Shell
