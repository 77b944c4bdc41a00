import Shell.Proofs.Frame.Restore
import Shell.Session.Operation

/-!
# Operations between the opening and the closing of a call

An operation spares a variable if every other variable it writes has a name apart
from it. Then the variable stays sound, and the open calls go on saving the same of
it, whether the operation succeeds or fails.
-/

namespace Shell

open Running

/-- The names that an operation is given to write. -/
def Operation.writes : Operation → List String
  | setVariable name _ | unset name | unsetNameref name | setArray name _ | setElement name _ _
  | setAssociativeArray name _ | declareAssociative name | clearArray name | put name _
  | take name | addAttribute name _ | dropAttribute name _ | saveAttributes name
  | putNameref name _ | declareLocal name _ | exportLocal name => [name]
  | setOption _ _ | setFlag _ _ | setShopt _ _ | syncListings => ["SHELLOPTS", "BASHOPTS"]
  | _ => []

/-- The name of the one variable that an operation writes, if it only does that. -/
def Operation.edits? : Operation → Option String
  | setVariable name _ | unset name | unsetNameref name | setArray name _ | setElement name _ _
  | setAssociativeArray name _ | declareAssociative name | clearArray name | put name _
  | take name | putNameref name _ => some name
  | _ => none

/-- What an operation writes; the others only read. -/
def Operation.write? : Operation → Option (Write Unit)
  | setVariable name text => some (State.setVariable name text)
  | unset name => some (State.unset name)
  | unsetNameref name => some (State.unsetNameref name)
  | setArray name values => some (State.setArray name values)
  | setElement name subscript text => some (State.setElement name subscript text)
  | setAssociativeArray name items => some (State.setAssociativeArray name items)
  | declareAssociative name => some (State.declareAssociative name)
  | clearArray name => some (State.clearArray name)
  | setPositional values => some (State.setPositional values)
  | put key text => some (State.changeStore (·.put key text))
  | take key => some (State.changeStore (·.drop key))
  | addAttribute name letter => some (State.changeStore (·.addAttribute name letter))
  | dropAttribute name letter => some (State.changeStore (·.dropAttribute name letter))
  | saveAttributes name => some (State.changeStore (·.saveAttributes name))
  | putNameref name target => some (State.changeStore (·.putNameref name target))
  | set setting => some (modify setting.apply)
  | setOption name on => some (State.setOption name on)
  | setFlag flag on => some (State.setFlag flag on)
  | setShopt name on => some (State.setShopt name on)
  | syncListings => some (modify State.syncListings)
  | declareLocal name text => some (State.declareLocal name text)
  | exportLocal name => some (State.exportLocal name)
  | _ => none

/-- The operation changes what the shell itself records about a variable: the attributes saved in a
call, or that it is associative. -/
def Operation.Tampers (name : String) : Operation → Prop
  | saveAttributes other => other = name
  | addAttribute other letter | dropAttribute other letter =>
    other = name ∧ letter = Attribute.associative
  | _ => False

/-- The operation keeps apart from a variable, unless it is the variable that it writes. -/
structure Operation.Spares (name : String) (state : State) (operation : Operation) : Prop where
  apart : ∀ written ∈ operation.writes, ∀ target, state.LeadsTo written target → Apart name target
  honest : ¬ operation.Tampers name

namespace State

theorem proceeds_queries (name : String) (state : State) (queries : Queries) :
    Proceeds name state { state with queries := queries } :=
  (edits_queries name state queries).proceeds (Apart.refl name)

/-- A change that leaves the variable and the stacks alone. -/
theorem Agrees.proceeds {name : String} {first second : State} (agrees : Agrees name first second)
    (scopes : second.scopes = first.scopes) (saved : second.store.saved = first.store.saved)
    (shadows : second.shadows = first.shadows)
    (exports : second.localExports.length = first.localExports.length) :
    Proceeds name first second :=
  .of_regular agrees.regular scopes saved shadows exports

theorem proceeds_addAttribute {name other letter : String}
    (honest : ¬ (other = name ∧ letter = Attribute.associative)) (state : State) :
    Proceeds name state { state with store := state.store.addAttribute other letter } := by
  by_cases same : other = name
  · subst same
    have harmless : letter ≠ Attribute.associative := fun equality => honest ⟨rfl, equality⟩
    exact (Edits.addAttribute state other harmless).proceeds (Apart.refl other)
  · refine Agrees.proceeds ⟨fun _ _ => rfl, ?_, rfl⟩ rfl rfl rfl rfl
    rw [Store.attributes_addAttribute, if_neg same]

theorem proceeds_dropAttribute {name other letter : String}
    (honest : ¬ (other = name ∧ letter = Attribute.associative)) (state : State) :
    Proceeds name state { state with store := state.store.dropAttribute other letter } := by
  by_cases same : other = name
  · subst same
    have harmless : letter ≠ Attribute.associative := fun equality => honest ⟨rfl, equality⟩
    exact (Edits.dropAttribute state other harmless).proceeds (Apart.refl other)
  · refine Agrees.proceeds ⟨fun _ _ => rfl, ?_, rfl⟩ rfl rfl rfl rfl
    rw [Store.attributes_dropAttribute, if_neg same]

theorem proceeds_setPositional {name : String} (identifier : Text.isName name.toList = true)
    (values : List String) (state : State) :
    Proceeds name state (after (setPositional values) state) := by
  refine Agrees.proceeds ⟨?_, ?_, rfl⟩ rfl (saved_replacePositional _ values) rfl rfl
  · intro key owned
    exact get?_replacePositional _ values (not_positional_of_owns identifier owned)
  · change (replacePositional state.store values).attributes[name]? = _
    rw [attributes_replacePositional]

theorem proceeds_syncListings {name : String} (apart : ∀ listing ∈ ["SHELLOPTS", "BASHOPTS"],
    Apart name listing) (state : State) : Proceeds name state (syncListings state) := by
  have options := Edits.put_self state "SHELLOPTS" state.optionListing
  have shopts := Edits.put_self
    { state with store := state.store.put "SHELLOPTS" state.optionListing } "BASHOPTS"
    state.shoptListing
  exact (options.proceeds (apart _ (by simp))).trans (shopts.proceeds (apart _ (by simp)))

/-- What turning an option on or off leads to: nothing if this fails, or else other options, and
both listings written anew. -/
inductive Switched (first : State) : State → Prop
  | refused : Switched first first
  | written (options : Options) (shopts : Table Bool) :
      Switched first (syncListings { first with options := options, shopts := shopts })

theorem switched_setOption (option : String) (on : Bool) (state : State) :
    Switched state (after (setOption option on) state) := by
  unfold setOption
  split
  · exact .written (state.options.put _ on) state.shopts
  · split
    · exact .refused
    · exact .written state.options state.shopts

theorem switched_setFlag (flag : String) (on : Bool) (state : State) :
    Switched state (after (setFlag flag on) state) := by
  unfold setFlag
  split
  · exact switched_setOption _ on state
  · split <;> exact .refused

theorem switched_setShopt (option : String) (on : Bool) (state : State) :
    Switched state (after (setShopt option on) state) := by
  unfold setShopt
  split
  · exact .refused
  · exact .written state.options (state.shopts.insert option on)

theorem Switched.proceeds {name : String} {first second : State} (switched : Switched first second)
    (apart : ∀ listing ∈ ["SHELLOPTS", "BASHOPTS"], Apart name listing) :
    Proceeds name first second := by
  cases switched with
  | refused => exact Proceeds.refl name first
  | written options shopts =>
    have turned : Proceeds name first { first with options := options, shopts := shopts } :=
      Agrees.proceeds ⟨fun _ _ => rfl, rfl, rfl⟩ rfl rfl rfl rfl
    exact turned.trans (proceeds_syncListings apart _)

theorem proceeds_exportLocal (name other : String) (state : State) :
    Proceeds name state (after (exportLocal other) state) := by
  have exported : Proceeds name state
      { state with store := state.store.addAttribute other Attribute.exported } :=
    proceeds_addAttribute (fun tampering => absurd tampering.2 (by decide)) state
  have depth : (after (exportLocal other) state).localExports.length =
      state.localExports.length := by
    unfold exportLocal
    rw [after_modify]
    cases state.localExports <;> rfl
  exact exported.trans (Agrees.proceeds ⟨fun _ _ => rfl, rfl, rfl⟩ rfl rfl rfl depth)

theorem proceeds_setting (name : String) (setting : Setting) (state : State) :
    Proceeds name state (setting.apply state) := by
  cases setting <;> exact Agrees.proceeds ⟨fun _ _ => rfl, rfl, rfl⟩ rfl rfl rfl rfl

/-- An edit of a variable that a given name leads to. -/
theorem proceeds_of_edits {name written : String} {first second : State}
    (apart : ∀ target, first.LeadsTo written target → Apart name target)
    (edits : ∃ target, first.LeadsTo written target ∧ Edits target first second) :
    Proceeds name first second := by
  obtain ⟨target, leads, changed⟩ := edits
  exact changed.proceeds (apart target leads)

/-- What is written where only a variable that the operation is given leads to is written. -/
theorem edits_write {operation : Operation} {written : String} {write : Write Unit}
    (found : operation.edits? = some written) (writes : operation.write? = some write)
    (state : State) :
    ∃ target, state.LeadsTo written target ∧ Edits target state (after write state) := by
  cases operation with
  | setVariable _ value =>
    cases found
    cases writes
    exact edits_setVariable written value state
  | unset _ =>
    cases found
    cases writes
    exact edits_unset written state
  | unsetNameref _ =>
    cases found
    cases writes
    exact edits_unsetNameref written state
  | setArray _ values =>
    cases found
    cases writes
    exact edits_setArray written values state
  | setElement _ subscript value =>
    cases found
    cases writes
    exact edits_setElement written subscript value state
  | setAssociativeArray _ items =>
    cases found
    cases writes
    exact edits_setAssociativeArray written items state
  | declareAssociative _ =>
    cases found
    cases writes
    exact ⟨written, .self written, Edits.declare state written⟩
  | clearArray _ =>
    cases found
    cases writes
    exact ⟨written, .self written, edits_clearArray written state⟩
  | put _ value =>
    cases found
    cases writes
    exact ⟨written, .self written, Edits.put_self state written value⟩
  | take _ =>
    cases found
    cases writes
    exact ⟨written, .self written, Edits.drop state (owns_self written)⟩
  | putNameref _ target =>
    cases found
    cases writes
    have marked := Edits.addAttribute state written
      (by decide : Attribute.nameref ≠ Attribute.associative)
    exact ⟨written, .self written, marked.trans (Edits.put_self _ written target)⟩
  | _ => exact nomatch found

/-- A variable that is spared by what an operation writes stays sound, and saved as it was. -/
theorem proceeds_write {name : String} (identifier : Text.isName name.toList = true)
    {operation : Operation} {write : Write Unit} (writes : operation.write? = some write)
    {state : State} (spares : operation.Spares name state) :
    Proceeds name state (after write state) := by
  have apart := spares.apart
  have honest := spares.honest
  have edited : ∀ written, operation.edits? = some written → written ∈ operation.writes →
      Proceeds name state (after write state) := fun written found member =>
    proceeds_of_edits (apart written member) (edits_write found writes state)
  cases operation with
  | setVariable written _ | unset written | unsetNameref written | setArray written _
  | setElement written _ _ | setAssociativeArray written _ | declareAssociative written
  | clearArray written | put written _ | take written | putNameref written _ =>
    exact edited written rfl (List.mem_singleton_self written)
  | setPositional values =>
    cases writes
    exact proceeds_setPositional identifier values state
  | addAttribute other letter =>
    cases writes
    exact proceeds_addAttribute honest state
  | dropAttribute other letter =>
    cases writes
    exact proceeds_dropAttribute honest state
  | saveAttributes other =>
    cases writes
    exact proceeds_saveAttributes state (Or.inl honest)
  | set setting =>
    cases writes
    exact proceeds_setting name setting state
  | setOption option on =>
    cases writes
    exact (switched_setOption option on state).proceeds
      fun listing member => apart listing member listing (.self listing)
  | setFlag flag on =>
    cases writes
    exact (switched_setFlag flag on state).proceeds
      fun listing member => apart listing member listing (.self listing)
  | setShopt option on =>
    cases writes
    exact (switched_setShopt option on state).proceeds
      fun listing member => apart listing member listing (.self listing)
  | syncListings =>
    cases writes
    exact proceeds_syncListings (fun listing member => apart listing member listing (.self listing))
      state
  | declareLocal other value =>
    cases writes
    exact proceeds_declareLocal (apart other (List.mem_singleton_self other) other (.self other))
      value state
  | exportLocal other =>
    cases writes
    exact proceeds_exportLocal name other state
  | _ => exact nomatch writes

end State

namespace Session

open State

variable {κ σ : Type} {name : String} (machine : Machine (Function κ) σ)

theorem state_fromWrite (write : Write Unit) :
    (after (fromWrite write) machine).state = after write machine.state := by
  unfold fromWrite
  rw [after_map]
  rfl

theorem state_fromState (answer : State → Answer) :
    (after (fromState answer) machine).state = machine.state := by
  unfold fromState Action.state
  rw [after_map, after_map]
  rfl

theorem state_fromRead {α : Type} (answer : α → Answer) (read : State → Draw α) :
    ∃ queries, (after (fromRead answer read) machine).state =
      { machine.state with queries := queries } := by
  obtain ⟨result, queries, ran⟩ := execute_reading read machine.state
  unfold fromRead Action.read
  rw [after_map, after_write, after_eq_of_execute ran]
  exact ⟨queries, rfl⟩

theorem state_fromExpand {α : Type} (answer : α → Answer) (read : State → Expand α) :
    ∃ queries, (after (fromExpand answer read) machine).state =
      { machine.state with queries := queries } := by
  unfold fromExpand
  rw [after_map]
  exact ⟨_, rfl⟩

/-- An operation that writes takes the state to the one after the writing. -/
theorem state_perform_of_write {operation : Operation} {write : Write Unit}
    (writes : operation.write? = some write) :
    (after (perform operation) machine).state = after write machine.state := by
  cases operation with
  | take _ | set _ | syncListings =>
    cases writes
    rfl
  | _ =>
    cases writes <;> exact state_fromWrite machine _

/-- An operation that only reads asks the world and changes nothing else. -/
theorem state_perform_of_read {operation : Operation} (reads : operation.write? = none) :
    ∃ queries, (after (perform operation) machine).state =
      { machine.state with queries := queries } := by
  cases operation with
  | value _ | isSet _ | arrayKeys _ | elements _ | evaluate _ | expandSubscript _ | expandKeys _ _
  | expandPattern _ | isArray _ | indices _ | namesFrom _ | option _ | expandNames _ _
  | keptPaths _ =>
    exact state_fromRead machine _ _
  | require _ | expandArray _ _ _ | expandPositional _ _ => exact state_fromExpand machine _ _
  | isAssociative _ | suffixes _ | namerefTarget _ | resolve _ _ | positional | get _
  | attributes _ | hasAttributeSet _ | hasAttribute _ _ | copyStore _ _ | shopt _ | shopts
  | optionListing | shoptListing | optionFlags | splitValue _ | matchesPattern _ _
  | isPathPattern _ =>
    exact ⟨_, state_fromState machine _⟩
  | snapshot | isFunction _ | unsetFunction _ | functionNames => exact ⟨_, rfl⟩
  | checkFailure outcome =>
    have unchanged : (after (perform (.checkFailure outcome)) machine).state = machine.state := by
      unfold perform
      refine after_bind (fun first second : Machine (Function κ) σ => second.state = first.state)
        (fun before next => next.trans before) ?_ fun _ _ _ => rfl
      rw [after_checkFailure]
    exact ⟨_, unchanged⟩
  | _ => exact nomatch reads

/-- What holds when the world is asked, and when the operation writes, holds of performing it. -/
theorem relates_perform (Relation : State → State → Prop) {operation : Operation}
    (drawn : ∀ queries, Relation machine.state { machine.state with queries := queries })
    (written : ∀ write, operation.write? = some write →
      Relation machine.state (after write machine.state)) :
    Relation machine.state (after (perform operation) machine).state := by
  cases writes : operation.write? with
  | none =>
    obtain ⟨queries, same⟩ := state_perform_of_read machine writes
    rw [same]
    exact drawn queries
  | some write =>
    rw [state_perform_of_write machine writes]
    exact written write writes

/-- A variable that is spared by an operation stays sound, and saved as it was. -/
theorem proceeds_perform (identifier : Text.isName name.toList = true) {operation : Operation}
    (spares : operation.Spares name machine.state) :
    Proceeds name machine.state (after (perform operation) machine).state :=
  relates_perform machine (Proceeds name) (proceeds_queries name machine.state) fun _ writes =>
    proceeds_write identifier writes spares

end Session

end Shell
