import Shell.Proofs.Frame.Bystanders
import Shell.Proofs.Variable.ElementZero
import Shell.Session.Basic

/-!
# The two listings of options

Each change of an option writes the options anew into two variables. To everything
else these are variables like any other: they can be assigned, made an array, unset
and made local to a call, which puts back what it saved. A listing that shows the
options goes on doing so as long as nothing of this happens to it with another text.
Nothing else comes near it, for its name has no underscore and is the key of no
array's element.
-/

namespace Shell

open Running

/-- The listings of options: those of `set`, and those of `shopt`. -/
inductive Listing
  | set
  | shopt
deriving DecidableEq, Repr

namespace Listing

/-- The variable that holds the listing. -/
def name : Listing → String
  | set => "SHELLOPTS"
  | shopt => "BASHOPTS"

/-- What the variable holds. -/
def value? (listing : Listing) (state : State) : Option String := state.store.get? listing.name

/-- What the variable should hold. -/
def text (listing : Listing) (state : State) : String :=
  match listing with
  | set => state.optionListing
  | shopt => state.shoptListing

variable (listing : Listing)

theorem name_ne_elementKey (array suffix : String) : listing.name ≠ elementKey array suffix := by
  have absent : '_' ∉ listing.name.toList := by cases listing <;> decide
  intro same
  rw [same, toList_elementKey] at absent
  simp at absent

theorem owns_name_iff {owner : String} : Owns owner listing.name ↔ owner = listing.name := by
  constructor
  · rintro (same | ⟨suffix, element⟩)
    · exact same.symm
    · exact absurd element (listing.name_ne_elementKey owner suffix)
  · rintro rfl
    exact owns_self _

theorem not_positional_name : ¬ State.Positional listing.name := by
  refine State.not_positional_of_owns ?_ (owns_self listing.name)
  cases listing <;> decide

end Listing

namespace State

variable {state first second : State} {listing : Listing} {name : String}

/-- The variable of the listing holds what it should. -/
def Shows (state : State) (listing : Listing) : Prop :=
  listing.value? state = some (listing.text state)

instance : Decidable (state.Shows listing) :=
  inferInstanceAs (Decidable (listing.value? state = some (listing.text state)))

/-- What the listings are made from. -/
def settings (state : State) : Options × Table Bool := (state.options, state.shopts)

theorem text_eq_of_settings (same : second.settings = first.settings) (listing : Listing) :
    listing.text second = listing.text first := by
  obtain ⟨options, shopts⟩ := Prod.mk.inj same
  cases listing with
  | set => exact congrArg Options.listing options
  | shopt => exact congrArg Shopt.listing shopts

/-- As long as the options stay the same, the variable has to stay the same. -/
theorem Shows.iff_of_settings (shows : first.Shows listing)
    (settings : second.settings = first.settings) :
    second.Shows listing ↔ listing.value? second = listing.value? first := by
  rw [Shows, text_eq_of_settings settings, shows]

theorem Edits.settings (edits : Edits name first second) : second.settings = first.settings :=
  eq_of_blind State.surroundings State.settings (fun _ => rfl) edits.surroundings

theorem Edits.value?_listing (edits : Edits name first second) (other : name ≠ listing.name) :
    listing.value? second = listing.value? first :=
  edits.values _ (mt listing.owns_name_iff.mp other)

section Keys

/-- Writing under another key leaves the listing alone. -/
theorem preserves_put {key : String} (other : key ≠ listing.name) (value : String) :
    Preserves listing.value? (changeStore (·.put key value)) := by
  intro state
  rw [after_changeStore, Listing.value?, Store.get?_put, if_neg other, Listing.value?]

theorem preserves_drop {key : String} (other : key ≠ listing.name) :
    Preserves listing.value? (changeStore (·.drop key)) := by
  intro state
  rw [after_changeStore, Listing.value?, Store.get?_drop, if_neg other, Listing.value?]

theorem preserves_dropKey {key : String} (other : key ≠ listing.name) :
    Preserves listing.value? (dropKey key) := by
  intro state
  unfold dropKey
  rw [after_get_bind]
  split
  · exact preserves_drop other state
  · rfl

/-- What is done with each element of an array leaves the listings alone, also where the array is
one of them. -/
theorem preserves_forElements {action : String → Write Unit} (array : String)
    (each : ∀ key, key ≠ listing.name → Preserves listing.value? (action key)) :
    Preserves listing.value? (do
      (← MonadExcept.ofExcept ((← get).elementKeys array) : List String).forM action) := by
  intro state
  rw [after_get_bind]
  cases listed : state.elementKeys array with
  | error fault => rfl
  | ok keys =>
    refine after_forM (fun old new => listing.value? new = listing.value? old) (fun _ => rfl)
      (fun before next => next.trans before) (fun key member => ?_) state
    obtain ⟨suffix, rfl⟩ := eq_elementKey_of_mem listed member
    exact each _ (listing.name_ne_elementKey array suffix).symm

theorem preserves_clearArray (array : String) : Preserves listing.value? (clearArray array) :=
  preserves_forElements array fun _ => preserves_dropKey

end Keys

section Options

/-- Both variables hold what they should once they were written. -/
theorem shows_syncListings (state : State) (listing : Listing) :
    (syncListings state).Shows listing := by
  cases listing with
  | set =>
    change ((state.store.put _ _).put "BASHOPTS" _).get? "SHELLOPTS" = some state.optionListing
    rw [Store.get?_put, if_neg (by decide), Store.get?_put, if_pos rfl]
  | shopt =>
    change ((state.store.put _ _).put "BASHOPTS" _).get? "BASHOPTS" = some state.shoptListing
    rw [Store.get?_put, if_pos rfl]

/-- Turning an option on or off writes both variables, or fails and does nothing. -/
theorem Shows.switched (shows : first.Shows listing) (switched : Switched first second) :
    second.Shows listing := by
  cases switched with
  | refused => exact shows
  | written options shopts => exact shows_syncListings _ listing

end Options

section Assigning

/-- An element that is assigned turns a scalar into an array. -/
def MakesArray (state : State) (name subscript : String) : Prop :=
  state.isArray name = .ok false ∧ ∃ index, state.Denotes name subscript index

/-- An assignment writes another text into the variable of the listing, or makes an array of it. -/
def Overwrites (state : State) (listing : Listing) (name value : String) : Prop :=
  state.assigned? name = some listing.name ∧ state.store.isReadonly listing.name = false ∧
    match state.reference? name with
    | none => value ≠ listing.text state
    | some reference => state.MakesArray listing.name reference.subscript

theorem value?_putElement (shows : state.Shows listing) (index : Nat) (value : String) :
    listing.value? (after (putElement listing.name index value) state) = listing.value? state ↔
      state.isArray listing.name ≠ .ok false := by
  have found : state.store.get? listing.name = some (listing.text state) := shows
  rw [after_putElement, found]
  rcases known : state.isArray listing.name with fault | (_ | _)
  · simp
  · refine iff_of_false ?_ (by simp)
    have gone : listing.value? (after (storeAt listing.name index value)
        (promote listing.name (listing.text state) state)) = none :=
      (get?_self_storeAt index value _).trans (get?_promote listing.name _ state)
    rw [gone, shows]
    exact Option.some_ne_none _ ∘ Eq.symm
  · refine iff_of_true ?_ (by simp)
    exact get?_self_storeAt index value state

theorem value?_setElement (shows : state.Shows listing)
    (found : state.resolve? name = some listing.name)
    (writable : state.store.isReadonly listing.name = false) (subscript value : String) :
    listing.value? (after (setElement name subscript value) state) = listing.value? state ↔
      ¬ state.MakesArray listing.name subscript := by
  unfold setElement
  rw [after_get_bind, found]
  dsimp only
  rw [after_bind_of_ok (execute_checkWritable_of_not writable), after_get_bind]
  cases associative : state.isAssociative listing.name with
  | true =>
    have array : state.isArray listing.name = .ok true := by
      simp [isArray, isDeclaredArray, associative]
    refine iff_of_true ?_ fun makes => absurd (array.symm.trans makes.1) (by simp)
    exact (preserves_reading (fun _ _ => rfl) _).bind
      (fun key => preserves_put (listing.name_ne_elementKey _ key).symm value) state
  | false =>
    rw [if_neg Bool.false_ne_true]
    have read := execute_reading_eq
      (fun state => state.subscriptIndex state.value listing.name subscript) state
    rcases drawn : ((state.subscriptIndex state.value listing.name subscript).run
      state.queries).1 with fault | (_ | index)
    · rw [drawn] at read
      rw [after, execute_bind_of_error read]
      refine iff_of_true rfl ?_
      rintro ⟨-, index, denotes⟩
      exact absurd (drawn.symm.trans denotes) (by simp)
    · rw [drawn] at read
      rw [after_bind_of_ok read]
      refine iff_of_true rfl ?_
      rintro ⟨-, index, denotes⟩
      exact absurd (drawn.symm.trans denotes) (by simp)
    · rw [drawn] at read
      rw [after_bind_of_ok read]
      -- The subscript is evaluated in the same store in which the element is put.
      have still : State.Shows { state with
        queries := ((state.subscriptIndex state.value listing.name subscript).run
          state.queries).2 } listing := shows
      have scalar : state.MakesArray listing.name subscript ↔
          state.isArray listing.name = .ok false := and_iff_left ⟨index, drawn⟩
      rw [scalar]
      exact value?_putElement still index value

/-- An assignment leaves a listing as it should be exactly if it does not overwrite it. -/
theorem Shows.setVariable_iff (shows : state.Shows listing) (name value : String) :
    (after (setVariable name value) state).Shows listing ↔
      ¬ state.Overwrites listing name value := by
  obtain ⟨target, -, edits⟩ := edits_setVariable name value state
  rw [shows.iff_of_settings edits.settings]
  -- Only an assignment to the variable itself, if it is writable, needs a closer look.
  by_cases here : state.assigned? name = some listing.name ∧
      state.store.isReadonly listing.name = false
  · obtain ⟨assigned, writable⟩ := here
    have ran := congrArg Prod.snd (execute_setVariable name value state)
    rw [Overwrites, and_iff_right assigned, and_iff_right writable]
    unfold assigned? at assigned
    rw [after]
    cases found : state.reference? name with
    | some reference =>
      rw [found] at ran assigned
      rw [ran]
      exact value?_setElement shows assigned writable reference.subscript value
    | none =>
      rw [found] at ran assigned
      dsimp only at ran assigned
      rw [assigned] at ran
      have timeless : listing.name ≠ "SECONDS" := by cases listing <;> decide
      have written : listing.value? (after (assign listing.name value) state) = some value :=
        (get?_assign value writable timeless listing.name).trans (if_pos rfl)
      rw [ran, shows]
      refine (Eq.congr_left written).trans ?_
      simp
  · refine iff_of_true ?_ fun overwrites => here ⟨overwrites.1, overwrites.2.1⟩
    rcases writesTo_setVariable name value state with same | ⟨target, found, writable, edits⟩
    · rw [same]
    · refine edits.value?_listing fun itself => here ?_
      subst itself
      exact ⟨found, writable⟩

end Assigning

section Unsetting

/-- The variable that is unset as a whole when references lead to others at most `depth` times. -/
def unsetsWhole? (state : State) : (depth : Nat) → String → Option String
  | 0, _ => none
  | depth + 1, name =>
    match state.reference? name with
    | some reference =>
      if isWhole reference.subscript ∧
          state.store.isReadonly (state.resolved reference.array) = false then
        state.unsetsWhole? depth (state.resolved reference.array)
      else none
    | none => state.resolve? name

/-- The variable of the listing can be unset, which drops its elements first. -/
def Erasable (state : State) (listing : Listing) : Prop :=
  state.store.isReadonly listing.name = false ∧
    (execute (clearArray listing.name) state).1 = .ok ()

theorem preserves_unsetElement {unsetWhole : String → Write Unit} {reference : Reference}
    (single : isWhole reference.subscript = false) :
    Preserves listing.value? (unsetElement unsetWhole reference) := by
  intro state
  unfold unsetElement
  rw [after_get_bind]
  refine (preserves_checkWritable _).bind (fun _ middle => ?_) state
  rw [if_neg (by simp [single]), after_get_bind]
  split
  · exact (preserves_reading (fun _ _ => rfl) _).bind
      (fun key => preserves_drop (listing.name_ne_elementKey _ key).symm) middle
  · refine (preserves_reading (fun _ _ => rfl) _).bind (fun index => ?_) middle
    split
    · exact fun _ => rfl
    · rename_i index
      intro drawn
      refine after_bind (fun old new => listing.value? new = listing.value? old)
        (fun before next => next.trans before) (preserves_ofExcept _ _) fun key _ computed => ?_
      rw [execute_ofExcept] at computed
      obtain ⟨-, rfl⟩ := indexKey_eq_ok (Prod.mk.inj computed).1
      exact preserves_drop (listing.name_ne_elementKey _ _).symm _

/-- A variable is unset exactly if it can be. -/
theorem value?_unsetName (shows : state.Shows listing) :
    listing.value? (after (unsetName listing.name) state) = listing.value? state ↔
      ¬ state.Erasable listing := by
  unfold unsetName Erasable
  cases writable : state.store.isReadonly listing.name with
  | true =>
    rw [after_checkWritable_bind_of_readonly writable]
    simp
  | false =>
    rw [after_bind_of_ok (execute_checkWritable_of_not writable)]
    have kept : listing.value? (after (clearArray listing.name) state) = listing.value? state :=
      preserves_clearArray listing.name state
    rcases ran : execute (clearArray listing.name) state with ⟨fault | value, cleared⟩
    · rw [after_eq_of_execute (execute_bind_of_error ran)]
      rw [after_eq_of_execute ran] at kept
      exact iff_of_true kept (by simp)
    · rw [after_bind_of_ok ran]
      refine iff_of_false ?_ (by simp)
      have gone : listing.value? (noteUnset listing.name (unsetPlain listing.name cleared)) =
          none := by
        rw [Listing.value?, store_noteUnset, get?_unsetPlain, Store.get?_drop, if_pos rfl]
      change listing.value? (noteUnset listing.name (unsetPlain listing.name cleared)) ≠ _
      rw [gone, shows]
      exact Option.some_ne_none _ ∘ Eq.symm

theorem value?_unsetWithin (shows : state.Shows listing) (depth : Nat) (name : String) :
    listing.value? (after (unsetWithin depth name) state) = listing.value? state ↔
      ¬ (state.unsetsWhole? depth name = some listing.name ∧ state.Erasable listing) := by
  induction depth generalizing name with
  | zero => exact iff_of_true rfl fun erased => nomatch erased.1
  | succ depth inductionHypothesis =>
    rw [after_unsetWithin_succ, unsetsWhole?]
    cases state.reference? name with
    | some reference =>
      dsimp only
      cases whole : isWhole reference.subscript with
      | false =>
        rw [preserves_unsetElement whole state]
        simp
      | true =>
        rw [after_unsetElement_of_whole _ whole]
        cases readonly : state.store.isReadonly (state.resolved reference.array) with
        | true => simp
        | false =>
          simpa using inductionHypothesis (state.resolved reference.array)
    | none =>
      dsimp only
      cases state.resolve? name with
      | none => simp
      | some target =>
        by_cases itself : target = listing.name
        · subst itself
          simpa using value?_unsetName shows
        · rw [(edits_unsetName target state).value?_listing itself]
          simp [itself]

/-- Unsetting a name unsets the variable of the listing. -/
def Erases (state : State) (listing : Listing) (name : String) : Prop :=
  state.unsetsWhole? (state.nesting + 1) name = some listing.name ∧ state.Erasable listing

/-- A listing stays as it should be exactly if it is not unset. -/
theorem Shows.unset_iff (shows : state.Shows listing) (name : String) :
    (after (unset name) state).Shows listing ↔ ¬ state.Erases listing name := by
  obtain ⟨target, -, edits⟩ := edits_unset name state
  rw [shows.iff_of_settings edits.settings]
  exact value?_unsetWithin shows (state.nesting + 1) name

end Unsetting

section Declaring

/-- A declaration makes the variable of the listing local, with another text. -/
def Declares (state : State) (listing : Listing) (name : String) (value : Option String) : Prop :=
  name = listing.name ∧ (∃ text, value = some text ∧ text ≠ listing.text state) ∧
    (execute (declareLocal name value) state).1 = .ok ()

theorem preserves_value?_startLocal (name : String) :
    Preserves listing.value? (startLocal name) := by
  have hidden : ∀ state : State, listing.value? (hide name state) = listing.value? state := by
    intro state
    rw [Listing.value?, store_hide, Listing.value?]
  have saved : ∀ key, Preserves listing.value? (saveElement key) := by
    intro key state
    unfold saveElement
    rw [after_get_bind]
    split
    · rw [after_modify]
      unfold saveValue
      split <;> rfl
    · rfl
  unfold startLocal
  exact Preserves.bind hidden fun _ => preserves_forElements name fun key _ => saved key

/-- A declaration ends by writing the value it is given. -/
theorem value?_finishLocal (shows : state.Shows listing) (name : String) (value : Option String) :
    listing.value? (after (finishLocal name value) state) =
      if name = listing.name then value.or (listing.value? state) else listing.value? state := by
  let saved := withSavedAttributes name state
  have kept : listing.value? saved = listing.value? state :=
    get?_saveAttributes state.store name listing.name
  cases value with
  | some value =>
    change (saved.store.put name value).get? listing.name = _
    rw [Store.get?_put]
    split
    · rfl
    · exact kept
  | none =>
    rw [Option.none_or, ite_self]
    refine Eq.trans ?_ kept
    change listing.value? (after (if !saved.store.has name then changeStore (·.put name "")
      else pure ()) saved) = _
    split
    · rename_i absent
      refine preserves_put (fun itself => ?_) "" saved
      have present : saved.store.get? listing.name = some (listing.text state) := kept.trans shows
      rw [itself, Store.has_eq_isSome_get?, present] at absent
      contradiction
    · rfl

theorem settings_finishLocal (name : String) (value : Option String) :
    Preserves settings (finishLocal name value) := by
  intro state
  obtain ⟨last, ran, edits⟩ := execute_finishLocal name value state
  rw [after_eq_of_execute ran]
  exact edits.settings

theorem settings_startLocal (name : String) : Preserves settings (startLocal name) :=
  (preserves_valueless_startLocal name).of_blind settings fun _ => rfl

/-- A declaration fails before it writes, or ends with writing. -/
theorem execute_declareLocal_cases (listing : Listing) (name : String) (value : Option String)
    (state : State) :
    ∃ middle : State, listing.value? middle = listing.value? state ∧
      middle.settings = state.settings ∧
        ((∃ fault, execute (declareLocal name value) state = (.error fault, middle)) ∨
          execute (declareLocal name value) state = execute (finishLocal name value) middle) := by
  rw [execute_declareLocal_eq]
  split
  · exact ⟨state, rfl, rfl, .inl ⟨_, rfl⟩⟩
  split
  · exact ⟨state, rfl, rfl, .inl ⟨_, rfl⟩⟩
  split
  · exact ⟨state, rfl, rfl, .inr rfl⟩
  refine ⟨after (startLocal name) state, preserves_value?_startLocal name state,
    settings_startLocal name state, ?_⟩
  rcases ran : execute (startLocal name) state with ⟨fault | _, middle⟩
  · exact .inl ⟨fault, by rw [execute_bind_of_error ran, after_eq_of_execute ran]⟩
  · exact .inr (by rw [execute_bind_of_ok ran, after_eq_of_execute ran])

/-- A listing stays as it should be exactly if it is not made local with another text. -/
theorem Shows.declareLocal_iff (shows : state.Shows listing) (name : String)
    (value : Option String) :
    (after (declareLocal name value) state).Shows listing ↔
      ¬ state.Declares listing name value := by
  obtain ⟨middle, kept, settings, ⟨fault, failed⟩ | ran⟩ :=
    execute_declareLocal_cases listing name value state
  · rw [after_eq_of_execute failed]
    refine iff_of_true ((shows.iff_of_settings settings).mpr kept) fun declares => ?_
    rw [Declares, failed] at declares
    exact nomatch declares.2.2
  · have still : middle.Shows listing := (shows.iff_of_settings settings).mpr kept
    have text := text_eq_of_settings settings listing
    obtain ⟨last, finished, -⟩ := execute_finishLocal name value middle
    rw [finished] at ran
    rw [Declares, ran, after_eq_of_execute ran, ← after_eq_of_execute finished,
      still.iff_of_settings (settings_finishLocal name value middle),
      value?_finishLocal still, still, text]
    by_cases itself : name = listing.name
    · cases value <;> simp [itself]
    · simp [itself]

end Declaring

section Closing

variable {frame : Frame} {scope : Table (Option String)}

/-- A call that ends puts another text back into the variable of the listing. -/
def PutsBack (state : State) (listing : Listing) (frame : Frame) : Prop :=
  ∃ scope ∈ state.scopes.head?, (∃ saved, scope[listing.name]? = some saved ∧
    saved ≠ some (listing.text state)) ∧ (execute (closeValues frame.scope) state).1 = .ok ()

theorem preserves_value?_dropLocalElements (scope : Table (Option String)) (array : String) :
    Preserves listing.value? (dropLocalElements scope array) := by
  refine preserves_forElements array fun key other => ?_
  split
  · exact fun _ => rfl
  · exact preserves_dropKey other

/-- What is in the variable once the values of a call are put back. -/
theorem value?_closeValues (shows : state.Shows listing) (level : Nat) :
    listing.value? (after (closeValues level) state) = listing.value? state ↔
      ¬ ∃ scope ∈ state.scopes.head?, (∃ saved, scope[listing.name]? = some saved ∧
        saved ≠ some (listing.text state)) ∧ (execute (closeValues level) state).1 = .ok () := by
  cases scopes : state.scopes with
  | nil =>
    refine iff_of_true ?_ (by simp)
    unfold closeValues
    rw [after_get_bind, scopes]
    rfl
  | cons scope outer =>
    have each : ∀ array, Preserves listing.value? (dropLocalElements scope array) :=
      preserves_value?_dropLocalElements scope
    have dropped := Preserves.forM each (state.hiddenBy level) { state with scopes := outer }
    rw [after, execute_closeValues_eq scopes]
    rcases ran : execute ((state.hiddenBy level).forM (dropLocalElements scope))
      { state with scopes := outer } with ⟨fault | _, middle⟩
    · rw [after_eq_of_execute ran] at dropped
      rw [execute_bind_of_error ran]
      exact iff_of_true dropped (by simp)
    · rw [after_eq_of_execute ran] at dropped
      rw [execute_bind_of_ok ran, execute_changeStore]
      have before : middle.store.get? listing.name = some (listing.text state) :=
        dropped.trans shows
      have back : listing.value? { middle with store := restoreValues middle.store scope } =
          scope[listing.name]?.getD (some (listing.text state)) := by
        rw [Listing.value?, get?_restoreValues, before]
      rw [back, shows]
      cases found : scope[listing.name]? <;> simp [found]

/-- What else a call puts back are attributes, exports and positional parameters. -/
theorem preserves_value?_closeAttributes : Preserves listing.value? closeAttributes := by
  intro state
  unfold closeAttributes
  rw [after_get_bind]
  cases state.store.saved <;> rfl

theorem preserves_value?_closeExports (restored : List String) :
    Preserves listing.value? (closeExports restored) := by
  intro state
  unfold closeExports
  rw [after_get_bind]
  cases state.localExports with
  | nil => rfl
  | cons exported exports =>
    change (dropExports _ state.store).get? listing.name = _
    rw [dropExports_eq]
    rfl

theorem preserves_value?_setPositional (values : List String) :
    Preserves listing.value? (setPositional values) :=
  fun state => get?_replacePositional state.store values listing.not_positional_name

theorem settings_closeFrame (frame : Frame) : Preserves settings (closeFrame frame) :=
  (preserves_uncalled_closeFrame frame).of_blind settings fun _ => rfl

/-- A listing stays as it should be exactly if the call puts no other text back. -/
theorem Shows.closeFrame_iff (shows : state.Shows listing) (frame : Frame) :
    (after (closeFrame frame) state).Shows listing ↔ ¬ state.PutsBack listing frame := by
  rw [shows.iff_of_settings (settings_closeFrame frame state), PutsBack,
    ← value?_closeValues shows frame.scope]
  unfold closeFrame
  refine Eq.congr_left (Preserves.after_bind (fun _ => ?_) state)
  refine preserves_value?_closeAttributes.bind fun restored => ?_
  refine Preserves.bind (fun _ => rfl) fun _ => ?_
  refine (preserves_value?_closeExports restored).bind fun _ => ?_
  refine (preserves_value?_setPositional _).bind fun _ => ?_
  cases frame.count.isNone with
  | false => exact fun _ => rfl
  | true =>
    have other : "#" ≠ listing.name := fun same => listing.not_positional_name (.inl same.symm)
    exact (preserves_drop other).bind fun _ _ => rfl

end Closing

section Opening

variable {limits : Limits} {source : Option String} {args : List String} {line : Option Int}

/-- The parameters of a new call are not the listings. -/
theorem Shows.openFrame (shows : state.Shows listing) :
    (after (openFrame limits name source args line) state).Shows listing := by
  unfold State.openFrame
  rw [after_get_bind]
  by_cases deep : limits.callDepth < state.callDepth + 1
  · rw [if_pos deep]
    exact shows
  · rw [if_neg deep]
    exact (get?_replacePositional _ args listing.not_positional_name).trans shows

end Opening

end State

/-- What a host asks for about options, variables and calls. -/
inductive Demand
  | setOption (option : String) (on : Bool)
  | setFlag (flag : String) (on : Bool)
  | setShopt (option : String) (on : Bool)
  | setVariable (name value : String)
  | unset (name : String)
  | declareLocal (name : String) (value : Option String)
  | openCall (function : String) (source : Option String) (args : List String) (line : Option Int)
  | closeCall

/-- The step that a session takes for it. -/
def Demand.step : Demand → Step
  | setOption option on => .operation (.setOption option on)
  | setFlag flag on => .operation (.setFlag flag on)
  | setShopt option on => .operation (.setShopt option on)
  | setVariable name value => .operation (.setVariable name value)
  | unset name => .operation (.unset name)
  | declareLocal name value => .operation (.declareLocal name value)
  | openCall function source args line => .openFrame function source args line
  | closeCall => .closeFrame

namespace Session

open State

variable {session : Session} {listing : Listing}

/-- The session after a demand, which may have failed. -/
def serve (session : Session) (demand : Demand) : Session := (session.step demand.step).2

/-- The session after some demands. -/
def serveAll (session : Session) (demands : List Demand) : Session :=
  demands.foldl serve session

/-- Both variables show the options that are on. -/
def InSync (session : Session) : Prop := ∀ listing, session.machine.state.Shows listing

/-- The demand gives the variable of the listing another text, or takes its value away. -/
def Disturbs (session : Session) (listing : Listing) : Demand → Prop
  | .setOption _ _ | .setFlag _ _ | .setShopt _ _ | .openCall _ _ _ _ => False
  | .setVariable name value => session.machine.state.Overwrites listing name value
  | .unset name => session.machine.state.Erases listing name
  | .declareLocal name value => session.machine.state.Declares listing name value
  | .closeCall => ∃ frame ∈ session.frames.head?, session.machine.state.PutsBack listing frame

/-- No demand, when its turn comes, disturbs a listing. -/
def Undisturbed : Session → List Demand → Prop
  | _, [] => True
  | session, demand :: rest =>
    (∀ listing, ¬ session.Disturbs listing demand) ∧ (session.serve demand).Undisturbed rest

theorem state_operation {operation : Operation} {write : Write Unit}
    (writes : operation.write? = some write) (session : Session) :
    (session.step (.operation operation)).2.machine.state =
      after write session.machine.state :=
  state_perform_of_write { session.machine with host := [] } writes

theorem state_openFrame (function : String) (source : Option String) (args : List String)
    (line : Option Int) (session : Session) :
    (session.step (.openFrame function source args line)).2.machine.state =
      after (State.openFrame session.limits function source args line) session.machine.state := by
  change (Session.openFrame _ function source args line).2.machine.state =
    ((State.openFrame session.limits function source args line).run session.machine.state).2
  unfold Session.openFrame
  dsimp only
  rcases (State.openFrame session.limits function source args line).run session.machine.state with
    ⟨_ | _, _⟩ <;> rfl

theorem state_closeFrame (session : Session) :
    (session.step .closeFrame).2.machine.state =
      match session.frames with
      | [] => session.machine.state
      | frame :: _ => after (State.closeFrame frame) session.machine.state := by
  change (Session.closeFrame { session with
    machine := { session.machine with host := [] } }).2.machine.state = _
  unfold Session.closeFrame
  dsimp only
  cases session.frames with
  | nil => rfl
  | cons frame outer => exact state_fromWrite _ (State.closeFrame frame)

/-- A demand leaves a listing as it should be exactly if it does not disturb it. -/
theorem shows_serve_iff (shows : session.machine.state.Shows listing) (demand : Demand) :
    (session.serve demand).machine.state.Shows listing ↔ ¬ session.Disturbs listing demand := by
  cases demand with
  | setOption option on =>
    rw [serve, Demand.step, state_operation rfl]
    exact iff_of_true (shows.switched (switched_setOption option on _)) id
  | setFlag flag on =>
    rw [serve, Demand.step, state_operation rfl]
    exact iff_of_true (shows.switched (switched_setFlag flag on _)) id
  | setShopt option on =>
    rw [serve, Demand.step, state_operation rfl]
    exact iff_of_true (shows.switched (switched_setShopt option on _)) id
  | setVariable name value =>
    rw [serve, Demand.step, state_operation rfl]
    exact shows.setVariable_iff name value
  | unset name =>
    rw [serve, Demand.step, state_operation rfl]
    exact shows.unset_iff name
  | declareLocal name value =>
    rw [serve, Demand.step, state_operation rfl]
    exact shows.declareLocal_iff name value
  | openCall function source args line =>
    rw [serve, Demand.step, state_openFrame]
    exact iff_of_true shows.openFrame id
  | closeCall =>
    rw [serve, Demand.step, state_closeFrame, Disturbs]
    cases session.frames with
    | nil => exact iff_of_true shows (by simp)
    | cons frame outer => simpa using shows.closeFrame_iff frame

/-- Both listings are as they should be after each demand exactly if none disturbs one. -/
theorem inSync_serveAll_iff (inSync : session.InSync) (demands : List Demand) :
    (∀ front, front <+: demands → (session.serveAll front).InSync) ↔
      session.Undisturbed demands := by
  induction demands generalizing session with
  | nil => simpa [Undisturbed, serveAll] using inSync
  | cons demand rest inductionHypothesis =>
    have step : (session.serve demand).InSync ↔ ∀ listing, ¬ session.Disturbs listing demand :=
      forall_congr' fun listing => shows_serve_iff (inSync listing) demand
    rw [Undisturbed, ← step]
    constructor
    · intro each
      have first : (session.serve demand).InSync := each [demand] (by simp)
      exact ⟨first, (inductionHypothesis first).mp fun front shorter =>
        each (demand :: front) (by simpa using shorter)⟩
    · rintro ⟨first, quiet⟩ front shorter
      rcases List.prefix_cons_iff.mp shorter with rfl | ⟨tail, rfl, further⟩
      · exact inSync
      · exact (inductionHypothesis first).mpr quiet tail further

/-- Whatever is asked of a new shell, failing demands included: in every state that is reached
the two variables show the options that are on, exactly if no demand disturbs a listing when its
turn comes. -/
theorem listings_in_sync_iff (startup : Startup) (around : State) (limits : Limits)
    (hook : CommandHook) (demands : List Demand) :
    (∀ front, front <+: demands →
        ((ofStartup startup around limits hook).serveAll front).InSync) ↔
      (ofStartup startup around limits hook).Undisturbed demands :=
  inSync_serveAll_iff (fun listing => shows_syncListings _ listing) demands

/-- A listing that is assigned another text no longer shows the options. -/
theorem assigned_listing_differs :
    ¬ ((ofStartup ⟨[], {}⟩ {} {} (.answering fun _ => {})).serveAll
      [.setVariable "SHELLOPTS" "x"]).InSync := by
  intro inSync
  have shown := inSync .set
  exact absurd shown (by decide +kernel)

end Session

end Shell
