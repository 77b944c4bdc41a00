import Shell.Proofs.Frame.Declare
import Shell.Proofs.Variable.Reading

/-!
# Writing one variable leaves another alone

What is read of a variable depends on the keys and attributes that it owns, and on
parts of the state that no write of a variable changes. Variables with names that
are apart own no common key. So all writes of one of them, whether they succeed or
fail, leave everything that is read of the other as it was.
-/

namespace Shell.State

open Running

/-- All that reading a variable looks at is the same in two states. -/
structure Untouched (name : String) (first second : State) : Prop extends
    Agrees name first second where
  surroundings : second.surroundings = first.surroundings
  seconds : name = "SECONDS" → second.secondsBase = first.secondsBase

/-- What is read of a variable is the same in two states: its value after any queries, and the text
that either state reads, unless that is a random number or a time that has moved on. -/
structure ReadsAlike (name : String) (first second : State) : Prop where
  value : second.value name = first.value name
  text : name ≠ "RANDOM" →
    (name = "SECONDS" → second.sources.time second.queries = first.sources.time first.queries) →
    (execute (reading fun state => state.value name) second).1 =
      (execute (reading fun state => state.value name) first).1
  isSet : (execute (reading fun state => state.isSet name) second).1 =
    (execute (reading fun state => state.isSet name) first).1
  isArray : second.isArray name = first.isArray name
  elements : second.elements name = first.elements name
  attributes : second.store.attributes[name]? = first.store.attributes[name]?

section Reading

variable {name : String} {first second : State}

theorem Agrees.has (agrees : Agrees name first second) {key : String} (owned : Owns name key) :
    second.store.has key = first.store.has key := by
  rw [Store.has_eq_isSome_get?, Store.has_eq_isSome_get?, agrees.values key owned]

theorem Agrees.hasAttribute (agrees : Agrees name first second) (letter : String) :
    second.store.hasAttribute name letter = first.store.hasAttribute name letter :=
  Store.hasAttribute_congr agrees.attributes letter

/-- The suffixes of an array stand in the order of their keys. -/
theorem ordered_suffixes (state : State) (array : String) :
    (state.suffixes array).Pairwise fun before later =>
      compare (elementKey array before) (elementKey array later) = .lt := by
  refine List.Pairwise.filterMap _ ?_ Std.ExtTreeMap.ordered_keys
  intro before later less suffix found other foundOther
  rw [← dropHead?_elementKey.mp found, ← dropHead?_elementKey.mp foundOther]
  exact less

/-- Suffixes of a kind are listed alike where the store has the same of them. -/
theorem filter_suffixes_congr {array : String} (keep : String → Bool)
    (same : ∀ suffix, keep suffix = true →
      second.store.has (elementKey array suffix) = first.store.has (elementKey array suffix)) :
    (second.suffixes array).filter keep = (first.suffixes array).filter keep := by
  refine List.Perm.eq_of_pairwise ?_ ((ordered_suffixes second array).filter _)
    ((ordered_suffixes first array).filter _) ?_
  · intro before later _ _ less greater
    exact absurd greater (Std.OrientedCmp.not_lt_of_lt less)
  · rw [List.perm_ext_iff_of_nodup (nodup_suffixes.filter _) (nodup_suffixes.filter _)]
    intro suffix
    rw [List.mem_filter, List.mem_filter, mem_suffixes, mem_suffixes, and_congr_left_iff]
    intro kept
    rw [same suffix kept]

theorem suffixes_congr {array : String}
    (same : ∀ suffix, second.store.has (elementKey array suffix) =
      first.store.has (elementKey array suffix)) :
    second.suffixes array = first.suffixes array := by
  simpa using filter_suffixes_congr (fun _ => true) fun suffix _ => same suffix

theorem Agrees.suffixes (agrees : Agrees name first second) :
    second.suffixes name = first.suffixes name :=
  suffixes_congr fun suffix => agrees.has (owns_elementKey name suffix)

theorem Agrees.indices (agrees : Agrees name first second) :
    second.indices name = first.indices name := by
  rw [State.indices, State.indices, agrees.suffixes]

theorem Agrees.ownElements (agrees : Agrees name first second) :
    second.ownElements name = first.ownElements name := by
  have values : ∀ suffix, second.store.get? (elementKey name suffix) =
      first.store.get? (elementKey name suffix) := fun suffix =>
    agrees.values _ (owns_elementKey name suffix)
  have elementAt : second.elementAt name = first.elementAt name := by
    funext index
    rw [State.elementAt, State.elementAt, values]
  simp only [State.ownElements, agrees.associative, agrees.suffixes, agrees.indices, values,
    elementAt]

theorem Untouched.same (untouched : Untouched name first second) {α : Type} (part : State → α) :
    part second.surroundings = part first.surroundings := by
  rw [untouched.surroundings]

theorem Untouched.callArray? (untouched : Untouched name first second) :
    second.callArray? name = first.callArray? name :=
  untouched.same fun state => state.callArray? name

theorem Untouched.isArray (untouched : Untouched name first second) :
    second.isArray name = first.isArray name := by
  have declared : second.isDeclaredArray name = first.isDeclaredArray name := by
    simp only [State.isDeclaredArray, untouched.callArray?, untouched.associative,
      untouched.hasAttribute]
  rw [State.isArray, State.isArray, declared, untouched.indices]

theorem Untouched.stored (untouched : Untouched name first second) :
    second.stored name = first.stored name := by
  rw [State.stored, State.stored, untouched.callArray?, untouched.values name (owns_self name),
    untouched.isArray, untouched.values _ (owns_elementKey name "0")]

theorem Untouched.isStored (untouched : Untouched name first second) :
    second.isStored name = first.isStored name := by
  rw [State.isStored, State.isStored, untouched.callArray?, untouched.has (owns_self name),
    untouched.isArray, untouched.has (owns_elementKey name "0")]

theorem Untouched.isNameref (untouched : Untouched name first second)
    (plain : first.store.isNameref name = false) : second.store.isNameref name = false :=
  (untouched.hasAttribute Attribute.nameref).trans plain

theorem Untouched.elements (untouched : Untouched name first second)
    (plain : first.store.isNameref name = false) : second.elements name = first.elements name := by
  rw [State.elements, State.elements, untouched.callArray?, resolved_of_not_nameref plain,
    resolved_of_not_nameref (untouched.isNameref plain), untouched.ownElements]

/-- A reading that asks nothing has the same result wherever it is the same. -/
theorem execute_reading_congr {α : Type} {read : State → Draw α} {result : Except Fault α}
    (same : read second = read first) (steady : read first = MonadExcept.ofExcept result) :
    (execute (reading read) second).1 = (execute (reading read) first).1 := by
  unfold reading
  rw [execute_get_bind, execute_get_bind, same, steady]
  cases result <;> rfl

/-- The seconds are counted from the time that is asked for. -/
theorem execute_reading_seconds {state : State} (plain : state.store.isNameref "SECONDS" = false) :
    (execute (reading fun state => state.value "SECONDS") state).1 =
      state.secondsText (state.sources.time state.queries) := by
  rw [execute_reading_eq, value_of_isIdentifier (by decide) plain]
  change (execute (MonadExcept.ofExcept _) _).1 = _
  rw [execute_ofExcept]

theorem Untouched.secondsText (untouched : Untouched name first second)
    (seconds : name = "SECONDS") :
    second.secondsText = first.secondsText := by
  have start : second.startTime = first.startTime := untouched.same (·.startTime)
  funext now
  rw [State.secondsText, State.secondsText, elapsed, elapsed, untouched.seconds seconds, start]

section Identifier

variable (identifier : Text.isIdentifier name.toList = true)

include identifier

theorem Untouched.computed? (untouched : Untouched name first second) :
    second.computed? name = first.computed? name := by
  unfold State.computed?
  split
  -- The parameters whose names are no identifiers.
  case h_1 | h_2 | h_4 | h_5 | h_6 | h_7 | h_8 | h_10 => exact absurd identifier (by decide)
  case h_3 =>
    exact untouched.same fun state => some (MonadExcept.ofExcept (spell state.processId))
  case h_9 => exact untouched.same fun state => some (pure state.lastArgument)
  case h_11 => exact untouched.same fun state => some (MonadExcept.ofExcept (spell state.line))
  case h_12 => exact untouched.same fun state => some do
    MonadExcept.ofExcept (spell (← state.sources.drawNumber))
  case h_13 =>
    rw [untouched.secondsText rfl]
    exact untouched.same fun state => some do
      MonadExcept.ofExcept (first.secondsText (← state.sources.drawTime))
  case h_14 => exact untouched.same fun state => some (pure state.optionListing)
  case h_15 => exact untouched.same fun state => some (pure state.shoptListing)
  all_goals rfl

theorem Untouched.value (untouched : Untouched name first second)
    (plain : first.store.isNameref name = false) : second.value name = first.value name := by
  rw [value_of_isIdentifier identifier plain,
    value_of_isIdentifier identifier (untouched.isNameref plain),
    untouched.computed? identifier, untouched.stored]

/-- A variable that is untouched is read as before. -/
theorem Untouched.readsAlike (untouched : Untouched name first second)
    (plain : first.store.isNameref name = false) : ReadsAlike name first second where
  value := untouched.value identifier plain
  text steady timed := by
    by_cases seconds : name = "SECONDS"
    · subst seconds
      rw [execute_reading_seconds plain, execute_reading_seconds (untouched.isNameref plain),
        untouched.secondsText rfl, timed rfl]
    · obtain ⟨result, read⟩ := value_eq_ofExcept identifier plain steady seconds
      exact execute_reading_congr (untouched.value identifier plain) read
  isSet := by
    obtain ⟨result, read⟩ := isSet_eq_ofExcept identifier plain
    refine execute_reading_congr ?_ read
    rw [isSet_of_isIdentifier identifier plain,
      isSet_of_isIdentifier identifier (untouched.isNameref plain), untouched.isStored]
  isArray := untouched.isArray
  elements := untouched.elements plain
  attributes := untouched.attributes

end Identifier

end Reading

/-- The ways to write a variable, an array or one of its elements. -/
inductive Writing
  | assign (value : String)
  | assignElement (subscript value : String) (nonempty : subscript ≠ "")
  | setArray (values : List String)
  | setElement (subscript value : String)
  | setAssociativeArray (items : List (String × String))
  | declareAssociative
  | clearArray
  | unset
  | unsetElement (subscript : String) (nonempty : subscript ≠ "")

/-- Write the variable of a name. -/
def Writing.perform (name : String) : Writing → Write Unit
  | assign value => setVariable name value
  | assignElement subscript value _ => setVariable (Reference.text ⟨name, subscript⟩) value
  | setArray values => State.setArray name values
  | setElement subscript value => State.setElement name subscript value
  | setAssociativeArray items => State.setAssociativeArray name items
  | declareAssociative => State.declareAssociative name
  | clearArray => State.clearArray name
  | unset => State.unset name
  | unsetElement subscript _ => State.unset (Reference.text ⟨name, subscript⟩)

section Writing

variable {name : String} {state : State}

/-- An operation that edits what a plain name leads to edits the variable of that name. -/
theorem Edits.of_leadsTo {last : State}
    (identifier : Text.isIdentifier name.toList = true) (plain : state.store.isNameref name = false)
    (edits : ∃ target, LeadsTo state name target ∧ Edits target state last) :
    Edits name state last := by
  obtain ⟨target, leads, edited⟩ := edits
  rw [leads.eq_self (Reference.parse?_of_isIdentifier identifier) plain] at edited
  exact edited

/-- Whatever is written, and whether that succeeds or fails, only one variable is edited. -/
theorem Writing.edits (writing : Writing) (identifier : Text.isIdentifier name.toList = true)
    (plain : state.store.isNameref name = false) :
    Edits name state (after (writing.perform name) state) := by
  have parsed : ∀ subscript, subscript ≠ "" →
      Reference.parse? (Reference.text ⟨name, subscript⟩) = some ⟨name, subscript⟩ :=
    fun _ nonempty => Reference.parse?_text identifier nonempty
  cases writing with
  | assign value => exact .of_leadsTo identifier plain (edits_setVariable name value state)
  | assignElement subscript value nonempty =>
    rw [perform, setVariable, parsed subscript nonempty]
    exact .of_leadsTo identifier plain (edits_setElement name subscript value state)
  | setArray values => exact .of_leadsTo identifier plain (edits_setArray name values state)
  | setElement subscript value =>
    exact .of_leadsTo identifier plain (edits_setElement name subscript value state)
  | setAssociativeArray items =>
    exact .of_leadsTo identifier plain (edits_setAssociativeArray name items state)
  | declareAssociative => exact Edits.declare state name
  | clearArray => exact edits_clearArray name state
  | unset => exact .of_leadsTo identifier plain (edits_unset name state)
  | unsetElement subscript nonempty =>
    rw [perform, State.unset, after_get_bind, unsetWithin, parsed subscript nonempty]
    refine .of_leadsTo identifier plain (edits_unsetElement ⟨name, subscript⟩ state fun array => ?_)
    exact edits_unsetWithin state.nesting array state

/-- A variable apart from the written one is untouched. -/
theorem Edits.untouched {other : String} {last : State} (edits : Edits name state last)
    (apart : Apart name other) (different : name ≠ other) : Untouched other state last where
  toAgrees := edits.agrees apart.symm different.symm
  surroundings := edits.surroundings
  seconds := by
    rintro rfl
    exact edits.seconds different

end Writing

/-- Writing a variable in any way leaves all that is read of another one as it was, if neither name
is the other with an underscore and more after it. -/
theorem Writing.readsAlike_apart (writing : Writing) (state : State) {name other : String}
    (identifier : Text.isIdentifier name.toList = true)
    (otherIdentifier : Text.isIdentifier other.toList = true)
    (different : name ≠ other) (apart : Apart name other)
    (plain : state.store.isNameref name = false)
    (otherPlain : state.store.isNameref other = false) :
    ReadsAlike other state (after (writing.perform name) state) :=
  ((writing.edits identifier plain).untouched apart different).readsAlike otherIdentifier otherPlain

/-- Two arrays, the name of one longer by a letter. -/
def twoArrays : State :=
  { store := (((({} : Store).put "x_0" "p").put "x_1" "q").put "xy_0" "r").addAttribute "xy"
      Attribute.indexed }

theorem apart_x_xy : Apart "x" "xy" := by
  constructor
  · intro suffix equality
    have texts := congrArg String.toList equality
    simp at texts
  · intro suffix equality
    have texts := congrArg String.toList equality
    simp at texts

theorem readsAlike_twoArrays_unset :
    twoArrays.elements "xy" = .ok [(.index 0, "r")] ∧ Apart "x" "xy" ∧
      ReadsAlike "xy" twoArrays (after (Writing.unset.perform "x") twoArrays) :=
  ⟨rfl, apart_x_xy, Writing.readsAlike_apart .unset twoArrays (by decide) (by decide) (by decide)
    apart_x_xy (by decide) (by decide)⟩

end Shell.State
