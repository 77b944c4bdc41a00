import Shell.Proofs.Frame.Layer

/-!
# Closing a call

Closing a call lists the elements of its local arrays to drop those that are new.
This is the one thing that can fail: an array with an index of too many digits cannot
be listed. Otherwise everything that the layer saved is put back.
-/

namespace Shell

open Running

/-- A table in which an entry is put back, or dropped if it was saved as missing. -/
def putBack {α : Type} (table : Table α) (key : String) (saved : Option α) : Table α :=
  match saved with
  | none => table.erase key
  | some value => table.insert key value

@[simp]
theorem getElem?_putBack {α : Type} (table : Table α) (key : String) (saved : Option α)
    (other : String) :
    (putBack table key saved)[other]? = if key = other then saved else table[other]? := by
  cases saved with
  | none => simp [putBack, Std.ExtTreeMap.getElem?_erase]
  | some value => simp [putBack, Std.ExtTreeMap.getElem?_insert]

/-- A table in which all saved entries are put back. -/
def restored {α : Type} (table : Table α) (saved : Table (Option α)) : Table α :=
  saved.foldl putBack table

/-- Of entries with different keys only that of the wanted key matters. -/
theorem getElem?_foldl_putBack {α : Type} {items : List (String × Option α)} (key : String)
    (distinct : items.Pairwise fun first second => ¬ compare first.1 second.1 = .eq)
    (table : Table α) :
    (∀ value, (key, value) ∈ items →
        (items.foldl (fun table item => putBack table item.1 item.2) table)[key]? = value) ∧
      ((∀ value, (key, value) ∉ items) →
        (items.foldl (fun table item => putBack table item.1 item.2) table)[key]? =
          table[key]?) := by
  induction items generalizing table with
  | nil => simp
  | cons item rest inductionHypothesis =>
    obtain ⟨other, saved⟩ := item
    obtain ⟨unlike, distinctRest⟩ := List.pairwise_cons.mp distinct
    obtain ⟨found, missing⟩ := inductionHypothesis distinctRest (putBack table other saved)
    by_cases same : other = key
    · subst same
      have onlyHere : ∀ value, (other, value) ∉ rest :=
        fun value member => unlike _ member (by simp)
      refine ⟨?_, fun absent => absurd List.mem_cons_self (absent saved)⟩
      intro value member
      rcases List.mem_cons.mp member with equality | inRest
      · obtain ⟨-, rfl⟩ := Prod.mk.inj equality
        rw [List.foldl_cons, missing onlyHere, getElem?_putBack, if_pos rfl]
      · exact absurd inRest (onlyHere value)
    · refine ⟨?_, ?_⟩
      · intro value member
        rcases List.mem_cons.mp member with equality | inRest
        · exact absurd (Prod.mk.inj equality).1.symm same
        · exact found value inRest
      · intro absent
        rw [List.foldl_cons, missing fun value member =>
          absent value (List.mem_cons_of_mem _ member), getElem?_putBack, if_neg same]

theorem getElem?_restored {α : Type} (table : Table α) (saved : Table (Option α)) (key : String) :
    (restored table saved)[key]? = saved[key]?.getD table[key]? := by
  have entries := getElem?_foldl_putBack key saved.distinct_keys_toList table
  rw [restored, Std.ExtTreeMap.foldl_eq_foldl_toList]
  cases found : saved[key]? with
  | some value =>
    exact entries.1 value (Std.ExtTreeMap.mem_toList_iff_getElem?_eq_some.mpr found)
  | none =>
    refine entries.2 fun value member => ?_
    rw [Std.ExtTreeMap.mem_toList_iff_getElem?_eq_some.mp member] at found
    contradiction

namespace State

theorem restoreValues_eq (store : Store) (scope : Table (Option String)) :
    restoreValues store scope = { store with values := restored store.values scope } := by
  unfold restoreValues restored
  rw [Std.ExtTreeMap.foldl_eq_foldl_toList, Std.ExtTreeMap.foldl_eq_foldl_toList]
  generalize scope.toList = items
  induction items generalizing store with
  | nil => rfl
  | cons item rest inductionHypothesis =>
    obtain ⟨key, saved⟩ := item
    cases saved with
    | none => exact inductionHypothesis (store.drop key)
    | some value => exact inductionHypothesis (store.put key value)

theorem get?_restoreValues (store : Store) (scope : Table (Option String)) (key : String) :
    (restoreValues store scope).get? key = scope[key]?.getD (store.get? key) := by
  rw [restoreValues_eq]
  exact getElem?_restored store.values scope key

theorem getElem?_restoreAttributes (attributes : Table Attributes)
    (saved : Table (Option Attributes)) (name : String) :
    (Store.restoreAttributes attributes saved)[name]? = saved[name]?.getD attributes[name]? := by
  have step : Store.restoreAttributes attributes saved = restored attributes saved := by
    unfold Store.restoreAttributes restored
    congr 1
    funext table key value
    cases value <;> rfl
  rw [step, getElem?_restored]

theorem isDigit_of_isNameStart {c : Char} (letter : Text.isNameStart c = true) :
    c.isDigit = false := by
  apply Bool.eq_false_iff.mpr
  intro digit
  have low : c.toNat ≤ 57 := (Char.isDigit_iff_toNat.mp digit).2
  have alpha : c.isAlpha = (decide (65 ≤ c.val ∧ c.val ≤ 90) ||
      decide (97 ≤ c.val) && decide (c.val ≤ 122)) := rfl
  simp only [Text.isNameStart, alpha, Bool.or_eq_true, Bool.and_eq_true, decide_eq_true_eq,
    UInt32.le_iff_toNat_le, Char.toNat_val] at letter
  rcases letter with (⟨high, -⟩ | ⟨high, -⟩) | rfl
  · have bound : 65 ≤ c.toNat := high
    omega
  · have bound : 97 ≤ c.toNat := high
    omega
  · revert low
    decide

/-- The key is that of a positional parameter, or of their number. -/
def Positional (key : String) : Prop := key = "#" ∨ ∃ n : Nat, key = toString n

theorem not_positional_of_owns {name key : String} (identifier : Text.isName name.toList = true)
    (owned : Owns name key) : ¬ Positional key := by
  -- A name begins with a letter or an underscore, and so do the keys it owns.
  have start : ∃ c, key.toList.head? = some c ∧ Text.isNameStart c = true := by
    cases chars : name.toList with
    | nil =>
      rw [chars] at identifier
      contradiction
    | cons c rest =>
      refine ⟨c, ?_, ?_⟩
      · rcases owned with rfl | ⟨suffix, rfl⟩
        · rw [chars]
          rfl
        · rw [toList_elementKey, chars]
          rfl
      · rw [chars] at identifier
        unfold Text.isName Text.chopNewline at identifier
        split at identifier
        · cases rest with
          | nil => simp [Text.isIdentifier] at identifier
          | cons d more =>
            rw [List.dropLast_cons_of_ne_nil (by simp), Text.isIdentifier, Bool.and_eq_true]
              at identifier
            exact identifier.1
        · rw [Text.isIdentifier, Bool.and_eq_true] at identifier
          exact identifier.1
  obtain ⟨c, first, letter⟩ := start
  rintro (rfl | ⟨n, rfl⟩)
  · cases first
    revert letter
    decide
  · have digits : (toString n).toList = Nat.toDigits 10 n := toString_eq_iff.mp rfl
    rw [digits] at first
    have digit := Text.isDigit_of_mem_toDigits (List.mem_of_mem_head? first)
    rw [isDigit_of_isNameStart letter] at digit
    contradiction

theorem dropPositionalFrom_eq (store : Store) (fuel i : Nat) :
    dropPositionalFrom store fuel i =
      { store with values := (dropPositionalFrom store fuel i).values } := by
  induction fuel generalizing store i with
  | zero => rfl
  | succ fuel inductionHypothesis =>
    unfold dropPositionalFrom
    split
    · exact inductionHypothesis (store.drop (toString i)) (i + 1)
    · rfl

theorem putPositionalFrom_eq (store : Store) (i : Nat) (values : List String) :
    putPositionalFrom store i values =
      { store with values := (putPositionalFrom store i values).values } := by
  induction values generalizing store i with
  | nil => rfl
  | cons value rest inductionHypothesis =>
    exact inductionHypothesis (store.put (toString i) value) (i + 1)

theorem get?_dropPositionalFrom (store : Store) (fuel i : Nat) {key : String}
    (other : ¬ Positional key) : (dropPositionalFrom store fuel i).get? key = store.get? key := by
  induction fuel generalizing store i with
  | zero => rfl
  | succ fuel inductionHypothesis =>
    unfold dropPositionalFrom
    split
    · have different : toString i ≠ key := fun same => other (Or.inr ⟨i, same.symm⟩)
      rw [inductionHypothesis, Store.get?_drop, if_neg different]
    · rfl

theorem get?_putPositionalFrom (store : Store) (i : Nat) (values : List String) {key : String}
    (other : ¬ Positional key) : (putPositionalFrom store i values).get? key = store.get? key := by
  induction values generalizing store i with
  | nil => rfl
  | cons value rest inductionHypothesis =>
    have different : toString i ≠ key := fun same => other (Or.inr ⟨i, same.symm⟩)
    rw [putPositionalFrom, inductionHypothesis, Store.get?_put, if_neg different]

theorem get?_replacePositional (store : Store) (values : List String) {key : String}
    (other : ¬ Positional key) : (replacePositional store values).get? key = store.get? key := by
  have different : "#" ≠ key := fun same => other (Or.inl same.symm)
  rw [replacePositional, Store.get?_put, if_neg different, get?_putPositionalFrom _ _ _ other,
    get?_dropPositionalFrom _ _ _ other]

theorem replacePositional_eq (store : Store) (values : List String) :
    replacePositional store values =
      { store with values := (replacePositional store values).values } := by
  unfold replacePositional
  rw [putPositionalFrom_eq, dropPositionalFrom_eq]
  rfl

@[simp]
theorem attributes_replacePositional (store : Store) (values : List String) :
    (replacePositional store values).attributes = store.attributes := by
  rw [replacePositional_eq]

@[simp]
theorem saved_replacePositional (store : Store) (values : List String) :
    (replacePositional store values).saved = store.saved := by
  rw [replacePositional_eq]

/-- No key of the store has a newline in it. -/
def SingleLine (state : State) : Prop :=
  ∀ key, state.store.has key = true → '\n' ∉ key.toList

theorem singleLine_of_keys {state : State}
    (each : ∀ key ∈ state.store.keys, '\n' ∉ key.toList) : state.SingleLine := by
  intro key present
  exact each key ((Store.mem_keys state.store key).mpr present)

theorem SingleLine.suffix {state : State} (single : state.SingleLine) {array suffix : String}
    (present : state.store.has (elementKey array suffix) = true) : '\n' ∉ suffix.toList := by
  have whole := single _ present
  simp only [toList_elementKey, List.mem_append, List.mem_cons, not_or] at whole
  exact whole.2.2

/-- Whether the elements of a local array can be listed, once those of the arrays before it were
dropped: its indices are short, or the elements at longer ones are dropped with an earlier array. -/
def Clearable (state : State) (scope : Table (Option String)) (earlier : List String)
    (array : String) : Prop :=
  state.isAssociative array = false → ∀ suffix,
    state.store.has (elementKey array suffix) = true → Text.isIndex suffix.toList = true →
      (∃ n < Text.numberLimit, suffix = toString n) ∨
        ∃ other ∈ earlier, state.Lists other (elementKey array suffix) ∧
          scope.contains (elementKey array suffix) = false

/-- All local arrays of the innermost call can be listed when their turn comes. -/
def Closable (state : State) (level : Nat) : Prop :=
  ∀ scope ∈ state.scopes.head?, ∀ earlier array later,
    state.hiddenBy level = earlier ++ array :: later → state.Clearable scope earlier array

/-- The keys are those of new elements of some arrays. -/
def Drops (state : State) (scope : Table (Option String)) (arrays keys : List String) : Prop :=
  ∀ key, key ∈ keys ↔ ∃ array ∈ arrays, state.Lists array key ∧ scope.contains key = false

section DropLocals

variable {state : State} {scope : Table (Option String)} {earlier dropped : List String}
  {array : String}

theorem has_dropAll (store : Store) (keys : List String) (key : String) :
    (store.dropAll keys).has key = true ↔ store.has key = true ∧ key ∉ keys := by
  rw [Store.has_eq_isSome_get?, Store.has_eq_isSome_get?, Store.get?_dropAll]
  by_cases member : key ∈ keys <;> simp [member]

theorem lists_dropAll {key : String} :
    State.Lists { state with store := state.store.dropAll dropped } array key ↔
      state.Lists array key ∧ key ∉ dropped := by
  unfold Lists
  rw [has_dropAll]
  constructor
  · rintro ⟨⟨present, kept⟩, shape⟩
    exact ⟨⟨present, shape⟩, kept⟩
  · rintro ⟨⟨present, shape⟩, kept⟩
    exact ⟨⟨present, kept⟩, shape⟩

theorem readable_dropAll_iff (drops : state.Drops scope earlier dropped) :
    State.Readable { state with store := state.store.dropAll dropped } array ↔
      state.Clearable scope earlier array := by
  unfold Readable Clearable
  constructor
  · intro readable plain suffix present index
    by_cases gone : elementKey array suffix ∈ dropped
    · exact Or.inr ((drops _).mp gone)
    · exact Or.inl (readable plain suffix ((has_dropAll _ _ _).mpr ⟨present, gone⟩) index)
  · intro clearable plain suffix present index
    obtain ⟨before, kept⟩ := (has_dropAll _ _ _).mp present
    rcases clearable plain suffix before index with short | gone
    · exact short
    · exact absurd ((drops _).mpr gone) kept

theorem forM_unless {γ : Type} (items : List γ) (exempt : γ → Bool) (action : γ → Write Unit) :
    (items.forM fun item => if exempt item then pure () else action item) =
      (items.filter fun item => !exempt item).forM action := by
  induction items with
  | nil => rfl
  | cons item rest inductionHypothesis =>
    rw [List.forM, inductionHypothesis]
    by_cases skipped : exempt item = true
    · rw [if_pos skipped, List.filter_cons_of_neg (by simp [skipped]), pure_bind]
    · rw [if_neg skipped, List.filter_cons_of_pos (by simp [skipped]), List.forM]

/-- One array after those before it. -/
theorem execute_dropLocalElements (drops : state.Drops scope earlier dropped)
    (clearable : state.Clearable scope earlier array) :
    ∃ more, execute (dropLocalElements scope array)
          { state with store := state.store.dropAll dropped } =
        (.ok (), { state with store := state.store.dropAll (dropped ++ more) }) ∧
      state.Drops scope (earlier ++ [array]) (dropped ++ more) := by
  let reduced : State := { state with store := state.store.dropAll dropped }
  have readable : reduced.Readable array := (readable_dropAll_iff drops).mpr clearable
  obtain ⟨keys, listing, distinct, listed⟩ := elementKeys_of_readable readable
  refine ⟨keys.filter fun key => !scope.contains key, ?_, ?_⟩
  · change execute (dropLocalElements scope array) reduced = _
    unfold dropLocalElements
    rw [execute_get_bind, listing]
    change execute (keys.forM _) reduced = _
    rw [forM_unless, execute_dropKeys (distinct.filter _)]
    · simp only [reduced, Store.dropAll, List.foldl_append]
    · intro key member
      exact ((listed key).mp (List.mem_filter.mp member).1).1
  · intro key
    have inReduced : reduced.Lists array key ↔ state.Lists array key ∧ key ∉ dropped :=
      lists_dropAll
    simp only [List.mem_append, List.mem_filter, listed, inReduced, drops key, List.mem_singleton,
      Bool.not_eq_eq_eq_not, Bool.not_true]
    constructor
    · rintro (⟨other, member, lists, free⟩ | ⟨⟨lists, -⟩, free⟩)
      · exact ⟨other, Or.inl member, lists, free⟩
      · exact ⟨array, Or.inr rfl, lists, free⟩
    · rintro ⟨other, member | rfl, lists, free⟩
      · exact Or.inl ⟨other, member, lists, free⟩
      · by_cases gone : ∃ before ∈ earlier, state.Lists before key ∧ scope.contains key = false
        · exact Or.inl gone
        · exact Or.inr ⟨⟨lists, gone⟩, free⟩

/-- An array that cannot be listed stops the dropping. -/
theorem execute_dropLocalElements_of_not (single : state.SingleLine)
    (drops : state.Drops scope earlier dropped) (stuck : ¬ state.Clearable scope earlier array) :
    ∃ fault, execute (dropLocalElements scope array)
        { state with store := state.store.dropAll dropped } =
      (.error fault, { state with store := state.store.dropAll dropped }) := by
  let reduced : State := { state with store := state.store.dropAll dropped }
  have unreadable : ¬ reduced.Readable array := fun readable =>
    stuck ((readable_dropAll_iff drops).mp readable)
  have lines : ∀ suffix, reduced.store.has (elementKey array suffix) = true →
      '\n' ∉ suffix.toList :=
    fun suffix present => single.suffix ((has_dropAll _ _ _).mp present).1
  obtain ⟨fault, failed⟩ := elementKeys_of_not_readable lines unreadable
  refine ⟨fault, ?_⟩
  change execute (dropLocalElements scope array) reduced = _
  unfold dropLocalElements
  rw [execute_get_bind, failed]
  rfl

/-- If all arrays can be listed in their turn, the new elements of all of them are dropped. -/
theorem execute_dropLocals {later : List String} (drops : state.Drops scope earlier dropped)
    (clearable : ∀ before array after, later = before ++ array :: after →
      state.Clearable scope (earlier ++ before) array) :
    ∃ keys, execute (later.forM (dropLocalElements scope))
          { state with store := state.store.dropAll dropped } =
        (.ok (), { state with store := state.store.dropAll keys }) ∧
      state.Drops scope (earlier ++ later) keys := by
  induction later generalizing earlier dropped with
  | nil => exact ⟨dropped, rfl, by simpa using drops⟩
  | cons array rest inductionHypothesis =>
    have first : state.Clearable scope earlier array := by simpa using clearable [] array rest rfl
    obtain ⟨more, ran, dropsMore⟩ := execute_dropLocalElements drops first
    have others : ∀ before next after, rest = before ++ next :: after →
        state.Clearable scope ((earlier ++ [array]) ++ before) next := by
      intro before next after split
      have whole := clearable (array :: before) next after (by rw [split]; rfl)
      simpa using whole
    obtain ⟨keys, finished, dropsAll⟩ := inductionHypothesis dropsMore others
    refine ⟨keys, ?_, by simpa using dropsAll⟩
    rw [execute_forM_cons, execute_bind_of_ok ran]
    exact finished

/-- Conversely, if all are dropped then all could be listed. -/
theorem clearable_of_execute {later : List String} (single : state.SingleLine)
    (drops : state.Drops scope earlier dropped) {last : State} {value : Unit}
    (ran : execute (later.forM (dropLocalElements scope))
      { state with store := state.store.dropAll dropped } = (.ok value, last)) :
    ∀ before array after, later = before ++ array :: after →
      state.Clearable scope (earlier ++ before) array := by
  induction later generalizing earlier dropped with
  | nil =>
    intro before array after split
    simp at split
  | cons first rest inductionHypothesis =>
    rw [execute_forM_cons] at ran
    have clearable : state.Clearable scope earlier first := by
      by_contra stuck
      obtain ⟨fault, failed⟩ := execute_dropLocalElements_of_not single drops stuck
      rw [execute_bind_of_error failed] at ran
      cases ran
    obtain ⟨more, step, dropsMore⟩ := execute_dropLocalElements drops clearable
    rw [execute_bind_of_ok step] at ran
    intro before array after split
    cases before with
    | nil =>
      obtain ⟨rfl, -⟩ := List.cons.inj split
      simpa using clearable
    | cons head tail =>
      obtain ⟨rfl, splitRest⟩ := List.cons.inj split
      have later := inductionHypothesis dropsMore ran tail array after splitRest
      simpa using later

end DropLocals

/-- The state after the values of a call are put back, when its arrays had some new elements. -/
def withValuesBack (scope : Table (Option String)) (outer : List (Table (Option String)))
    (dropped : List String) (state : State) : State :=
  { state with
    scopes := outer
    store := restoreValues (state.store.dropAll dropped) scope }

/-- The store without the exports of a call. -/
def dropExports (names : List String) (store : Store) : Store :=
  names.foldl (fun store name => store.dropAttribute name Attribute.exported) store

/-- The state after the attributes of a call are put back. -/
def withAttributesBack (saved : Table (Option Attributes))
    (outer : List (Table (Option Attributes))) (state : State) : State :=
  restoreAssociative saved.keys
    { state with
      store := { state.store with
        attributes := Store.restoreAttributes state.store.attributes saved, saved := outer } }

/-- The store after the positional parameters of the caller are put back. -/
def withPositionalBack (frame : Frame) (store : Store) : Store :=
  if frame.count.isNone then (replacePositional store frame.positional).drop "#"
  else replacePositional store frame.positional

/-- The state after all that follows the values is put back. -/
def closed (frame : Frame) (saved : Table (Option Attributes))
    (outer : List (Table (Option Attributes))) (exported : Names) (exports : List Names)
    (state : State) : State :=
  let forgotten := forgetScope frame.scope (withAttributesBack saved outer state)
  { forgotten with
    localExports := exports
    store := withPositionalBack frame (dropExports
      (exported.toList.filter fun name => !saved.keys.contains name) forgotten.store)
    callNames := state.callNames.tail
    callLines := state.callLines.tail
    callSources := state.callSources.tail
    callDepth := state.callDepth - 1 }

theorem saved_withValuesBack (scope : Table (Option String))
    (outer : List (Table (Option String))) (dropped : List String) (state : State) :
    (withValuesBack scope outer dropped state).store.saved = state.store.saved := by
  unfold withValuesBack
  rw [restoreValues_eq]
  exact Store.saved_dropAll _ _

theorem execute_closeValues_eq {state : State} {level : Nat} {scope : Table (Option String)}
    {outer : List (Table (Option String))} (scopes : state.scopes = scope :: outer) :
    execute (closeValues level) state =
      execute ((state.hiddenBy level).forM (dropLocalElements scope) >>= fun _ =>
        changeStore (restoreValues · scope)) { state with scopes := outer } := by
  unfold closeValues
  rw [execute_get_bind, scopes]
  rfl

theorem execute_closeValues {state : State} {level : Nat} {scope : Table (Option String)}
    {outer : List (Table (Option String))} (scopes : state.scopes = scope :: outer)
    (closable : state.Closable level) :
    ∃ dropped, execute (closeValues level) state =
        (.ok (), withValuesBack scope outer dropped state) ∧
      state.Drops scope (state.hiddenBy level) dropped := by
  have clearable := closable scope (by simp [scopes])
  let popped : State := { state with scopes := outer }
  have none : popped.Drops scope [] [] := by simp [Drops]
  obtain ⟨dropped, ran, drops⟩ := execute_dropLocals none clearable
  refine ⟨dropped, ?_, drops⟩
  rw [execute_closeValues_eq scopes]
  exact execute_bind_of_ok ran

theorem closable_of_closeValues {state last : State} {level : Nat} {value : Unit}
    (single : state.SingleLine) (ran : execute (closeValues level) state = (.ok value, last)) :
    state.Closable level := by
  cases scopes : state.scopes with
  | nil =>
    unfold closeValues at ran
    rw [execute_get_bind, scopes] at ran
    cases ran
  | cons scope outer =>
    rw [execute_closeValues_eq scopes] at ran
    let popped : State := { state with scopes := outer }
    obtain ⟨value, middle, dropped, -⟩ := execute_bind_eq_ok.mp ran
    have none : popped.Drops scope [] [] := by simp [Drops]
    intro other here
    rw [scopes] at here
    cases here
    have lines : popped.SingleLine := single
    exact clearable_of_execute lines none dropped

theorem execute_closeAttributes {state : State} {saved : Table (Option Attributes)}
    {outer : List (Table (Option Attributes))} (stack : state.store.saved = saved :: outer) :
    execute closeAttributes state = (.ok saved.keys, withAttributesBack saved outer state) := by
  unfold closeAttributes
  rw [execute_get_bind, stack]
  rfl

theorem execute_closeExports {state : State} {exported : Names} {exports : List Names}
    (stack : state.localExports = exported :: exports) (restored : List String) :
    execute (closeExports restored) state = (.ok (), { state with
      localExports := exports
      store := dropExports (exported.toList.filter fun name => !restored.contains name)
        state.store }) := by
  unfold closeExports
  rw [execute_get_bind, stack]
  rfl

/-- Once the values are put back, nothing can fail. -/
theorem execute_closeFrame {state middle : State} {frame : Frame}
    {saved : Table (Option Attributes)} {outer : List (Table (Option Attributes))}
    {exported : Names} {exports : List Names} {value : Unit}
    (values : execute (closeValues frame.scope) state = (.ok value, middle))
    (stack : middle.store.saved = saved :: outer)
    (exportStack : middle.localExports = exported :: exports) :
    execute (closeFrame frame) state =
      (.ok (), closed frame saved outer exported exports middle) := by
  unfold closeFrame
  rw [execute_bind_of_ok values, execute_bind_of_ok (execute_closeAttributes stack),
    execute_modify_bind]
  have still : (forgetScope frame.scope (withAttributesBack saved outer middle)).localExports =
      exported :: exports := exportStack
  rw [execute_bind_of_ok (execute_closeExports still saved.keys)]
  unfold closed withPositionalBack
  cases frame.count.isNone <;> rfl

theorem closable_of_closeFrame {state last : State} {frame : Frame} {value : Unit}
    (single : state.SingleLine) (closed : execute (closeFrame frame) state = (.ok value, last)) :
    state.Closable frame.scope := by
  obtain ⟨_, _, valuesBack, -⟩ := execute_bind_eq_ok.mp closed
  exact closable_of_closeValues single valuesBack

theorem execute_closeFrame_of_not_closable {state : State} {frame : Frame}
    (single : state.SingleLine) (stuck : ¬ state.Closable frame.scope) :
    ∃ fault last, execute (closeFrame frame) state = (.error fault, last) := by
  cases ran : execute (closeFrame frame) state with
  | mk result last =>
    cases result with
    | error fault => exact ⟨fault, last, rfl⟩
    | ok value => exact absurd (closable_of_closeFrame single ran) stuck

/-- A call whose only local array has an element at an index that is too long cannot be closed. -/
theorem not_closable_of_longIndex {state : State} {level : Nat} {array : String}
    (inside : state.scopes ≠ []) (names : state.hiddenBy level = [array])
    (plain : state.isAssociative array = false)
    (present : state.store.has (elementKey array Text.longIndex) = true) :
    ¬ state.Closable level := by
  intro closable
  obtain ⟨scope, outer, scopes⟩ := List.exists_cons_of_ne_nil inside
  have first : scope ∈ state.scopes.head? := by
    rw [scopes]
    rfl
  rcases closable scope first [] array [] names plain Text.longIndex present
    Text.isIndex_longIndex with ⟨n, short, spelled⟩ | ⟨other, member, -⟩
  · exact Text.longIndex_ne_toDigits short (toString_eq_iff.mp spelled)
  · exact nomatch member

end State

end Shell
