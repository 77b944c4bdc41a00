import Shell.Proofs.Frame.Layer

/-!
# Declaring local variables

A local variable that is declared is saved whole in the layer of its call. What the
layers save of other variables, and of a variable that was local before, stays.
-/

namespace Shell

/-- A layer that saves a variable goes on saving the same of it. -/
def Layer.Follows (name : String) (first second : Layer) : Prop :=
  first.values.contains name = true → first.Keeps name second

namespace State

open Running

/-- The second state keeps a variable sound, and all that its layers save of the variable. -/
structure Proceeds (name : String) (first second : State) : Prop where
  sound : first.Sound name → second.Sound name
  layers : first.Sound name → List.Forall₂ (Layer.Follows name) first.layers second.layers

theorem Layer.Follows.refl (name : String) (layer : Layer) : layer.Follows name layer :=
  fun _ => Layer.Keeps.refl name layer

theorem Layer.Follows.trans {name : String} {first second third : Layer}
    (before : first.Follows name second) (next : second.Follows name third) :
    first.Follows name third := by
  intro hidden
  have keeps := before hidden
  have still : second.values.contains name = true :=
    (keeps.contains (owns_self name)).trans hidden
  exact keeps.trans (next still)

theorem forall₂_follows_refl (name : String) (layers : List Layer) :
    List.Forall₂ (Layer.Follows name) layers layers := by
  induction layers with
  | nil => exact .nil
  | cons layer rest inductionHypothesis =>
    exact .cons (Layer.Follows.refl name layer) inductionHypothesis

theorem forall₂_follows_trans {name : String} {first second third : List Layer}
    (before : List.Forall₂ (Layer.Follows name) first second)
    (next : List.Forall₂ (Layer.Follows name) second third) :
    List.Forall₂ (Layer.Follows name) first third := by
  induction before generalizing third with
  | nil =>
    cases next
    exact .nil
  | cons head tail inductionHypothesis =>
    cases next with
    | cons nextHead nextTail =>
      exact .cons (Layer.Follows.trans head nextHead) (inductionHypothesis nextTail)

theorem Proceeds.refl (name : String) (state : State) : Proceeds name state state :=
  ⟨id, fun _ => forall₂_follows_refl name state.layers⟩

theorem Proceeds.trans {name : String} {first second third : State}
    (before : Proceeds name first second) (next : Proceeds name second third) :
    Proceeds name first third :=
  ⟨fun sound => next.sound (before.sound sound),
    fun sound => forall₂_follows_trans (before.layers sound) (next.layers (before.sound sound))⟩

theorem Proceeds.bind {α β : Type} {name : String} {action : Write α} {next : α → Write β}
    {state : State} (first : Proceeds name state (after action state))
    (second : ∀ value middle, execute action state = (.ok value, middle) →
      Proceeds name middle (after (next value) middle)) :
    Proceeds name state (after (action >>= next) state) :=
  after_bind (Proceeds name) Proceeds.trans first second

/-- A variable apart from the edited one stays as it is. -/
theorem Edits.agrees {name target : String} {first second : State}
    (edits : Edits target first second) (apart : Apart name target) (different : name ≠ target) :
    Agrees name first second where
  values _ owned := edits.values _ (Owns.disjoint apart (Ne.symm different) owned)
  attributes := edits.attributes name different
  associative := edits.associative name different

theorem Edits.regular_of_apart {name target : String} {first second : State}
    (edits : Edits target first second) (apart : Apart name target)
    (start : first.Regular name) : second.Regular name := by
  by_cases same : name = target
  · subst same
    exact edits.regular start
  · exact (edits.agrees apart same).regular start

/-- A step that leaves the layers and the record of hidden values as they are. -/
theorem Proceeds.of_regular {name : String} {first second : State}
    (regular : first.Regular name → second.Regular name)
    (scopes : second.scopes = first.scopes) (saved : second.store.saved = first.store.saved)
    (shadows : second.shadows = first.shadows)
    (exports : second.localExports.length = first.localExports.length) :
    Proceeds name first second := by
  have layers : second.layers = first.layers := by rw [State.layers, State.layers, scopes, saved]
  refine ⟨fun sound => ?_, fun _ => ?_⟩
  · refine ⟨regular sound.regular, ?_, ?_, ?_, ?_, ?_, ?_⟩
    · rw [saved, scopes]
      exact sound.saved
    · rw [exports, scopes]
      exact sound.exports
    · rw [layers]
      exact sound.layers
    · rw [shadows]
      exact sound.distinct
    · rw [shadows]
      exact sound.apart
    · rw [shadows, scopes]
      exact sound.levels
  · rw [layers]
    exact forall₂_follows_refl name first.layers

theorem Edits.proceeds {name target : String} {first second : State}
    (edits : Edits target first second) (apart : Apart name target) :
    Proceeds name first second := by
  have same := edits.surroundings
  have scopes : second.surroundings.scopes = first.surroundings.scopes := by rw [same]
  have saved : second.surroundings.store.saved = first.surroundings.store.saved := by rw [same]
  have shadows : second.surroundings.shadows = first.surroundings.shadows := by rw [same]
  have exports : second.surroundings.localExports = first.surroundings.localExports := by rw [same]
  exact .of_regular (edits.regular_of_apart apart) scopes saved shadows
    (congrArg List.length exports)

/-- Saving a value of another variable. -/
theorem proceeds_saveValue {name key : String} (foreign : ¬ Owns name key) (value : Option String)
    (state : State) : Proceeds name state (saveValue key value state) := by
  unfold saveValue
  split
  · exact Proceeds.refl name state
  rename_i scope outer scopes
  have kept : ∀ other, Owns name other → (scope.insertIfNew key value)[other]? = scope[other]? := by
    intro other owned
    have different : key ≠ other := fun same => foreign (same ▸ owned)
    simp [Std.ExtTreeMap.getElem?_insertIfNew, different]
  have contained : (scope.insertIfNew key value).contains name = scope.contains name := by
    rw [← Std.ExtTreeMap.isSome_getElem?_eq_contains, kept name (owns_self name),
      Std.ExtTreeMap.isSome_getElem?_eq_contains]
  have head : ∀ saved, Layer.Keeps name ⟨scope, saved⟩ ⟨scope.insertIfNew key value, saved⟩ :=
    fun saved => ⟨kept, rfl⟩
  have layers : ∀ sound : state.Sound name, ∃ saved rest, state.layers = ⟨scope, saved⟩ :: rest ∧
      State.layers { state with scopes := scope.insertIfNew key value :: outer } =
        ⟨scope.insertIfNew key value, saved⟩ :: rest := by
    intro sound
    have aligned := sound.saved
    rw [scopes] at aligned
    obtain ⟨saved, rest, found⟩ := List.exists_cons_of_length_eq_add_one aligned
    exact ⟨saved, List.zipWith Layer.mk outer rest, by simp [State.layers, scopes, found],
      by simp [State.layers, found]⟩
  refine ⟨fun sound => ?_, fun sound => ?_⟩
  · obtain ⟨saved, rest, before, next⟩ := layers sound
    have all := sound.layers
    rw [before] at all
    refine ⟨⟨sound.regular.registered, sound.regular.indices⟩, ?_, ?_, ?_, sound.distinct,
      sound.apart, ?_⟩
    · simpa [scopes] using sound.saved
    · simpa [scopes] using sound.exports
    · rw [next]
      exact Layer.forall_sound_of_keeps all (head saved)
    · have levels := sound.levels
      rw [scopes] at levels
      simpa only [levelsOf, contained] using levels
  · obtain ⟨saved, rest, before, next⟩ := layers sound
    rw [before, next]
    exact .cons (fun _ => head saved) (forall₂_follows_refl name rest)

/-- Saving the attributes of another variable, or of one that is saved already. -/
theorem proceeds_saveAttributes {name other : String} (state : State)
    (saved : other ≠ name ∨ state.isLocal name = true) :
    Proceeds name state { state with store := state.store.saveAttributes other } := by
  unfold Store.saveAttributes
  split
  · exact Proceeds.refl name state
  rename_i attributes outer stack
  let attributes' := attributes.insertIfNew other state.store.attributes[other]?
  have layers : ∀ sound : state.Sound name, ∃ scope rest,
      state.layers = ⟨scope, attributes⟩ :: rest ∧
      State.layers { state with store := { state.store with saved := attributes' :: outer } } =
        ⟨scope, attributes'⟩ :: rest ∧ state.isLocal name = scope.contains name := by
    intro sound
    have aligned := sound.saved
    rw [stack] at aligned
    obtain ⟨scope, rest, found⟩ := List.exists_cons_of_length_eq_add_one aligned.symm
    exact ⟨scope, List.zipWith Layer.mk rest outer, by simp [State.layers, stack, found],
      by simp [State.layers, found], by simp [isLocal, found]⟩
  -- The attributes of the variable itself are saved with its value, and are not saved twice.
  have head : ∀ scope, Layer.Sound name ⟨scope, attributes⟩ →
      state.isLocal name = scope.contains name →
        Layer.Keeps name ⟨scope, attributes⟩ ⟨scope, attributes'⟩ := by
    intro scope sound here
    refine ⟨fun _ _ => rfl, ?_⟩
    change attributes'[name]? = attributes[name]?
    by_cases same : other = name
    · have contained : attributes.contains name = true := by
        rw [sound.attributes, ← here]
        exact saved.resolve_left (fun different => different same)
      have member : name ∈ attributes := contained
      subst same
      rw [Std.ExtTreeMap.getElem?_insertIfNew, if_neg (by simp [member])]
    · simp [attributes', Std.ExtTreeMap.getElem?_insertIfNew, same]
  refine ⟨fun sound => ?_, fun sound => ?_⟩
  · obtain ⟨scope, rest, before, next, here⟩ := layers sound
    have all := sound.layers
    rw [before] at all
    refine ⟨⟨sound.regular.registered, sound.regular.indices⟩, ?_, sound.exports, ?_,
      sound.distinct, sound.apart, sound.levels⟩
    · simpa [stack] using sound.saved
    · rw [next]
      exact Layer.forall_sound_of_keeps all (head scope (all _ List.mem_cons_self) here)
  · obtain ⟨scope, rest, before, next, here⟩ := layers sound
    have topSound : Layer.Sound name ⟨scope, attributes⟩ := sound.layers _ (by simp [before])
    rw [before, next]
    exact .cons (fun _ => head scope topSound here) (forall₂_follows_refl name rest)

/-- Hiding a value of another variable. -/
theorem proceeds_addShadow {name other : String} (apart : Apart name other)
    (different : other ≠ name) (shadow : Shadow) (state : State) :
    Proceeds name state { state with shadows := addShadow other shadow state.shadows } := by
  refine ⟨fun sound => ?_, fun _ => forall₂_follows_refl name state.layers⟩
  refine ⟨⟨sound.regular.registered, sound.regular.indices⟩, sound.saved, sound.exports,
    sound.layers, nodup_names_addShadow sound.distinct, ?_, ?_⟩
  · intro wanted member
    rcases mem_names_addShadow.mp member with rfl | before
    · exact apart
    · exact sound.apart wanted before
  · change (shadowsOf name (addShadow other shadow state.shadows)).map (·.scope) = _
    rw [shadowsOf_addShadow, if_neg different]
    exact sound.levels

theorem proceeds_hide {name other : String} (apart : Apart name other) (different : other ≠ name)
    (state : State) : Proceeds name state (hide other state) := by
  have foreign : ¬ Owns name other :=
    fun owned => Owns.disjoint apart.symm (Ne.symm different) (owns_self other) owned
  have stored := proceeds_saveValue foreign (state.store.get? other) state
  exact stored.trans (proceeds_addShadow apart different _ _)

theorem proceeds_saveElement {name key : String} (foreign : ¬ Owns name key) (state : State) :
    Proceeds name state (after (saveElement key) state) := by
  unfold saveElement
  rw [after_get_bind]
  split
  · exact proceeds_saveValue foreign _ state
  · exact Proceeds.refl name state

theorem Proceeds.of_sound {name : String} {first second : State}
    (proceeds : first.Sound name → Proceeds name first second) : Proceeds name first second :=
  ⟨fun sound => (proceeds sound).sound sound, fun sound => (proceeds sound).layers sound⟩

theorem Edits.layers {name : String} {first second : State} (edits : Edits name first second) :
    second.layers = first.layers := by
  have same : second.surroundings.layers = first.surroundings.layers := by rw [edits.surroundings]
  exact same

/-- The values of keys added to those that are saved. -/
def saveAll (store : Store) (keys : List String) (scope : Table (Option String)) :
    Table (Option String) :=
  keys.foldl (fun scope key => scope.insertIfNew key (store.get? key)) scope

theorem getElem?_saveAll (store : Store) (keys : List String) (scope : Table (Option String))
    (key : String) :
    (saveAll store keys scope)[key]? =
      if key ∈ keys ∧ scope.contains key = false then some (store.get? key) else scope[key]? := by
  induction keys generalizing scope with
  | nil => simp [saveAll]
  | cons first rest inductionHypothesis =>
    have step := inductionHypothesis (scope.insertIfNew first (store.get? first))
    simp only [saveAll, List.foldl_cons] at step ⊢
    rw [step, Std.ExtTreeMap.contains_insertIfNew, Std.ExtTreeMap.getElem?_insertIfNew]
    by_cases same : first = key
    · subst same
      by_cases present : first ∈ scope
      · have contained : scope.contains first = true := present
        simp [present, contained]
      · have missing : scope.contains first = false := Bool.eq_false_iff.mpr present
        simp [present, missing]
    · simp [same, Ne.symm same]

theorem execute_saveElements {state : State} {keys : List String} {scope : Table (Option String)}
    {outer : List (Table (Option String))} (scopes : state.scopes = scope :: outer)
    (present : ∀ key ∈ keys, state.store.has key = true) :
    execute (keys.forM saveElement) state =
      (.ok (), { state with scopes := saveAll state.store keys scope :: outer }) := by
  induction keys generalizing state scope with
  | nil =>
    rw [execute_forM_nil, saveAll, List.foldl_nil, ← scopes]
  | cons key rest inductionHypothesis =>
    have stored : execute (saveElement key) state = (.ok (),
        { state with scopes := scope.insertIfNew key (state.store.get? key) :: outer }) := by
      have here := present key (by simp)
      rw [Store.has_eq_isSome_get?] at here
      obtain ⟨value, found⟩ := Option.isSome_iff_exists.mp here
      simp [saveElement, found, saveValue, scopes]
    rw [execute_forM_cons, execute_bind_of_ok stored]
    exact inductionHypothesis rfl fun other member => present other (List.mem_cons_of_mem _ member)

/-- The end of a declaration: attributes are saved, and the variable gets its value. -/
def finishLocal (name : String) (value : Option String) : Write Unit := do
  modify fun state =>
    { state with
      store := state.store.saveAttributes name, unsetLocals := state.unsetLocals.erase name }
  match value with
  | some value => changeStore (·.put name value)
  | none => if !(← get).store.has name then changeStore (·.put name "")

/-- The variable is hidden, and its elements are saved. -/
def startLocal (name : String) : Write Unit := do
  modify (hide name)
  (← MonadExcept.ofExcept ((← get).elementKeys name)).forM saveElement

/-- A variable without elements is hidden, and there is nothing more to save. -/
theorem execute_startLocal_of_empty {name : String} {state : State}
    (empty : ∀ suffix, (hide name state).store.has (elementKey name suffix) = false) :
    execute (startLocal name) state = (.ok (), hide name state) := by
  have readable : (hide name state).Readable name := by
    intro _ suffix present
    rw [empty] at present
    contradiction
  obtain ⟨keys, listing, -, listed⟩ := elementKeys_of_readable readable
  have none : keys = [] := by
    apply List.eq_nil_iff_forall_not_mem.mpr
    intro key member
    obtain ⟨present, suffix, rfl, -⟩ := (listed key).mp member
    rw [empty] at present
    contradiction
  unfold startLocal
  rw [execute_modify_bind, execute_get_bind, listing, none]
  rfl

/-- An array that cannot be listed is hidden all the same. -/
theorem execute_startLocal_of_error {name : String} {state : State} {fault : Fault}
    (failed : (hide name state).elementKeys name = .error fault) :
    execute (startLocal name) state = (.error fault, hide name state) := by
  unfold startLocal
  rw [execute_modify_bind, execute_get_bind, failed]
  rfl

/-- How a declaration goes on from a given state. -/
theorem execute_declareLocal_eq (name : String) (value : Option String) (state : State) :
    execute (declareLocal name value) state =
      if state.scopes.isEmpty then (.error .localOutsideFunction, state)
      else if !Text.isName name.toList then (.error (.notAnIdentifier name), state)
      else if state.isLocal name then execute (finishLocal name value) state
      else execute (startLocal name >>= fun _ => finishLocal name value) state := by
  unfold declareLocal
  rw [execute_get_bind]
  cases outside : state.scopes.isEmpty with
  | true => rfl
  | false =>
    cases identifier : Text.isName name.toList with
    | false => rfl
    | true =>
      cases here : state.isLocal name with
      | true =>
        change execute (get >>= _) state = _
        rw [execute_get_bind, here]
        rfl
      | false =>
        change execute (get >>= _) state = _
        rw [execute_get_bind, here]
        simp only [startLocal, bind_assoc]
        rfl

/-- The state in which the attributes of a local variable are saved. -/
def withSavedAttributes (name : String) (state : State) : State :=
  { state with
    store := state.store.saveAttributes name, unsetLocals := state.unsetLocals.erase name }

/-- A declaration ends by editing the variable. -/
theorem execute_finishLocal (name : String) (value : Option String) (state : State) :
    ∃ last, execute (finishLocal name value) state = (.ok (), last) ∧
      Edits name (withSavedAttributes name state) last := by
  unfold finishLocal
  rw [execute_modify_bind]
  cases value with
  | some value => exact ⟨_, rfl, Edits.put_self _ name value⟩
  | none =>
    simp only [execute_get_bind]
    split
    · exact ⟨_, rfl, Edits.put_self _ name ""⟩
    · exact ⟨_, rfl, Edits.refl name _⟩

theorem proceeds_finishLocal {name other : String} (apart : Apart name other)
    (value : Option String) {state : State} (saved : other ≠ name ∨ state.isLocal name = true) :
    Proceeds name state (after (finishLocal other value) state) := by
  obtain ⟨last, ran, edits⟩ := execute_finishLocal other value state
  rw [after_eq_of_execute ran]
  have forgotten : Proceeds name { state with store := state.store.saveAttributes other }
      (withSavedAttributes other state) :=
    .of_regular (fun regular => ⟨regular.registered, regular.indices⟩) rfl rfl rfl rfl
  exact ((proceeds_saveAttributes state saved).trans forgotten).trans (edits.proceeds apart)

section Fresh

variable {name : String} {state : State} {scope : Table (Option String)}
  {outer : List (Table (Option String))} {saved : Table (Option Attributes)}
  {savedOuter : List (Table (Option Attributes))}

/-- The state in which a variable was just made local, with the elements under some keys. -/
def localized (name : String) (keys : List String) (state : State)
    (scope : Table (Option String)) (outer : List (Table (Option String)))
    (saved : Table (Option Attributes)) (savedOuter : List (Table (Option Attributes))) : State :=
  { state with
    scopes := saveAll state.store keys (scope.insertIfNew name (state.store.get? name)) :: outer
    shadows := addShadow name ⟨state.store.get? name, outer.length⟩ state.shadows
    store := { state.store with
      saved := saved.insertIfNew name state.store.attributes[name]? :: savedOuter }
    unsetLocals := state.unsetLocals.erase name }

/-- The layer of a variable that was just made local saves the variable. -/
theorem saves_localized (regular : state.Regular name) (fresh : scope.contains name = false)
    (sound : Layer.Sound name ⟨scope, saved⟩) {keys : List String}
    (listed : ∀ key, key ∈ keys ↔ state.Lists name key) :
    Layer.Saves name state
      ⟨saveAll state.store keys (scope.insertIfNew name (state.store.get? name)),
        saved.insertIfNew name state.store.attributes[name]?⟩ := by
  have unsaved : ¬ name ∈ scope := Bool.eq_false_iff.mp fresh
  refine ⟨?_, ?_, ?_⟩
  · have taken : (scope.insertIfNew name (state.store.get? name)).contains name = true := by simp
    change (saveAll _ _ _)[name]? = _
    rw [getElem?_saveAll, if_neg (by simp [taken])]
    rw [Std.ExtTreeMap.getElem?_insertIfNew, if_pos ⟨by simp, unsaved⟩]
  · intro suffix
    have different : name ≠ elementKey name suffix := (elementKey_ne_self name suffix).symm
    have unsavedElement : scope.contains (elementKey name suffix) = false := by
      apply Bool.eq_false_iff.mpr
      intro contained
      rw [sound.owned suffix contained] at fresh
      contradiction
    have free : (scope.insertIfNew name (state.store.get? name)).contains
        (elementKey name suffix) = false := by
      rw [Std.ExtTreeMap.contains_insertIfNew, unsavedElement]
      simpa using different
    have missing : (scope.insertIfNew name (state.store.get? name))[elementKey name suffix]? =
        none := by
      rw [← Option.not_isSome_iff_eq_none, Std.ExtTreeMap.isSome_getElem?_eq_contains, free]
      simp
    change (saveAll _ _ _)[elementKey name suffix]? = _
    rw [getElem?_saveAll, missing]
    cases found : state.store.get? (elementKey name suffix) with
    | none =>
      have unlisted : elementKey name suffix ∉ keys := by
        intro member
        have present := ((listed _).mp member).1
        rw [Store.has_eq_isSome_get?, found] at present
        contradiction
      simp [unlisted]
    | some value =>
      have present : state.store.has (elementKey name suffix) = true := by
        rw [Store.has_eq_isSome_get?, found]
        rfl
      simp [(listed _).mpr (regular.lists present), free]
  · have unsavedAttributes : ¬ name ∈ saved :=
      Bool.eq_false_iff.mp (sound.attributes.trans fresh)
    change (saved.insertIfNew name state.store.attributes[name]?)[name]? = _
    rw [Std.ExtTreeMap.getElem?_insertIfNew, if_pos ⟨by simp, unsavedAttributes⟩]

theorem sound_localized (sound : state.Sound name) (scopes : state.scopes = scope :: outer)
    (stack : state.store.saved = saved :: savedOuter) (fresh : scope.contains name = false)
    {keys : List String} (listed : ∀ key, key ∈ keys ↔ state.Lists name key) :
    (localized name keys state scope outer saved savedOuter).Sound name := by
  have layers : state.layers = ⟨scope, saved⟩ :: List.zipWith Layer.mk outer savedOuter := by
    simp [State.layers, scopes, stack]
  have all := sound.layers
  rw [layers] at all
  have saves := saves_localized sound.regular fresh (all _ List.mem_cons_self) listed
  have top := saves.sound sound.regular
  refine ⟨⟨sound.regular.registered, sound.regular.indices⟩, ?_, ?_, ?_,
    nodup_names_addShadow sound.distinct, ?_, ?_⟩
  · simpa [localized, scopes, stack] using sound.saved
  · simpa [localized, scopes] using sound.exports
  · intro layer member
    rcases List.mem_cons.mp member with rfl | inRest
    · exact top
    · exact all layer (List.mem_cons_of_mem _ inRest)
  · intro wanted member
    rcases mem_names_addShadow.mp member with rfl | before
    · exact Apart.refl wanted
    · exact sound.apart wanted before
  · have contained : (saveAll state.store keys
        (scope.insertIfNew name (state.store.get? name))).contains name = true := by
      rw [← Std.ExtTreeMap.isSome_getElem?_eq_contains]
      exact Option.isSome_iff_exists.mpr ⟨_, saves.self⟩
    have levels := sound.levels
    rw [scopes, levelsOf, fresh] at levels
    change (shadowsOf name (addShadow name _ state.shadows)).map (·.scope) =
      levelsOf name (saveAll _ _ _ :: outer)
    rw [shadowsOf_addShadow, if_pos rfl, levelsOf, if_pos contained, List.map_cons, levels]
    rfl

end Fresh

/-- A variable that is made local is saved whole in the layer of the innermost call. -/
theorem execute_declareLocal {name : String} {state : State} (sound : state.Sound name)
    (identifier : Text.isName name.toList = true) (inCall : state.scopes ≠ [])
    (fresh : state.isLocal name = false) (value : Option String) :
    ∃ last layer old rest, execute (declareLocal name value) state = (.ok (), last) ∧
      last.Sound name ∧ state.layers = old :: rest ∧ last.layers = layer :: rest ∧
        layer.Saves name state ∧ old.values.contains name = false := by
  obtain ⟨scope, outer, scopes⟩ := List.exists_cons_of_ne_nil inCall
  have aligned := sound.saved
  rw [scopes] at aligned
  obtain ⟨saved, savedOuter, stack⟩ := List.exists_cons_of_length_eq_add_one aligned
  have unsaved : scope.contains name = false := by simpa [isLocal, scopes] using fresh
  have layers : state.layers = ⟨scope, saved⟩ :: List.zipWith Layer.mk outer savedOuter := by
    simp [State.layers, scopes, stack]
  have topSound : Layer.Sound name ⟨scope, saved⟩ := sound.layers _ (by simp [layers])
  obtain ⟨keys, listing, -, listed⟩ := elementKeys_of_readable sound.regular.readable
  let hidden : State :=
    { state with
      scopes := scope.insertIfNew name (state.store.get? name) :: outer
      shadows := addShadow name ⟨state.store.get? name, outer.length⟩ state.shadows }
  have hides : hide name state = hidden := by simp [hide, saveValue, scopes, hidden]
  have keysHidden : hidden.elementKeys name = .ok keys := listing
  let stored : State :=
    { hidden with
      scopes := saveAll state.store keys (scope.insertIfNew name (state.store.get? name)) :: outer }
  have saving : execute (keys.forM saveElement) hidden = (.ok (), stored) :=
    execute_saveElements rfl fun key member => ((listed key).mp member).1
  obtain ⟨last, finished, edits⟩ := execute_finishLocal name value stored
  have middle : withSavedAttributes name stored =
      localized name keys state scope outer saved savedOuter := by
    simp [withSavedAttributes, Store.saveAttributes, stack, localized, hidden, stored]
  rw [middle] at edits
  refine ⟨last, _, _, _, ?_, ?_, layers, edits.layers, saves_localized sound.regular unsaved
    topSound listed, unsaved⟩
  · have started : execute (startLocal name) state = (.ok (), stored) := by
      unfold startLocal
      rw [execute_modify_bind, execute_get_bind, hides, keysHidden]
      exact saving
    rw [execute_declareLocal_eq, scopes, identifier, fresh]
    exact (execute_bind_of_ok started).trans finished
  · exact (edits.proceeds (Apart.refl name)).sound
      (sound_localized sound scopes stack unsaved listed)

theorem proceeds_startLocal {name other : String} (apart : Apart name other)
    (different : other ≠ name) (state : State) :
    Proceeds name state (after (startLocal other) state) := by
  unfold startLocal
  apply Proceeds.bind
  · exact proceeds_hide apart different state
  · intro _ middle _
    rw [after_get_bind]
    apply Proceeds.bind
    · rw [after_ofExcept]
      exact Proceeds.refl name middle
    · intro keys same computed
      rw [execute_ofExcept] at computed
      obtain ⟨listing, rfl⟩ := Prod.mk.inj computed
      refine after_forM (Proceeds name) (Proceeds.refl name) Proceeds.trans ?_ middle
      intro key member
      exact proceeds_saveElement
        (Owns.disjoint apart.symm (Ne.symm different) (owns_of_mem_elementKeys listing member))

/-- Declaring any variable, the one itself or one that is apart from it. -/
theorem proceeds_declareLocal {name other : String} (apart : Apart name other)
    (value : Option String) (state : State) :
    Proceeds name state (after (declareLocal other value) state) := by
  by_cases outside : state.scopes.isEmpty = true
  · rw [after, execute_declareLocal_eq, if_pos outside]
    exact Proceeds.refl name state
  by_cases identifier : Text.isName other.toList = true
  swap
  · rw [after, execute_declareLocal_eq, if_neg outside, if_pos (by simpa using identifier)]
    exact Proceeds.refl name state
  cases here : state.isLocal other with
  | true =>
    have ran : after (declareLocal other value) state = after (finishLocal other value) state := by
      rw [after, execute_declareLocal_eq, if_neg outside, if_neg (by simp [identifier]),
        if_pos here]
      rfl
    rw [ran]
    apply proceeds_finishLocal apart value
    by_cases same : other = name
    · exact Or.inr (same ▸ here)
    · exact Or.inl same
  | false =>
    by_cases same : other = name
    · subst same
      refine .of_sound fun sound => ?_
      have inCall : state.scopes ≠ [] := by simpa using outside
      obtain ⟨last, layer, old, rest, ran, lastSound, before, next, -, fresh⟩ :=
        execute_declareLocal sound identifier inCall here value
      rw [after_eq_of_execute ran]
      refine ⟨fun _ => lastSound, fun _ => ?_⟩
      rw [before, next]
      refine .cons (fun hidden => ?_) (forall₂_follows_refl other rest)
      rw [fresh] at hidden
      contradiction
    · have ran : after (declareLocal other value) state =
          after (startLocal other >>= fun _ => finishLocal other value) state := by
        rw [after, execute_declareLocal_eq, if_neg outside, if_neg (by simp [identifier]),
          if_neg (by simp [here])]
        rfl
      rw [ran]
      apply Proceeds.bind (proceeds_startLocal apart same state)
      exact fun _ middle _ => proceeds_finishLocal apart value (Or.inl same)

end State

end Shell
