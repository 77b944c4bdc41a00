import Shell.Proofs.Frame.Close
import Shell.Proofs.Frame.Declare

/-!
# What a closed call puts back

A variable that was local to the call is again what the layer of the call saved, and
a variable that was not is what it was inside, except that it may lose its export.
-/

namespace Shell.State

open Running

theorem isAssociative_restoreAssociative (names : List String) (state : State) (name : String) :
    (restoreAssociative names state).isAssociative name =
      if name ∈ names then state.store.hasAttribute name Attribute.associative
      else state.isAssociative name := by
  have each : ∀ (names : List String) (associative : Names),
      (names.foldl (fun associative name =>
        if state.store.hasAttribute name Attribute.associative then associative.insert name
        else associative.erase name) associative).contains name =
      if name ∈ names then state.store.hasAttribute name Attribute.associative
      else associative.contains name := by
    intro names
    induction names with
    | nil => intro associative; simp
    | cons first rest inductionHypothesis =>
      intro associative
      rw [List.foldl_cons, inductionHypothesis]
      by_cases inRest : name ∈ rest
      · simp [inRest]
      · by_cases same : name = first
        · subst same
          cases listed : state.store.hasAttribute name Attribute.associative <;> simp [inRest]
        · cases listed : state.store.hasAttribute first Attribute.associative <;>
            simp [inRest, same, Ne.symm same, Std.ExtTreeSet.contains_insert,
              Std.ExtTreeSet.contains_erase]
  exact each names state.associative

section Exports

variable (names : List String) (store : Store)

theorem dropExports_eq :
    dropExports names store =
      { store with attributes := (dropExports names store).attributes } := by
  induction names generalizing store with
  | nil => rfl
  | cons name rest inductionHypothesis =>
    exact inductionHypothesis (store.dropAttribute name Attribute.exported)

theorem attributes_dropExports {name : String} (kept : name ∉ names) :
    (dropExports names store).attributes[name]? = store.attributes[name]? := by
  induction names generalizing store with
  | nil => rfl
  | cons first rest inductionHypothesis =>
    rw [List.mem_cons, not_or] at kept
    refine (inductionHypothesis _ kept.2).trans ?_
    rw [Store.attributes_dropAttribute, if_neg (Ne.symm kept.1)]

theorem hasAttribute_dropExports (name : String) {letter : String}
    (other : Attribute.exported ≠ letter) :
    (dropExports names store).hasAttribute name letter = store.hasAttribute name letter := by
  induction names generalizing store with
  | nil => rfl
  | cons first rest inductionHypothesis =>
    refine (inductionHypothesis _).trans ?_
    rw [Store.hasAttribute_dropAttribute, beq_false_of_ne other]
    simp

end Exports

theorem withPositionalBack_eq (frame : Frame) (store : Store) :
    withPositionalBack frame store =
      { store with values := (withPositionalBack frame store).values } := by
  unfold withPositionalBack
  split
  · rw [replacePositional_eq]
    rfl
  · exact replacePositional_eq store frame.positional

theorem get?_withPositionalBack (frame : Frame) (store : Store) {key : String}
    (other : ¬ Positional key) : (withPositionalBack frame store).get? key = store.get? key := by
  unfold withPositionalBack
  split
  · have different : "#" ≠ key := fun same => other (Or.inl same.symm)
    rw [Store.get?_drop, if_neg different, get?_replacePositional _ _ other]
  · exact get?_replacePositional _ _ other

section Closed

variable (frame : Frame) (saved : Table (Option Attributes))
  (outer : List (Table (Option Attributes))) (exported : Names) (exports : List Names)
  (state : State)

theorem saved_closed :
    (closed frame saved outer exported exports state).store.saved = outer := by
  change (withPositionalBack frame (dropExports _ _)).saved = outer
  rw [withPositionalBack_eq, dropExports_eq]
  rfl

theorem get?_closed {key : String} (other : ¬ Positional key) :
    (closed frame saved outer exported exports state).store.get? key = state.store.get? key := by
  change (withPositionalBack frame (dropExports _ _)).get? key = _
  rw [get?_withPositionalBack _ _ other, dropExports_eq]
  rfl

theorem attributes_closed {name : String} {attributes : Option Attributes}
    (found : saved[name]? = some attributes) :
    (closed frame saved outer exported exports state).store.attributes[name]? = attributes := by
  have kept : name ∉ exported.toList.filter fun name => !saved.keys.contains name := by
    intro member
    have missing := (List.mem_filter.mp member).2
    have here : name ∈ saved := by
      rw [Std.ExtTreeMap.mem_iff_isSome_getElem?, found]
      rfl
    simp [here] at missing
  change (withPositionalBack frame (dropExports _ _)).attributes[name]? = _
  rw [withPositionalBack_eq]
  refine (attributes_dropExports _ _ kept).trans ?_
  refine (getElem?_restoreAttributes _ saved name).trans ?_
  rw [found]
  rfl

theorem hasAttribute_closed {name letter : String} (unsaved : name ∉ saved)
    (other : Attribute.exported ≠ letter) :
    (closed frame saved outer exported exports state).store.hasAttribute name letter =
      state.store.hasAttribute name letter := by
  change (withPositionalBack frame (dropExports _ _)).hasAttribute name _ = _
  rw [withPositionalBack_eq]
  refine (hasAttribute_dropExports _ _ name other).trans ?_
  have missing : saved[name]? = none := Std.ExtTreeMap.getElem?_eq_none unsaved
  unfold Store.hasAttribute Store.attributesOf
  change ((Store.restoreAttributes state.store.attributes saved)[name]?.getD ∅).contains _ = _
  rw [getElem?_restoreAttributes, missing]
  rfl

theorem isAssociative_closed (name : String) :
    (closed frame saved outer exported exports state).isAssociative name =
      if name ∈ saved then
        (closed frame saved outer exported exports state).store.hasAttribute name
          Attribute.associative
      else state.isAssociative name := by
  refine (isAssociative_restoreAssociative saved.keys _ name).trans ?_
  by_cases here : name ∈ saved
  · rw [if_pos (Std.ExtTreeMap.mem_keys.mpr here), if_pos here]
    symm
    change (withPositionalBack frame (dropExports _ _)).hasAttribute name _ = _
    rw [withPositionalBack_eq]
    exact hasAttribute_dropExports _ _ name (by decide)
  · rw [if_neg (fun member => here (Std.ExtTreeMap.mem_keys.mp member)), if_neg here]
    rfl

end Closed

theorem lt_of_mem_levelsOf {name : String} {scopes : List (Table (Option String))} {level : Nat}
    (member : level ∈ levelsOf name scopes) : level < scopes.length := by
  induction scopes with
  | nil => simp [levelsOf] at member
  | cons scope outer inductionHypothesis =>
    rw [List.length_cons]
    unfold levelsOf at member
    split at member
    · rcases List.mem_cons.mp member with rfl | inOuter
      · exact Nat.lt_succ_self _
      · exact Nat.lt_succ_of_lt (inductionHypothesis inOuter)
    · exact Nat.lt_succ_of_lt (inductionHypothesis member)

/-- The innermost call hides exactly its local variables. -/
theorem Sound.mem_hiddenBy {name : String} {state : State} {scope : Table (Option String)}
    {outer : List (Table (Option String))} (sound : state.Sound name)
    (scopes : state.scopes = scope :: outer) :
    name ∈ state.hiddenBy outer.length ↔ scope.contains name = true := by
  rw [State.mem_hiddenBy sound.distinct, ← List.head?_map, sound.levels, scopes, levelsOf]
  by_cases here : scope.contains name = true
  · simp [here]
  · rw [if_neg here]
    refine ⟨fun top => ?_, fun contained => absurd contained here⟩
    have below := lt_of_mem_levelsOf (List.mem_of_mem_head? top)
    omega

theorem owns_of_lists {state : State} {array key : String} (lists : state.Lists array key) :
    Owns array key := by
  obtain ⟨-, suffix, rfl, -⟩ := lists
  exact owns_elementKey array suffix

section Closing

variable {name : String} {state : State} {frame : Frame} {scope : Table (Option String)}
  {outer : List (Table (Option String))} {saved : Table (Option Attributes)}
  {savedOuter : List (Table (Option Attributes))} {exported : Names} {exports : List Names}
  {dropped : List String}

/-- A variable of the call gets the values that were saved, and no others. -/
theorem get?_withValuesBack_of_local (regular : state.Regular name)
    (here : scope.contains name = true) {arrays : List String}
    (drops : state.Drops scope arrays dropped) (hidden : name ∈ arrays) {key : String}
    (owned : Owns name key) :
    (withValuesBack scope outer dropped state).store.get? key = scope[key]?.join := by
  refine (get?_restoreValues _ scope key).trans ?_
  cases found : scope[key]? with
  | some value => rfl
  | none =>
    have unsaved : scope.contains key = false := by
      rw [← Std.ExtTreeMap.isSome_getElem?_eq_contains, found]
      rfl
    change (state.store.dropAll dropped).get? key = none
    rw [Store.get?_dropAll]
    split
    · rfl
    · rename_i kept
      rcases owned with rfl | ⟨suffix, rfl⟩
      · rw [here] at unsaved
        contradiction
      · by_contra present
        have listed : state.Lists name (elementKey name suffix) := by
          apply regular.lists
          rw [Store.has_eq_isSome_get?]
          exact Option.isSome_iff_ne_none.mpr present
        exact kept ((drops _).mpr ⟨name, hidden, listed, unsaved⟩)

/-- Another variable keeps its values. -/
theorem get?_withValuesBack_of_not_local (layer : Layer.Sound name ⟨scope, saved⟩)
    (elsewhere : scope.contains name = false) {arrays : List String}
    (apart : ∀ array ∈ arrays, Apart name array ∧ array ≠ name)
    (drops : state.Drops scope arrays dropped) {key : String} (owned : Owns name key) :
    (withValuesBack scope outer dropped state).store.get? key = state.store.get? key := by
  have unsaved : scope.contains key = false := by
    apply Bool.eq_false_iff.mpr
    intro contained
    rcases owned with rfl | ⟨suffix, rfl⟩
    · rw [elsewhere] at contained
      contradiction
    · rw [layer.owned suffix contained] at elsewhere
      contradiction
  have missing : scope[key]? = none := Std.ExtTreeMap.getElem?_eq_none_of_contains_eq_false unsaved
  have kept : key ∉ dropped := by
    intro member
    obtain ⟨array, hidden, lists, -⟩ := (drops key).mp member
    obtain ⟨separate, different⟩ := apart array hidden
    exact Owns.disjoint separate different owned (owns_of_lists lists)
  refine (get?_restoreValues _ scope key).trans ?_
  rw [missing]
  change (state.store.dropAll dropped).get? key = state.store.get? key
  rw [Store.get?_dropAll, if_neg kept]

theorem attributes_withValuesBack :
    (withValuesBack scope outer dropped state).store.attributes = state.store.attributes := by
  unfold withValuesBack
  rw [restoreValues_eq]
  exact Store.attributes_dropAll _ _

/-- The levels of a variable once the innermost call is forgotten. -/
theorem levels_forgetScope (sound : state.Sound name) (scopes : state.scopes = scope :: outer) :
    (shadowsOf name (forgetScope outer.length state).shadows).map (·.scope) =
      levelsOf name outer := by
  have others : ∀ level ∈ levelsOf name outer, (level == outer.length) = false := by
    intro level member
    exact beq_false_of_ne (Nat.ne_of_lt (lt_of_mem_levelsOf member))
  have rest : (levelsOf name outer).dropWhile (· == outer.length) = levelsOf name outer := by
    cases listing : levelsOf name outer with
    | nil => rfl
    | cons level more => rw [List.dropWhile_cons, others level (by simp [listing])]; rfl
  have forgotten : (shadowsOf name (forgetScope outer.length state).shadows).map (·.scope) =
      (levelsOf name (scope :: outer)).dropWhile (· == outer.length) := by
    rw [← scopes, ← sound.levels, List.dropWhile_map]
    exact congrArg _ (shadowsOf_forget outer.length sound.distinct)
  rw [forgotten, levelsOf]
  split
  · rw [List.dropWhile_cons_of_pos (by simp), rest]
  · exact rest

/-- What a variable is after a call that had it as a local variable: what the layer saved. -/
structure Returns (name : String) (layer : Layer) (last : State) : Prop where
  values : ∀ key, Owns name key → last.store.get? key = layer.values[key]?.join
  attributes : last.store.attributes[name]? = layer.attributes[name]?.join
  associative : last.isAssociative name = last.store.hasAttribute name Attribute.associative

theorem returns_closed (identifier : Text.isName name.toList = true) (regular : state.Regular name)
    (here : scope.contains name = true) (layer : Layer.Sound name ⟨scope, saved⟩)
    {arrays : List String} (drops : state.Drops scope arrays dropped) (hidden : name ∈ arrays) :
    Returns name ⟨scope, saved⟩
      (closed frame saved savedOuter exported exports
        (withValuesBack scope outer dropped state)) := by
  have attributesSaved : name ∈ saved := layer.attributes.trans here
  obtain ⟨attributes, found⟩ := Option.isSome_iff_exists.mp
    (Std.ExtTreeMap.mem_iff_isSome_getElem?.mp attributesSaved)
  refine ⟨?_, ?_, ?_⟩
  · intro key owned
    rw [get?_closed _ _ _ _ _ _ (not_positional_of_owns identifier owned)]
    exact get?_withValuesBack_of_local regular here drops hidden owned
  · rw [attributes_closed _ _ _ _ _ _ found]
    change attributes = (saved[name]?).join
    rw [found]
    rfl
  · rw [isAssociative_closed, if_pos attributesSaved]

/-- What a sound layer saves is a regular variable. -/
theorem Returns.regular {layer : Layer} {last : State} (returned : Returns name layer last)
    (sound : layer.Sound name) (here : layer.values.contains name = true) :
    last.Regular name := by
  have attributesSaved : name ∈ layer.attributes := sound.attributes.trans here
  obtain ⟨attributes, found⟩ := Option.isSome_iff_exists.mp
    (Std.ExtTreeMap.mem_iff_isSome_getElem?.mp attributesSaved)
  refine ⟨returned.associative, ?_⟩
  intro plain suffix present
  apply sound.indices attributes found
  · rw [returned.associative, Store.hasAttribute, Store.attributesOf, returned.attributes, found]
      at plain
    exact plain
  · rw [Store.has_eq_isSome_get?, returned.values _ (owns_elementKey name suffix)] at present
    rw [← Std.ExtTreeMap.isSome_getElem?_eq_contains]
    cases saved : layer.values[elementKey name suffix]? with
    | none =>
      rw [saved] at present
      contradiction
    | some value => rfl

theorem regular_closed_of_not_local (identifier : Text.isName name.toList = true)
    (regular : state.Regular name) (elsewhere : scope.contains name = false)
    (layer : Layer.Sound name ⟨scope, saved⟩) {arrays : List String}
    (apart : ∀ array ∈ arrays, Apart name array ∧ array ≠ name)
    (drops : state.Drops scope arrays dropped) :
    (closed frame saved savedOuter exported exports
      (withValuesBack scope outer dropped state)).Regular name := by
  have unsaved : name ∉ saved := Bool.eq_false_iff.mp (layer.attributes.trans elsewhere)
  have values : ∀ key, Owns name key →
      (closed frame saved savedOuter exported exports
        (withValuesBack scope outer dropped state)).store.get? key = state.store.get? key := by
    intro key owned
    rw [get?_closed _ _ _ _ _ _ (not_positional_of_owns identifier owned)]
    exact get?_withValuesBack_of_not_local layer elsewhere apart drops owned
  have associative : (closed frame saved savedOuter exported exports
      (withValuesBack scope outer dropped state)).isAssociative name =
        state.isAssociative name := by
    rw [isAssociative_closed, if_neg unsaved]
    rfl
  refine ⟨?_, ?_⟩
  · rw [associative, hasAttribute_closed _ _ _ _ _ _ unsaved (by decide), regular.registered,
      Store.hasAttribute, Store.hasAttribute, Store.attributesOf, Store.attributesOf,
      attributes_withValuesBack]
  · intro plain suffix present
    rw [associative] at plain
    rw [Store.has_eq_isSome_get?, values _ (owns_elementKey name suffix),
      ← Store.has_eq_isSome_get?] at present
    exact regular.indices plain suffix present

theorem layers_eq_cons (scopes : state.scopes = scope :: outer)
    (stack : state.store.saved = saved :: savedOuter) :
    state.layers = ⟨scope, saved⟩ :: List.zipWith Layer.mk outer savedOuter := by
  simp [State.layers, scopes, stack]

theorem layers_closed :
    (closed frame saved savedOuter exported exports
      (withValuesBack scope outer dropped state)).layers =
        List.zipWith Layer.mk outer savedOuter := by
  rw [State.layers, saved_closed]
  rfl

/-- Of what makes a state sound for a variable, only the variable itself depends on what the layer
of the call has saved. -/
theorem sound_closed (sound : state.Sound name) (level : frame.scope = outer.length)
    (scopes : state.scopes = scope :: outer) (stack : state.store.saved = saved :: savedOuter)
    (exportStack : state.localExports = exported :: exports)
    (regular : (closed frame saved savedOuter exported exports
      (withValuesBack scope outer dropped state)).Regular name) :
    (closed frame saved savedOuter exported exports
      (withValuesBack scope outer dropped state)).Sound name := by
  have aligned := sound.saved
  have alignedExports := sound.exports
  rw [scopes, stack] at aligned
  rw [scopes, exportStack] at alignedExports
  have names := names_forget_sublist frame.scope state.shadows
  refine ⟨regular, ?_, ?_, ?_, ?_, ?_, ?_⟩
  · rw [saved_closed]
    exact Nat.succ.inj aligned
  · exact Nat.succ.inj alignedExports
  · intro layer member
    rw [layers_closed] at member
    refine sound.layers layer ?_
    rw [layers_eq_cons scopes stack]
    exact List.mem_cons_of_mem _ member
  · exact names.nodup sound.distinct
  · intro other member
    exact sound.apart other (names.subset member)
  · have levels := levels_forgetScope sound scopes
    rw [← level] at levels
    exact levels

/-- Closing the innermost call: it ends, every other layer stays, and a local variable of the call
is what the layer saved. -/
theorem Sound.closing (sound : state.Sound name) (identifier : Text.isName name.toList = true)
    (level : frame.scope + 1 = state.scopes.length) (closable : state.Closable frame.scope) :
    ∃ last layer rest, execute (closeFrame frame) state = (.ok (), last) ∧
      state.layers = layer :: rest ∧ last.layers = rest ∧ last.Sound name ∧
        (layer.values.contains name = true → Returns name layer last) := by
  obtain ⟨scope, outer, scopes⟩ := List.exists_cons_of_length_eq_add_one level.symm
  have innermost : frame.scope = outer.length := by
    rw [scopes] at level
    exact Nat.succ.inj level
  obtain ⟨saved, savedOuter, stack⟩ :=
    List.exists_cons_of_length_eq_add_one (sound.saved.trans level.symm)
  obtain ⟨exported, exports, exportStack⟩ :=
    List.exists_cons_of_length_eq_add_one (sound.exports.trans level.symm)
  obtain ⟨dropped, valuesBack, drops⟩ := execute_closeValues scopes closable
  have ran := execute_closeFrame valuesBack ((saved_withValuesBack _ _ _ _).trans stack) exportStack
  have layers := layers_eq_cons scopes stack
  have layerSound : Layer.Sound name ⟨scope, saved⟩ := sound.layers _ (by simp [layers])
  have hidden : name ∈ state.hiddenBy frame.scope ↔ scope.contains name = true := by
    rw [innermost]
    exact sound.mem_hiddenBy scopes
  have apart : scope.contains name = false →
      ∀ array ∈ state.hiddenBy frame.scope, Apart name array ∧ array ≠ name := by
    intro elsewhere array member
    refine ⟨sound.apart array ((hiddenBy_sublist state _).subset member), ?_⟩
    rintro rfl
    rw [hidden.mp member] at elsewhere
    contradiction
  have returned : scope.contains name = true → Returns name ⟨scope, saved⟩
      (closed frame saved savedOuter exported exports
        (withValuesBack scope outer dropped state)) :=
    fun here => returns_closed identifier sound.regular here layerSound drops (hidden.mpr here)
  have regular : (closed frame saved savedOuter exported exports
      (withValuesBack scope outer dropped state)).Regular name := by
    cases here : scope.contains name with
    | true => exact (returned here).regular layerSound here
    | false =>
      exact regular_closed_of_not_local identifier sound.regular here layerSound (apart here) drops
  exact ⟨_, ⟨scope, saved⟩, _, ran, layers, layers_closed,
    sound_closed sound innermost scopes stack exportStack regular, returned⟩

end Closing

end Shell.State
