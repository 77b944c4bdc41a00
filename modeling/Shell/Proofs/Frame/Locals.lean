import Shell.Proofs.Frame.Operation

/-!
# Local variables come back

Between the opening of a call and its closing any operations may take place, and calls
that are complete. When the call is closed, a variable that was made local in it is
again what it was before, provided that the local arrays of the call can be listed.
An index of more digits than can be read is enough to prevent that.
-/

namespace Shell.State

open Running

/-- A state without open calls and without arrays, in which all keys are apart from a variable. -/
structure Fresh (name : String) (state : State) : Prop where
  scopes : state.scopes = []
  saved : state.store.saved = []
  exports : state.localExports = []
  shadows : state.shadows = []
  associative : state.associative = ∅
  attributes : ∀ other, state.store.hasAttribute other Attribute.associative = false
  apart : ∀ key, state.store.has key = true → Apart name key

/-- States reached from a first one by operations that spare a variable, and by opening and closing
calls. The frames are those that were opened and are not closed yet, innermost first. -/
inductive Steps (name : String) (first : State) : List Frame → State → Prop
  | start : Steps name first [] first
  | operate {κ σ : Type} {frames : List Frame} {machine : Machine (Function κ) σ}
      {operation : Operation} :
      Steps name first frames machine.state → operation.Spares name machine.state →
        Steps name first frames (after (Session.perform operation) machine).state
  | enter {frames : List Frame} {state inside : State} {limits : Limits} {function : String}
      {source : Option String} {args : List String} {line : Option Int} {frame : Frame} :
      Steps name first frames state →
        execute (openFrame limits function source args line) state = (.ok frame, inside) →
          Steps name first (frame :: frames) inside
  | leave {frames : List Frame} {frame : Frame} {state last : State} :
      Steps name first (frame :: frames) state → state.SingleLine →
        execute (closeFrame frame) state = (.ok (), last) → Steps name first frames last

/-- An operation that writes takes the state to the one after the writing. -/
theorem Steps.write {name : String} {first state : State} {frames : List Frame}
    {operation : Operation} {action : Write Unit} (writes : operation.write? = some action)
    (steps : Steps name first frames state) (spares : operation.Spares name state) :
    Steps name first frames (after action state) := by
  let machine : Machine (Function Unit) Unit := { state := state, host := () }
  rw [← Session.state_perform_of_write machine writes]
  exact .operate steps spares

theorem Fresh.sound {name : String} {state : State} (fresh : state.Fresh name) :
    state.Sound name := by
  refine ⟨⟨?_, ?_⟩, ?_, ?_, ?_, ?_, ?_, ?_⟩
  · rw [fresh.attributes, isAssociative, fresh.associative]
    rfl
  · intro _ suffix present
    exact absurd rfl ((fresh.apart _ present).1 suffix)
  · rw [fresh.saved, fresh.scopes]
    rfl
  · rw [fresh.exports, fresh.scopes]
    rfl
  · intro layer member
    rw [State.layers, fresh.scopes] at member
    simp at member
  · simp [fresh.shadows]
  · simp [fresh.shadows]
  · simp [fresh.shadows, fresh.scopes, shadowsOf, levelsOf]

theorem Sound.length_layers {name : String} {state : State} (sound : state.Sound name) :
    state.layers.length = state.scopes.length := by
  rw [State.layers, List.length_zipWith, sound.saved, Nat.min_self]

/-- An empty layer saves nothing. -/
theorem Layer.sound_empty (name : String) : Layer.Sound name ⟨∅, ∅⟩ := by
  refine ⟨?_, rfl, ?_, ?_⟩
  · intro suffix contained
    simp at contained
  · intro suffix found
    simp at found
  · intro saved found
    simp at found

/-- Opening a call adds an empty layer. -/
theorem Sound.opening {name : String} {state inside : State} {limits : Limits} {function : String}
    {source : Option String} {args : List String} {line : Option Int} {frame : Frame}
    (sound : state.Sound name) (identifier : Text.isName name.toList = true)
    (opened : execute (openFrame limits function source args line) state = (.ok frame, inside)) :
    inside.Sound name ∧ inside.layers = ⟨∅, ∅⟩ :: state.layers ∧
      frame.scope = state.scopes.length := by
  unfold openFrame at opened
  rw [execute_get_bind] at opened
  split at opened
  · cases opened
  · cases opened
    let entered := state.enter ⟨function, line.getD state.line, sourceOrMain source⟩
    have layers : entered.layers = ⟨∅, ∅⟩ :: state.layers := rfl
    have enteredSound : entered.Sound name := by
      refine ⟨⟨sound.regular.registered, sound.regular.indices⟩, ?_, ?_, ?_, sound.distinct,
        sound.apart, ?_⟩
      · exact congrArg Nat.succ sound.saved
      · exact congrArg Nat.succ sound.exports
      · rw [layers]
        intro layer member
        rcases List.mem_cons.mp member with rfl | inRest
        · exact Layer.sound_empty name
        · exact sound.layers layer inRest
      · have missing : (∅ : Table (Option String)).contains name = false := by simp
        change _ = levelsOf name (∅ :: state.scopes)
        rw [levelsOf, missing]
        exact sound.levels
    have positional := proceeds_setPositional identifier args entered
    refine ⟨positional.sound enteredSound, ?_, rfl⟩
    change List.zipWith Layer.mk entered.scopes (replacePositional entered.store args).saved = _
    rw [replacePositional_eq]
    exact layers

/-- What holds of every state that is reached: the layers of the first state are below those of
the open calls, and save the same of the variable. -/
structure Reached (name : String) (first : State) (frames : List Frame) (state : State) :
    Prop where
  sound : state.Sound name
  layers : ∃ fresh base, state.layers = fresh ++ base ∧ fresh.length = frames.length ∧
    List.Forall₂ (Layer.Follows name) first.layers base
  levels : ∀ earlier frame later, frames = earlier ++ frame :: later →
    frame.scope = first.scopes.length + later.length

theorem Reached.length_scopes {name : String} {first state : State} {frames : List Frame}
    (reached : Reached name first frames state) (start : first.Sound name) :
    state.scopes.length = first.scopes.length + frames.length := by
  obtain ⟨fresh, base, layers, count, follows⟩ := reached.layers
  rw [← reached.sound.length_layers, layers, List.length_append, count, ← follows.length_eq,
    start.length_layers, Nat.add_comm]

theorem Steps.reached {name : String} {first state : State} {frames : List Frame}
    (identifier : Text.isName name.toList = true) (start : first.Sound name)
    (steps : Steps name first frames state) : Reached name first frames state := by
  induction steps with
  | start =>
    exact ⟨start, ⟨[], first.layers, rfl, rfl, forall₂_follows_refl name first.layers⟩, by simp⟩
  | @operate κ σ frames machine operation _ spares inductionHypothesis =>
    have proceeds := Session.proceeds_perform machine identifier spares
    obtain ⟨fresh, base, layers, count, follows⟩ := inductionHypothesis.layers
    have next := proceeds.layers inductionHypothesis.sound
    have above := List.forall₂_take fresh.length next
    have below := List.forall₂_drop fresh.length next
    rw [layers, List.take_left] at above
    rw [layers, List.drop_left] at below
    exact ⟨proceeds.sound inductionHypothesis.sound,
      ⟨_, _, (List.take_append_drop _ _).symm, above.length_eq.symm.trans count,
        forall₂_follows_trans follows below⟩, inductionHypothesis.levels⟩
  | enter _ opened inductionHypothesis =>
    obtain ⟨sound, layers, level⟩ := inductionHypothesis.sound.opening identifier opened
    obtain ⟨fresh, base, below, count, follows⟩ := inductionHypothesis.layers
    refine ⟨sound, ⟨⟨∅, ∅⟩ :: fresh, base, ?_, ?_, follows⟩, ?_⟩
    · rw [layers, below]
      rfl
    · rw [List.length_cons, List.length_cons, count]
    · intro earlier frame later split
      cases earlier with
      | nil =>
        obtain ⟨rfl, rfl⟩ := List.cons.inj split
        rw [level, inductionHypothesis.length_scopes start]
      | cons head tail =>
        obtain ⟨-, rest⟩ := List.cons.inj split
        exact inductionHypothesis.levels tail frame later rest
  | @leave frames frame state last _ single ran inductionHypothesis =>
    have level : frame.scope + 1 = state.scopes.length := by
      rw [inductionHypothesis.levels [] frame frames rfl,
        inductionHypothesis.length_scopes start, List.length_cons, Nat.add_assoc]
    have closable := closable_of_closeFrame single ran
    obtain ⟨closed, layer, rest, closing, layers, lastLayers, sound, -⟩ :=
      inductionHypothesis.sound.closing identifier level closable
    rw [ran] at closing
    obtain ⟨-, rfl⟩ := Prod.mk.inj closing
    obtain ⟨fresh, base, below, count, follows⟩ := inductionHypothesis.layers
    obtain ⟨top, others, rfl⟩ := List.exists_cons_of_length_eq_add_one count
    rw [layers, List.cons_append] at below
    refine ⟨sound, ⟨others, base, ?_, Nat.succ.inj count, follows⟩, ?_⟩
    · rw [lastLayers]
      exact (List.cons.inj below).2
    · intro earlier other later split
      exact inductionHypothesis.levels (frame :: earlier) other later (by rw [split]; rfl)

/-- What was saved of a regular variable is the variable itself. -/
theorem Returns.agrees {name : String} {layer : Layer} {state last : State}
    (returned : Returns name layer last) (saves : layer.Saves name state)
    (regular : state.Regular name) : Agrees name state last := by
  have attributes : last.store.attributes[name]? = state.store.attributes[name]? := by
    rw [returned.attributes, saves.attributes]
    rfl
  refine ⟨?_, attributes, ?_⟩
  · intro key owned
    rw [returned.values key owned]
    rcases owned with rfl | ⟨suffix, rfl⟩
    · rw [saves.self]
      rfl
    · rw [saves.elements]
      cases state.store.get? (elementKey name suffix) <;> rfl
  · rw [returned.associative, regular.registered, Store.hasAttribute, Store.hasAttribute,
      Store.attributesOf, Store.attributesOf, attributes]

section LongIndex

/-- A shell with one variable: its name is that of an element of `y` at an index that is too long.
-/
def longIndexState : State := { store := ({} : Store).put (elementKey "y" Text.longIndex) "" }

/-- The same shell in a call. -/
def longIndexCall : State :=
  let inside := longIndexState.enter ⟨"f", 0, mainSource⟩
  { inside with store := replacePositional inside.store [] }

/-- The call after `x` was made local to it. -/
def longIndexLocal : State :=
  let saved := withSavedAttributes "x" (hide "x" longIndexCall)
  { saved with store := saved.store.put "x" "new" }

theorem apart_of_heads {name other : String} {c d : Char} {rest more : List Char}
    (first : name.toList = c :: rest) (second : other.toList = d :: more) (different : c ≠ d) :
    Apart name other := by
  refine ⟨?_, ?_⟩
  · rintro suffix rfl
    rw [toList_elementKey, first] at second
    exact different (List.cons.inj second).1
  · rintro suffix rfl
    rw [toList_elementKey, second] at first
    exact different (List.cons.inj first).1.symm

theorem apart_longKey : Apart "x" (elementKey "y" Text.longIndex) :=
  apart_of_heads (by rfl) (toList_elementKey _ _) (by decide)

theorem apart_longKey_ne : "x" ≠ elementKey "y" Text.longIndex := by
  intro equality
  have heads := congrArg (fun text : String => text.toList.head?) equality
  rw [toList_elementKey] at heads
  exact absurd heads (by decide)

theorem fresh_longIndexState : longIndexState.Fresh "x" := by
  refine ⟨rfl, rfl, rfl, rfl, rfl, fun other => rfl, ?_⟩
  intro key present
  rw [Store.has_eq_isSome_get?] at present
  change ((({} : Store).put (elementKey "y" Text.longIndex) "").get? key).isSome = true at present
  rw [Store.get?_put] at present
  split at present
  · rename_i same
    rw [← same]
    exact apart_longKey
  · contradiction

theorem get?_longIndexCall {key : String} (other : ¬ Positional key) :
    longIndexCall.store.get? key =
      if elementKey "y" Text.longIndex = key then some "" else none := by
  refine (get?_replacePositional _ [] other).trans ?_
  exact Store.get?_put _ _ _ _

theorem store_hide (name : String) (state : State) : (hide name state).store = state.store := by
  unfold hide saveValue
  cases state.scopes <;> rfl

theorem get?_saveAttributes (store : Store) (name key : String) :
    (store.saveAttributes name).get? key = store.get? key := by
  unfold Store.saveAttributes
  cases store.saved <;> rfl

theorem store_longIndexLocal :
    longIndexLocal.store = (longIndexCall.store.saveAttributes "x").put "x" "new" := by
  rw [← store_hide "x" longIndexCall]
  rfl

theorem get?_longIndexLocal (key : String) :
    longIndexLocal.store.get? key =
      if "x" = key then some "new" else longIndexCall.store.get? key := by
  rw [store_longIndexLocal, Store.get?_put, get?_saveAttributes]

theorem attributes_saveAttributes (store : Store) (name : String) :
    (store.saveAttributes name).attributes = store.attributes := by
  unfold Store.saveAttributes
  cases store.saved <;> rfl

theorem isNameref_longIndexLocal (name : String) :
    longIndexLocal.store.isNameref name = false := by
  have none : longIndexLocal.store.attributes = ∅ := by
    rw [store_longIndexLocal, Store.attributes_put, attributes_saveAttributes]
    exact attributes_replacePositional _ []
  unfold Store.isNameref Store.hasAttribute Store.attributesOf
  rw [none]
  rfl

theorem not_positional_element (name suffix : String)
    (identifier : Text.isName name.toList = true) :
    ¬ Positional (elementKey name suffix) :=
  not_positional_of_owns identifier (owns_elementKey name suffix)

theorem execute_declareLocal_longIndexCall :
    execute (declareLocal "x" (some "new")) longIndexCall = (.ok (), longIndexLocal) := by
  have empty : ∀ suffix, (hide "x" longIndexCall).store.has (elementKey "x" suffix) = false := by
    intro suffix
    have different : elementKey "y" Text.longIndex ≠ elementKey "x" suffix :=
      apart_longKey.1 suffix
    rw [store_hide, Store.has_eq_isSome_get?,
      get?_longIndexCall (not_positional_element "x" suffix rfl), if_neg different]
    rfl
  have started := execute_startLocal_of_empty empty
  rw [execute_declareLocal_eq, if_neg (by decide), if_neg (by decide), if_neg (by decide),
    execute_bind_of_ok started]
  rfl

theorem longKey_mem_longIndexLocal :
    (hide "y" longIndexLocal).store.has (elementKey "y" Text.longIndex) = true := by
  rw [store_hide, Store.has_eq_isSome_get?, get?_longIndexLocal, if_neg apart_longKey_ne,
    get?_longIndexCall (not_positional_element "y" _ rfl), if_pos rfl]
  rfl

theorem isAssociative_longIndexLocal (array : String) :
    (hide "y" longIndexLocal).isAssociative array = false := rfl

theorem Positional.newline_notMem {key : String} (positional : Positional key) :
    '\n' ∉ key.toList := by
  rcases positional with rfl | ⟨n, rfl⟩
  · decide
  · have digits : (toString n).toList = Nat.toDigits 10 n := toString_eq_iff.mp rfl
    rw [digits]
    exact Text.newline_notMem_toDigits n

theorem singleLine_longIndexCall : longIndexCall.SingleLine := by
  intro key present
  by_cases positional : Positional key
  · exact positional.newline_notMem
  · rw [Store.has_eq_isSome_get?, get?_longIndexCall positional] at present
    split at present
    · rename_i same
      rw [← same, toList_elementKey]
      simpa using Text.newline_notMem_longIndex
    · contradiction

theorem singleLine_longIndexLocal : (hide "y" longIndexLocal).SingleLine := by
  intro key present
  rw [store_hide, Store.has_eq_isSome_get?, get?_longIndexLocal] at present
  split at present
  · rename_i same
    rw [← same]
    decide
  · rw [← Store.has_eq_isSome_get?] at present
    exact singleLine_longIndexCall key present

/-- A variable with an element at an index that is too long is hidden, and then its elements cannot
be listed. -/
theorem execute_declareLocal_of_long {name : String} {state : State}
    (identifier : Text.isName name.toList = true) (inCall : state.scopes.isEmpty = false)
    (notLocal : state.isLocal name = false) (plain : (hide name state).isAssociative name = false)
    (single : (hide name state).SingleLine)
    (present : (hide name state).store.has (elementKey name Text.longIndex) = true) :
    ∃ fault, execute (declareLocal name none) state = (.error fault, hide name state) := by
  have unreadable : ¬ (hide name state).Readable name := by
    intro readable
    obtain ⟨n, short, spelled⟩ := readable plain Text.longIndex present Text.isIndex_longIndex
    exact Text.longIndex_ne_toDigits short (toString_eq_iff.mp spelled)
  obtain ⟨fault, failed⟩ := elementKeys_of_not_readable (fun suffix => single.suffix) unreadable
  refine ⟨fault, ?_⟩
  rw [execute_declareLocal_eq, if_neg (by simp [inCall]), if_neg (by simp [identifier]),
    if_neg (by simp [notLocal]), execute_bind_of_error (execute_startLocal_of_error failed)]

theorem execute_declareLocal_longIndexLocal :
    ∃ fault, execute (declareLocal "y" none) longIndexLocal =
      (.error fault, hide "y" longIndexLocal) :=
  execute_declareLocal_of_long rfl rfl (by decide) (isAssociative_longIndexLocal "y")
    singleLine_longIndexLocal longKey_mem_longIndexLocal

theorem steps_longIndexCall :
    Steps "x" longIndexState [longIndexState.frame "f"] longIndexCall := by
  have opened : execute (openFrame {} "f" none [] none) longIndexState =
      (.ok (longIndexState.frame "f"), longIndexCall) := rfl
  exact .enter .start opened

/-- Closing the call stops at `y`, when the values of `x` are not put back yet. -/
theorem get?_closeFrame_longIndex :
    (after (closeFrame (longIndexState.frame "f")) (hide "y" longIndexLocal)).store.get? "x" =
      some "new" := by
  obtain ⟨scope, scopes⟩ : ∃ scope, (hide "y" longIndexLocal).scopes = [scope] := ⟨_, rfl⟩
  let popped : State := { hide "y" longIndexLocal with scopes := [] }
  have names : (hide "y" longIndexLocal).hiddenBy 0 = ["x", "y"] := rfl
  have noElements : ∀ suffix, popped.store.has (elementKey "x" suffix) = false := by
    intro suffix
    change (hide "y" longIndexLocal).store.has _ = false
    rw [store_hide, Store.has_eq_isSome_get?, get?_longIndexLocal,
      if_neg (elementKey_ne_self "x" suffix).symm,
      get?_longIndexCall (not_positional_element "x" suffix rfl), if_neg (apart_longKey.1 suffix)]
    rfl
  have noneYet : popped.Drops scope [] [] := by simp [Drops]
  have clearable : popped.Clearable scope [] "x" := by
    intro _ suffix present
    rw [noElements] at present
    contradiction
  obtain ⟨more, first, drops⟩ := execute_dropLocalElements noneYet clearable
  have stuck : ¬ popped.Clearable scope ([] ++ ["x"]) "y" := by
    intro clearableToo
    rcases clearableToo rfl Text.longIndex longKey_mem_longIndexLocal Text.isIndex_longIndex with
      ⟨n, short, spelled⟩ | ⟨other, member, lists, -⟩
    · exact Text.longIndex_ne_toDigits short (toString_eq_iff.mp spelled)
    · obtain rfl : other = "x" := by simpa using member
      obtain ⟨-, suffix, equality, -⟩ := lists
      exact apart_longKey.1 suffix equality
  have lines : popped.SingleLine := singleLine_longIndexLocal
  obtain ⟨fault, second⟩ := execute_dropLocalElements_of_not lines drops stuck
  have failed : execute (closeValues 0) (hide "y" longIndexLocal) =
      (.error fault, { popped with store := popped.store.dropAll ([] ++ more) }) := by
    rw [execute_closeValues_eq scopes, names]
    apply execute_bind_of_error
    refine (execute_forM_cons _ _ _ _).trans ?_
    exact (execute_bind_of_ok first).trans (execute_bind_of_error second)
  have level : (longIndexState.frame "f").scope = 0 := rfl
  have stopped : execute (closeFrame (longIndexState.frame "f")) (hide "y" longIndexLocal) =
      (.error fault, { popped with store := popped.store.dropAll ([] ++ more) }) := by
    unfold closeFrame
    rw [level]
    exact execute_bind_of_error failed
  rw [after_eq_of_execute stopped]
  have kept : "x" ∉ [] ++ more := by
    intro member
    obtain ⟨array, hidden, lists, -⟩ := (drops _).mp member
    obtain rfl : array = "x" := by simpa using hidden
    obtain ⟨-, suffix, equality, -⟩ := lists
    exact elementKey_ne_self "x" suffix equality.symm
  change (popped.store.dropAll ([] ++ more)).get? "x" = some "new"
  rw [Store.get?_dropAll, if_neg kept]
  change (hide "y" longIndexLocal).store.get? "x" = some "new"
  rw [store_hide, get?_longIndexLocal, if_pos rfl]

end LongIndex

/-- A variable is made local to a call that is open, then any operations and complete calls follow.
The declaration succeeds; closing the call succeeds, with the variable as it was before the
declaration, exactly if the local arrays of the call can be listed. -/
theorem closing_restores_local_iff {name : String} {fresh state inside : State} {frame : Frame}
    {outer : List Frame} (identifier : Text.isName name.toList = true) (start : fresh.Fresh name)
    (reached : Steps name fresh (frame :: outer) state) (notLocal : state.isLocal name = false)
    (value : Option String) (body : Steps name (after (declareLocal name value) state) [] inside)
    (single : inside.SingleLine) :
    (execute (declareLocal name value) state).1 = .ok () ∧
      ((∃ last, execute (closeFrame frame) inside = (.ok (), last) ∧ Agrees name state last) ↔
        inside.Closable frame.scope) := by
  have before := reached.reached identifier start.sound
  have depth := before.length_scopes start.sound
  have inCall : state.scopes ≠ [] := by
    apply List.ne_nil_of_length_pos
    rw [depth, List.length_cons]
    omega
  obtain ⟨declared, layer, old, rest, ran, declaredSound, oldLayers, newLayers, saves, -⟩ :=
    execute_declareLocal before.sound identifier inCall notLocal value
  rw [after_eq_of_execute ran] at body
  have inBody := body.reached identifier declaredSound
  obtain ⟨none, base, layers, empty, follows⟩ := inBody.layers
  obtain rfl := List.eq_nil_of_length_eq_zero empty
  rw [List.nil_append] at layers
  rw [newLayers, ← layers] at follows
  obtain ⟨top, below, insideLayers, followsTop⟩ : ∃ top below, inside.layers = top :: below ∧
      layer.Follows name top := by
    cases listing : inside.layers with
    | nil =>
      rw [listing] at follows
      cases follows
    | cons top below =>
      rw [listing] at follows
      cases follows with
      | cons head tail => exact ⟨top, below, rfl, head⟩
  have hidden : layer.values.contains name = true := by
    rw [← Std.ExtTreeMap.isSome_getElem?_eq_contains, saves.self]
    rfl
  have kept := followsTop hidden
  have level : frame.scope + 1 = inside.scopes.length := by
    have declaredDepth : declared.scopes.length = state.scopes.length := by
      rw [← declaredSound.length_layers, newLayers, ← before.sound.length_layers, oldLayers]
      rfl
    rw [inBody.length_scopes declaredSound, declaredDepth, depth,
      before.levels [] frame outer rfl, List.length_cons, List.length_nil]
    omega
  refine ⟨by rw [ran], ?_, ?_⟩
  · rintro ⟨last, closed, -⟩
    exact closable_of_closeFrame single closed
  · intro closable
    obtain ⟨last, innermost, others, closed, lastLayers, -, -, returned⟩ :=
      inBody.sound.closing identifier level closable
    rw [insideLayers] at lastLayers
    obtain ⟨rfl, -⟩ := List.cons.inj lastLayers
    refine ⟨last, closed, Returns.agrees (returned ?_) (saves.of_keeps kept) before.sound.regular⟩
    rw [kept.contains (owns_self name), hidden]

/-- An array and an export inside the call are undone. -/
theorem closing_restores_local_associative :
    longIndexState.Fresh "x" ∧ Steps "x" longIndexState [longIndexState.frame "f"] longIndexCall ∧
      ∃ last, execute (closeFrame (longIndexState.frame "f"))
          (after (exportLocal "x") (after (declareAssociative "x") longIndexLocal)) =
            (.ok (), last) ∧
        Agrees "x" longIndexCall last := by
  refine ⟨fresh_longIndexState, steps_longIndexCall, ?_⟩
  have spares : ∀ operation : Operation, operation.writes = ["x"] → ¬ operation.Tampers "x" →
      ∀ state : State, state.store.isNameref "x" = false → operation.Spares "x" state := by
    intro operation writes honest state direct
    refine ⟨?_, honest⟩
    intro written member target leads
    rw [writes, List.mem_singleton] at member
    subst member
    rw [leads.eq_self (by decide) direct]
    exact Apart.refl "x"
  let declared : State := after (declareAssociative "x") longIndexLocal
  have direct : declared.store.isNameref "x" = false := by
    have plain := isNameref_longIndexLocal "x"
    unfold Store.isNameref at plain ⊢
    change (longIndexLocal.store.addAttribute "x" Attribute.associative).hasAttribute "x" _ = false
    rw [Store.hasAttribute_addAttribute, plain]
    decide
  have body : Steps "x" longIndexLocal [] (after (exportLocal "x") declared) := by
    have first : Steps "x" longIndexLocal [] declared :=
      Steps.write rfl .start
        (spares (.declareAssociative "x") rfl id longIndexLocal (isNameref_longIndexLocal "x"))
    exact Steps.write rfl first (spares (.exportLocal "x") rfl id declared direct)
  have called := execute_declareLocal_longIndexCall
  refine (closing_restores_local_iff rfl fresh_longIndexState steps_longIndexCall (by decide)
    (some "new") (by rw [after_eq_of_execute called]; exact body) ?_).2.mpr ?_
  · have values : ∀ (state : State) (key : String),
        (after (exportLocal "x") (after (declareAssociative "x") state)).store.has key =
          state.store.has key := fun _ _ => rfl
    intro key present
    rw [values, ← store_hide "y"] at present
    exact singleLine_longIndexLocal key present
  · intro scope _ earlier array later split
    have names : (after (exportLocal "x") declared).hiddenBy 0 = ["x"] := rfl
    have level : (longIndexState.frame "f").scope = 0 := rfl
    rw [level, names] at split
    have member : array ∈ ["x"] := by rw [split]; simp
    obtain rfl : array = "x" := by simpa using member
    have associative : (after (exportLocal "x") declared).isAssociative "x" = true :=
      Std.ExtTreeSet.contains_insert_self
    intro plain
    exact absurd (associative.symm.trans plain) (by decide)

/-- With a variable whose name ends in a long index, a local variable keeps its value after the
call: making `y` local fails, and so does closing the call. -/
theorem long_index_keeps_local :
    ∃ (fresh state inside : State) (frame : Frame), fresh.Fresh "x" ∧
      Steps "x" fresh [frame] state ∧ state.isLocal "x" = false ∧
        Steps "x" (after (declareLocal "x" (some "new")) state) [] inside ∧ inside.SingleLine ∧
          ¬ Agrees "x" state (after (closeFrame frame) inside) := by
  refine ⟨longIndexState, longIndexCall, hide "y" longIndexLocal, longIndexState.frame "f",
    fresh_longIndexState, steps_longIndexCall, by decide, ?_, singleLine_longIndexLocal, ?_⟩
  · rw [after_eq_of_execute execute_declareLocal_longIndexCall]
    obtain ⟨fault, failed⟩ := execute_declareLocal_longIndexLocal
    have apart : Apart "x" "y" := apart_of_heads (by rfl) (by rfl) (by decide)
    have spares : (Operation.declareLocal "y" none).Spares "x" longIndexLocal := by
      refine ⟨?_, id⟩
      intro written member target leads
      obtain rfl : written = "y" := by simpa [Operation.writes] using member
      rw [leads.eq_self (by decide) (isNameref_longIndexLocal "y")]
      exact apart
    rw [← after_eq_of_execute failed]
    exact Steps.write rfl .start spares
  · intro agrees
    have value := agrees.values "x" (owns_self "x")
    rw [get?_closeFrame_longIndex,
      get?_longIndexCall (not_positional_of_owns rfl (owns_self "x")), if_neg apart_longKey_ne.symm]
      at value
    contradiction

end Shell.State
