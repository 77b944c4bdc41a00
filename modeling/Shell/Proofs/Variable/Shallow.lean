import Shell.Frame
import Shell.Proofs.Running
import Shell.Proofs.Text.Reference

/-!
# What needs no subscripts

A subscript may hold variables, and a nameref may hold a subscript, so reading one can
lead to another without end. Listing an array, closing a call, and assigning a name
whose namerefs hold only names evaluate no subscript. They may fail, but never for
references that are nested too deep.
-/

namespace Shell

open Running

namespace Text

theorem isNameChar_or_newline {text : List Char} (name : isName text = true) {c : Char}
    (member : c ∈ text) : isNameChar c = true ∨ c = '\n' := by
  unfold isName chopNewline at name
  split at name
  · rename_i last
    obtain ⟨front, rfl⟩ := List.getLast?_eq_some_iff.mp last
    rw [List.dropLast_concat] at name
    rcases List.mem_append.mp member with inside | newline
    · exact .inl (isNameChar_of_mem name inside)
    · exact .inr (List.mem_singleton.mp newline)
  · exact .inl (isNameChar_of_mem name member)

end Text

namespace Reference

variable {name : String}

/-- Without a bracket there is no subscript. -/
theorem parse?_of_notMem (bare : '[' ∉ name.toList) : parse? name = none := by
  unfold parse?
  dsimp only
  split
  · rename_i rest bracket
    have member : '[' ∈ name.toList :=
      (List.dropWhile_suffix Text.isNameChar).subset (bracket ▸ List.mem_cons_self)
    exact absurd member bare
  · rfl

/-- A name has no subscript. -/
theorem parse?_of_isName (valid : Text.isName name.toList = true) : parse? name = none := by
  apply parse?_of_notMem
  intro member
  rcases Text.isNameChar_or_newline valid member with other | other <;>
    exact absurd other (by decide)

/-- The subscript of a reference is a part of its text. -/
theorem subscript_subset {reference : Reference} (parsed : parse? name = some reference) :
    reference.subscript.toList ⊆ name.toList := by
  unfold parse? at parsed
  dsimp only at parsed
  split at parsed
  · rename_i rest bracket
    split at parsed
    · obtain ⟨subscript, found, rfl⟩ := Option.map_eq_some_iff.mp parsed
      have chopped : Text.chopNewline rest ⊆ rest := by
        unfold Text.chopNewline
        split
        · exact List.dropLast_subset rest
        · exact List.Subset.refl rest
      have inside : rest ⊆ name.toList := fun c member =>
        (List.dropWhile_suffix Text.isNameChar).subset (bracket ▸ List.mem_cons_of_mem _ member)
      unfold subscript? at found
      dsimp only at found
      split at found
      · cases found
        rw [String.toList_ofList]
        exact List.Subset.trans (List.Subset.trans (List.dropLast_subset _) chopped) inside
      · contradiction
    · contradiction
  · contradiction

end Reference

namespace State

section Shallow

variable {α β : Type}

/-- The result is not that references were nested too deep. -/
def IsShallow (result : Except Fault α) : Prop := result ≠ .error .nestingTooDeep

theorem isShallow_ok (value : α) : IsShallow (.ok value) := nofun

theorem isShallow_error {fault : Fault} (other : fault ≠ .nestingTooDeep) :
    IsShallow (.error fault : Except Fault α) := fun same => other (Except.error.inj same)

theorem IsShallow.bind {result : Except Fault α} {next : α → Except Fault β}
    (first : IsShallow result) (rest : ∀ value, IsShallow (next value)) :
    IsShallow (result >>= next) := by
  cases result with
  | error fault => exact isShallow_error fun same => first (congrArg Except.error same)
  | ok value => exact rest value

theorem isShallow_mapM {read : α → Except Fault β} (each : ∀ item, IsShallow (read item))
    (items : List α) : IsShallow (items.mapM read) := by
  induction items with
  | nil => exact isShallow_ok []
  | cons item rest inductionHypothesis =>
    rw [List.mapM_cons]
    exact (each item).bind fun _ => inductionHypothesis.bind fun _ => isShallow_ok _

theorem isShallow_indices (state : State) (array : String) : IsShallow (state.indices array) := by
  have read : ∀ suffix, IsShallow (readIndex suffix) := by
    intro suffix
    unfold readIndex
    dsimp only
    split
    · exact isShallow_ok _
    · exact isShallow_error nofun
  unfold indices
  rw [map_eq_pure_bind]
  exact (isShallow_mapM read _).bind fun _ => isShallow_ok _

theorem isShallow_spell (n : Int) : IsShallow (spell n) := by
  unfold spell
  split
  · exact isShallow_ok _
  · exact isShallow_error nofun

theorem isShallow_since (now base : Instant) : IsShallow (now.since base) := by
  have binary : ∀ reading : Instant, IsShallow reading.toBinary := by
    intro reading
    unfold Instant.toBinary
    split
    · split
      · exact isShallow_error nofun
      · exact isShallow_ok _
    · exact isShallow_ok _
  unfold Instant.since
  split
  · exact isShallow_ok _
  · exact (binary _).bind fun _ => (binary _).bind fun _ => isShallow_ok _

/-- The call stack is read without subscripts. -/
theorem isShallow_callArray? {state : State} {name : String} {values : Except Fault (List String)}
    (found : state.callArray? name = some values) : IsShallow values := by
  unfold callArray? at found
  split at found
  · cases found
    exact isShallow_ok _
  · split at found
    · cases found
      exact isShallow_mapM isShallow_spell _
    · split at found
      · cases found
        exact isShallow_ok _
      · contradiction

/-- The elements of an array are found without subscripts. -/
theorem isShallow_elements (state : State) (name : String) : IsShallow (state.elements name) := by
  have own : ∀ array index, IsShallow (state.elementAt array index) := by
    intro array index
    unfold elementAt
    dsimp only
    split
    · exact isShallow_ok _
    · exact isShallow_error nofun
  unfold elements ownElements
  split
  · rename_i values found
    rw [map_eq_pure_bind]
    exact (isShallow_callArray? found).bind fun _ => isShallow_ok _
  · split
    · exact isShallow_ok _
    · exact (isShallow_indices state _).bind fun _ => isShallow_mapM (own _) _

/-- The action never ends because references were nested too deep. -/
def Shallow (action : Write α) : Prop := ∀ state, IsShallow (execute action state).1

theorem Shallow.bind {action : Write α} {next : α → Write β} (first : Shallow action)
    (rest : ∀ value, Shallow (next value)) : Shallow (action >>= next) := by
  intro state
  have shallow := first state
  rw [execute_bind]
  generalize execute action state = ran at shallow
  obtain ⟨fault | value, middle⟩ := ran
  · exact isShallow_error fun same => shallow (congrArg Except.error same)
  · exact rest value middle

theorem shallow_get : Shallow (get : Write State) := fun state => isShallow_ok state

theorem shallow_modify (change : State → State) : Shallow (modify change : Write Unit) :=
  fun _ => isShallow_ok ()

theorem shallow_pure (value : α) : Shallow (pure value : Write α) := fun _ => isShallow_ok value

theorem shallow_throw {fault : Fault} (other : fault ≠ .nestingTooDeep) :
    Shallow (throw fault : Write α) := fun _ => isShallow_error other

theorem shallow_ofExcept {result : Except Fault α} (shallow : IsShallow result) :
    Shallow (MonadExcept.ofExcept result : Write α) := by
  intro state
  rw [execute_ofExcept]
  exact shallow

theorem Shallow.forM {action : α → Write Unit} (each : ∀ item, Shallow (action item))
    (items : List α) : Shallow (items.forM action) := by
  induction items with
  | nil => exact shallow_pure ()
  | cons item rest inductionHypothesis => exact (each item).bind fun _ => inductionHypothesis

end Shallow

theorem shallow_dropLocalElements (scope : Table (Option String)) (array : String) :
    Shallow (dropLocalElements scope array) := by
  have keys : ∀ state : State, IsShallow (state.elementKeys array) := by
    intro state
    unfold elementKeys
    split
    · exact isShallow_ok _
    · exact (isShallow_indices state array).bind fun _ => isShallow_ok _
  have drop : ∀ key, Shallow (dropKey key) := by
    intro key
    refine shallow_get.bind fun state => ?_
    split
    · exact shallow_modify _
    · exact shallow_throw nofun
  refine shallow_get.bind fun state => (shallow_ofExcept (keys state)).bind fun found => ?_
  refine Shallow.forM (fun key => ?_) found
  split
  · exact shallow_pure ()
  · exact drop key

/-- Closing a call needs no subscripts. -/
theorem shallow_closeFrame (frame : Frame) : Shallow (closeFrame frame) := by
  have values : Shallow (closeValues frame.scope) := by
    refine shallow_get.bind fun state => ?_
    split
    · exact shallow_throw nofun
    · refine (shallow_modify _).bind fun _ => shallow_get.bind fun inside => ?_
      exact (Shallow.forM (shallow_dropLocalElements _) _).bind fun _ => shallow_modify _
  have attributes : Shallow closeAttributes := by
    refine shallow_get.bind fun state => ?_
    split
    · exact shallow_throw nofun
    · refine (shallow_modify _).bind fun _ => (shallow_modify _).bind fun _ => ?_
      exact shallow_pure _
  have exports : ∀ restored, Shallow (closeExports restored) := by
    refine fun restored => shallow_get.bind fun state => ?_
    split
    · exact shallow_throw nofun
    · exact (shallow_modify _).bind fun _ => shallow_modify _
  refine values.bind fun _ => attributes.bind fun restored => (shallow_modify _).bind fun _ => ?_
  refine (exports restored).bind fun _ => (shallow_modify _).bind fun _ => ?_
  split
  · exact (shallow_modify _).bind fun _ => shallow_modify _
  · exact shallow_modify _

/-- No nameref holds a subscript. -/
def HasPlainNamerefs (state : State) : Prop :=
  ∀ name target, state.namerefTarget? name = some target → Reference.parse? target = none

/-- A chain of namerefs ends where it starts, or at a name that some nameref holds. -/
theorem eq_or_namerefTarget?_of_follow? {state : State} {rounds : Nat} {seen : List String}
    {current last : String} (followed : state.follow? rounds seen current = some last) :
    last = current ∨ ∃ name, state.namerefTarget? name = some last := by
  induction rounds generalizing seen current with
  | zero => cases followed
  | succ rounds inductionHypothesis =>
    unfold follow? at followed
    split at followed
    · cases followed
    · split at followed
      · rename_i nameref
        dsimp only at followed
        split at followed
        · rename_i valid
          rcases inductionHypothesis followed with rfl | found
          · refine .inr ⟨current, ?_⟩
            unfold namerefTarget?
            rw [if_pos nameref]
            cases held : state.store.get? current with
            | none =>
              rw [held] at valid
              exact absurd valid (by decide)
            | some target => rfl
          · exact .inr found
        · exact .inl (Option.some.inj followed).symm
      · exact .inl (Option.some.inj followed).symm

theorem HasPlainNamerefs.parse?_of_resolve? {state : State} (plain : state.HasPlainNamerefs)
    {name target : String} (valid : Reference.parse? name = none)
    (resolved : state.resolve? name = some target) : Reference.parse? target = none := by
  unfold resolve? resolveWithin? at resolved
  split at resolved
  · rcases eq_or_namerefTarget?_of_follow? resolved with rfl | ⟨other, held⟩
    · exact valid
    · exact plain other target held
  · cases resolved
    exact valid

theorem HasPlainNamerefs.parse?_resolved {state : State} (plain : state.HasPlainNamerefs)
    {name : String} (unsubscripted : Reference.parse? name = none) :
    Reference.parse? (state.resolved name) = none := by
  unfold resolved
  split
  · cases found : state.resolve? name with
    | none => exact unsubscripted
    | some last => exact plain.parse?_of_resolve? unsubscripted found
  · exact unsubscripted

theorem shallow_assign (name value : String) : Shallow (assign name value) := by
  have writable : Shallow (checkWritable name) := by
    refine shallow_get.bind fun state => ?_
    split
    · exact shallow_throw nofun
    · exact shallow_pure ()
  have marked : Shallow (do
      changeStore (·.put name value)
      if (← get).options.allexport then
        changeStore (·.addAttribute name Attribute.exported)) := by
    refine (shallow_modify _).bind fun _ => shallow_get.bind fun state => ?_
    split
    · exact shallow_modify _
    · exact shallow_pure ()
  refine writable.bind fun _ => ?_
  split
  · exact (shallow_modify _).bind fun _ => marked
  · split
    · have timed : Shallow (reading (·.sources.drawTime)) := fun _ => isShallow_ok _
      refine timed.bind fun now => (shallow_ofExcept (isShallow_since _ _)).bind fun base => ?_
      exact (shallow_modify _).bind fun _ => marked
    · exact marked

/-- A name whose namerefs hold only names is assigned without subscripts. -/
theorem HasPlainNamerefs.isShallow_setVariable {state : State} (plain : state.HasPlainNamerefs)
    {name : String} (valid : Text.isName name.toList = true) (value : String) :
    IsShallow (execute (setVariable name value) state).1 := by
  have named := Reference.parse?_of_isName valid
  unfold setVariable
  rw [named]
  dsimp only
  rw [execute_get_bind]
  split
  · exact isShallow_ok ()
  · rename_i target resolved
    rw [plain.parse?_of_resolve? named resolved]
    exact shallow_assign target value state

end State

end Shell
