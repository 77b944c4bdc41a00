import Shell.Control.Sequence

/-!
# Running actions

How the building blocks of actions run from a given state. `execute` gives the
result of an action and the state it leaves; `after` is that state alone, whether
the action succeeds or fails.
-/

namespace Shell.Running

variable {ε σ α β γ : Type}

/-- The result of an action, and the state after it. -/
def execute (action : ExceptT ε (StateM σ) α) (state : σ) : Except ε α × σ := action.run state

/-- The state after an action, however it ends. -/
def after (action : ExceptT ε (StateM σ) α) (state : σ) : σ := (execute action state).2

theorem execute_bind (action : ExceptT ε (StateM σ) α) (next : α → ExceptT ε (StateM σ) β)
    (state : σ) :
    execute (action >>= next) state =
      match execute action state with
      | (.ok value, state) => execute (next value) state
      | (.error stop, state) => (.error stop, state) := by
  simp only [execute, ExceptT.run_bind]
  simp only [bind, StateT.bind]
  rcases action.run state with ⟨_ | _, _⟩ <;> rfl

theorem execute_bind_of_ok {action : ExceptT ε (StateM σ) α}
    {next : α → ExceptT ε (StateM σ) β} {first second : σ} {value : α}
    (succeeded : execute action first = (.ok value, second)) :
    execute (action >>= next) first = execute (next value) second := by
  rw [execute_bind, succeeded]

theorem execute_bind_of_error {action : ExceptT ε (StateM σ) α}
    {next : α → ExceptT ε (StateM σ) β} {first second : σ} {stop : ε}
    (failed : execute action first = (.error stop, second)) :
    execute (action >>= next) first = (.error stop, second) := by
  rw [execute_bind, failed]

/-- An action followed by another succeeds exactly if both do. -/
theorem execute_bind_eq_ok {action : ExceptT ε (StateM σ) α}
    {next : α → ExceptT ε (StateM σ) β} {first last : σ} {result : β} :
    execute (action >>= next) first = (.ok result, last) ↔
      ∃ value second, execute action first = (.ok value, second) ∧
        execute (next value) second = (.ok result, last) := by
  rw [execute_bind]
  rcases execute action first with ⟨stop | value, second⟩
  · simp
  · constructor
    · intro succeeded
      exact ⟨value, second, rfl, succeeded⟩
    · rintro ⟨_, _, equality, succeeded⟩
      cases equality
      exact succeeded

/-- A sequence stops where its first action does, or where what follows does. -/
theorem execute_bind_error_iff {action : ExceptT ε (StateM σ) α}
    {next : α → ExceptT ε (StateM σ) β} {state : σ} {stop : ε} :
    (execute (action >>= next) state).1 = .error stop ↔
      (execute action state).1 = .error stop ∨
        ∃ value middle, execute action state = (.ok value, middle) ∧
          (execute (next value) middle).1 = .error stop := by
  rcases ran : execute action state with ⟨other | value, middle⟩
  · simp [execute_bind_of_error ran]
  · rw [execute_bind_of_ok ran]
    constructor
    · intro failed
      exact .inr ⟨value, middle, rfl, failed⟩
    · rintro (failed | ⟨_, _, equality, failed⟩)
      · contradiction
      · cases equality
        exact failed

@[simp]
theorem execute_pure (value : α) (state : σ) :
    execute (pure value : ExceptT ε (StateM σ) α) state = (.ok value, state) := rfl

@[simp]
theorem execute_throw (stop : ε) (state : σ) :
    execute (throw stop : ExceptT ε (StateM σ) α) state = (.error stop, state) := rfl

@[simp]
theorem execute_get_bind (next : σ → ExceptT ε (StateM σ) α) (state : σ) :
    execute (get >>= next) state = execute (next state) state := rfl

@[simp]
theorem execute_set_bind (second : σ) (next : PUnit → ExceptT ε (StateM σ) α) (first : σ) :
    execute (set second >>= next) first = execute (next ⟨⟩) second := rfl

@[simp]
theorem execute_set (first second : σ) :
    execute (set second : ExceptT ε (StateM σ) PUnit) first = (.ok ⟨⟩, second) := rfl

@[simp]
theorem execute_modify (change : σ → σ) (state : σ) :
    execute (modify change : ExceptT ε (StateM σ) PUnit) state = (.ok ⟨⟩, change state) := rfl

@[simp]
theorem execute_modify_bind (change : σ → σ) (next : PUnit → ExceptT ε (StateM σ) α)
    (state : σ) :
    execute (modify change >>= next) state = execute (next ⟨⟩) (change state) := rfl

@[simp]
theorem execute_ofExcept (result : Except ε α) (state : σ) :
    execute (MonadExcept.ofExcept result : ExceptT ε (StateM σ) α) state = (result, state) := by
  cases result <;> rfl

@[simp]
theorem execute_map (change : α → β) (action : ExceptT ε (StateM σ) α) (state : σ) :
    execute (change <$> action) state =
      ((execute action state).1.map change, after action state) := by
  rw [map_eq_pure_bind, execute_bind, after]
  rcases execute action state with ⟨_ | _, _⟩ <;> rfl

/-- A changed action succeeds exactly if the action does, with the changed result. -/
theorem execute_map_eq_ok {change : α → β} {action : ExceptT ε (StateM σ) α} {first last : σ}
    {result : β} :
    execute (change <$> action) first = (.ok result, last) ↔
      ∃ value, execute action first = (.ok value, last) ∧ change value = result := by
  rw [execute_map, after]
  rcases execute action first with ⟨stop | value, second⟩
  · simp [Except.map]
  · simp only [Except.map, Prod.mk.injEq, Except.ok.injEq]
    constructor
    · rintro ⟨rfl, rfl⟩
      exact ⟨value, ⟨rfl, rfl⟩, rfl⟩
    · rintro ⟨_, ⟨rfl, rfl⟩, rfl⟩
      exact ⟨rfl, rfl⟩

theorem execute_map_eq_error {change : α → β} {action : ExceptT ε (StateM σ) α}
    {first last : σ} {stop : ε} :
    execute (change <$> action) first = (.error stop, last) ↔
      execute action first = (.error stop, last) := by
  rw [execute_map, after]
  rcases execute action first with ⟨_ | _, _⟩ <;> simp [Except.map]

@[simp]
theorem after_map (change : α → β) (action : ExceptT ε (StateM σ) α) (state : σ) :
    after (change <$> action) state = after action state := by
  rw [after, execute_map]

@[simp]
theorem after_pure (value : α) (state : σ) :
    after (pure value : ExceptT ε (StateM σ) α) state = state := rfl

@[simp]
theorem after_throw (stop : ε) (state : σ) :
    after (throw stop : ExceptT ε (StateM σ) α) state = state := rfl

@[simp]
theorem after_get_bind (next : σ → ExceptT ε (StateM σ) α) (state : σ) :
    after (get >>= next) state = after (next state) state := rfl

@[simp]
theorem after_set (first second : σ) :
    after (set second : ExceptT ε (StateM σ) PUnit) first = second := rfl

@[simp]
theorem after_modify (change : σ → σ) (state : σ) :
    after (modify change : ExceptT ε (StateM σ) PUnit) state = change state := rfl

@[simp]
theorem after_ofExcept (result : Except ε α) (state : σ) :
    after (MonadExcept.ofExcept result : ExceptT ε (StateM σ) α) state = state := by
  cases result <;> rfl

theorem after_eq_of_execute {action : ExceptT ε (StateM σ) α} {first second : σ}
    {result : Except ε α} (ran : execute action first = (result, second)) :
    after action first = second := by
  rw [after, ran]

theorem execute_eq_after {action : ExceptT ε (StateM σ) α} {state : σ} {result : Except ε α}
    (ended : (execute action state).1 = result) :
    execute action state = (result, after action state) := by
  rw [← ended, after]

theorem after_bind_of_ok {action : ExceptT ε (StateM σ) α} {next : α → ExceptT ε (StateM σ) β}
    {first second : σ} {value : α} (succeeded : execute action first = (.ok value, second)) :
    after (action >>= next) first = after (next value) second := by
  rw [after, execute_bind_of_ok succeeded, after]

theorem execute_tryCatch (action : ExceptT ε (StateM σ) α) (handle : ε → ExceptT ε (StateM σ) α)
    (state : σ) :
    execute (tryCatch action handle) state =
      match execute action state with
      | (.ok value, last) => (.ok value, last)
      | (.error stop, last) => execute (handle stop) last := by
  unfold execute
  simp only [tryCatch, tryCatchThe, MonadExceptOf.tryCatch, ExceptT.tryCatch, ExceptT.run,
    ExceptT.mk, bind, StateT.bind]
  rcases action state with ⟨_ | _, _⟩ <;> rfl

/-- Changes that can be chained are made by two actions in a row, if each makes one. -/
theorem after_bind (Change : σ → σ → Prop)
    (chain : ∀ {a b c}, Change a b → Change b c → Change a c)
    {action : ExceptT ε (StateM σ) α} {next : α → ExceptT ε (StateM σ) β} {state : σ}
    (first : Change state (after action state))
    (second : ∀ value middle, execute action state = (.ok value, middle) →
      Change middle (after (next value) middle)) :
    Change state (after (action >>= next) state) := by
  unfold after at first second ⊢
  rw [execute_bind]
  cases ran : execute action state with
  | mk result middle =>
    rw [ran] at first
    cases result with
    | error stop => exact first
    | ok value => exact chain first (second value middle ran)

@[simp]
theorem execute_forM_nil (action : γ → ExceptT ε (StateM σ) PUnit) (state : σ) :
    execute (([] : List γ).forM action) state = (.ok ⟨⟩, state) := rfl

theorem execute_forM_cons (item : γ) (rest : List γ)
    (action : γ → ExceptT ε (StateM σ) PUnit) (state : σ) :
    execute ((item :: rest).forM action) state =
      execute (action item >>= fun _ => rest.forM action) state := rfl

/-- Changes that can be chained are made by doing something for each item of a list. -/
theorem after_forM (Change : σ → σ → Prop) (stay : ∀ a, Change a a)
    (chain : ∀ {a b c}, Change a b → Change b c → Change a c)
    {action : γ → ExceptT ε (StateM σ) PUnit} {items : List γ}
    (each : ∀ item ∈ items, ∀ state, Change state (after (action item) state)) (state : σ) :
    Change state (after (items.forM action) state) := by
  induction items generalizing state with
  | nil => exact stay state
  | cons item rest inductionHypothesis =>
    have others : ∀ other ∈ rest, ∀ state, Change state (after (action other) state) :=
      fun other member => each other (List.mem_cons_of_mem _ member)
    exact after_bind Change chain (each item (by simp) state) fun _ middle _ =>
      inductionHypothesis others middle

section Actions

variable {φ χ : Type}

theorem execute_observe (action : Action φ χ α) (machine : Machine φ χ) :
    execute (Action.observe action) machine =
      (.ok (execute action machine).1, (execute action machine).2) := rfl

theorem execute_resume (result : Except Stop α) (machine : Machine φ χ) :
    execute (Action.resume result) machine = (result, machine) := by
  cases result <;> rfl

theorem execute_state_bind (next : State → Action φ χ α) (machine : Machine φ χ) :
    execute (Action.state >>= next) machine = execute (next machine.state) machine := rfl

theorem execute_changeState_bind (change : State → State) (next : Unit → Action φ χ α)
    (machine : Machine φ χ) :
    execute (Action.changeState change >>= next) machine =
      execute (next ()) { machine with state := change machine.state } := rfl

/-- A signal takes the output before it along; everything else passes. -/
theorem execute_preceded (stdout stderr : String) (action : Action φ χ α)
    (machine : Machine φ χ) :
    execute (Action.preceded stdout stderr action) machine =
      match execute action machine with
      | (.error (.signal signal), next) => (.error (.signal (signal.after stdout stderr)), next)
      | (result, next) => (result, next) := by
  unfold Action.preceded
  rw [execute_bind_of_ok (execute_observe action machine)]
  rcases execute action machine with ⟨(_ | _) | _, next⟩ <;> rfl

/-- The last thing is done however the action ends, and only its failure shows. -/
theorem execute_ensuring (action : Action φ χ α) (last : Action φ χ Unit)
    (machine : Machine φ χ) :
    execute (Action.ensuring action last) machine =
      match execute last (execute action machine).2 with
      | (.ok _, final) => ((execute action machine).1, final)
      | (.error stop, final) => (.error stop, final) := by
  unfold Action.ensuring
  rw [execute_bind_of_ok (execute_observe action machine), execute_bind]
  rcases execute last (execute action machine).2 with ⟨_ | _, final⟩
  · rfl
  · exact execute_resume _ _

theorem execute_onState (action : Effect α) (machine : Machine φ χ) :
    execute (Action.onState action) machine =
      ((execute action machine.state).1,
        { machine with state := (execute action machine.state).2 }) := rfl

theorem execute_toEffect (action : Write α) (state : State) :
    execute action.toEffect state =
      ((execute action state).1.mapError Stop.fault, after action state) := rfl

theorem toEffect_bind (action : Write α) (next : α → Write β) :
    (action >>= next).toEffect = action.toEffect >>= fun value => (next value).toEffect := by
  funext state
  change execute (action >>= next).toEffect state =
    execute (action.toEffect >>= fun value => (next value).toEffect) state
  rw [execute_toEffect, execute_bind (Write.toEffect action), execute_toEffect action, after, after,
    execute_bind]
  rcases execute action state with ⟨fault | value, middle⟩ <;> rfl

theorem toEffect_map (change : α → β) (action : Write α) :
    (change <$> action).toEffect = change <$> action.toEffect := by
  rw [map_eq_pure_bind, map_eq_pure_bind]
  exact toEffect_bind action fun value => pure (change value)

/-- What goes wrong in a write is a fault. -/
theorem execute_write (action : Write α) (machine : Machine φ χ) :
    execute (Action.write action) machine =
      ((execute action machine.state).1.mapError Stop.fault,
        { machine with state := (execute action machine.state).2 }) := rfl

theorem after_write (action : Write α) (machine : Machine φ χ) :
    after (Action.write action) machine =
      { machine with state := after action machine.state } := rfl

theorem after_checkFailure (outcome : Outcome) (machine : Machine φ χ) :
    after (Action.checkFailure outcome) machine = machine := by
  change after (if Action.isFatal machine.state outcome.status then
    Action.raise (Signal.make (.commandFailed outcome.status) outcome.stdout outcome.stderr)
    else pure ()) machine = machine
  split <;> rfl

end Actions

end Shell.Running
