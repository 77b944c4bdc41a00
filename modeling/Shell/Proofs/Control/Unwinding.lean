import Shell.Proofs.Control.Balance
import Shell.Proofs.Frame.Locals

/-!
# Scripts leave the books as they found them

However a script, a condition or a single statement ends, the books are the same as
before exactly if all calls in it could be closed. A call that could not be closed
shows, since the depth of calls stays.
-/

namespace Shell

open Running

theorem Event.closable_of_not_isStuck {frame : Frame} {state : State} (single : state.SingleLine)
    (closes : ¬ isStuck (frame, state) = true) : state.Closable frame.scope := by
  unfold isStuck at closes
  cases ran : execute (State.closeFrame frame) state with
  | mk result last =>
    rw [ran] at closes
    cases result with
    | error fault => exact absurd rfl closes
    | ok value => exact State.closable_of_closeFrame single ran

theorem Accounts.bookkeeping_eq_iff {first last : State} {events : List Event}
    (accounts : Accounts first events last)
    (lines : ∀ closing ∈ Event.closingsAll events, closing.2.SingleLine) :
    last.bookkeeping = first.bookkeeping ↔ Event.Clears events := by
  constructor
  · intro same
    have depth : last.callDepth = first.callDepth := congrArg Bookkeeping.callDepth same
    have grown := accounts.depth
    have none : Event.stuck events = 0 := by omega
    rw [Event.stuck, List.countP_eq_zero] at none
    intro closing member
    exact Event.closable_of_not_isStuck (lines closing member) (none closing member)
  · exact accounts.balanced

/-- From every machine, the books are the same after the action exactly if all calls in its trace
could be closed, provided that no key has a newline in it when a call is closed. -/
def Restores {φ σ α : Type} (action : Action φ σ α) (trace : Trace φ σ) : Prop :=
  ∀ machine, (∀ closing ∈ Event.closingsAll (trace machine), closing.2.SingleLine) →
    ((after action machine).state.bookkeeping = machine.state.bookkeeping ↔
      Event.Clears (trace machine))

theorem Balances.restores {φ σ α : Type} {action : Action φ σ α} {trace : Trace φ σ}
    (balances : Balances action trace) : Restores action trace := fun machine lines =>
  (balances machine).bookkeeping_eq_iff lines

namespace Context

section Scripts

variable {κ σ : Type} {context : Context κ σ}

theorem balances_callee (leaves : ∀ leaf stdin, Quiet (context.host leaf stdin)) (depth : Nat)
    (function : Function κ) (stdin : String) :
    Balances (context.callee depth function stdin) (context.calleeTrace depth function stdin) := by
  induction depth generalizing function stdin with
  | zero => exact fun _ => Accounts.nil rfl
  | succ depth inductionHypothesis =>
    exact balances_sequence
      (Statement.balances_actions leaves inductionHypothesis stdin function.body)

theorem balances_script (leaves : ∀ leaf stdin, Quiet (context.host leaf stdin))
    (script : List (Statement κ)) :
    List.Forall₂ Balances (context.actions script) (context.traces script) :=
  Statement.balances_actions leaves (balances_callee leaves context.depth) "" script

theorem balances_run (leaves : ∀ leaf stdin, Quiet (context.host leaf stdin))
    (script : List (Statement κ)) : Balances (context.run script) (context.runTrace script) :=
  balances_sequence (balances_script leaves script)

theorem balances_condition (leaves : ∀ leaf stdin, Quiet (context.host leaf stdin))
    (script : List (Statement κ)) :
    Balances (context.condition script) (context.conditionTrace script) :=
  Shell.balances_condition (balances_script leaves script)

/-- If the commands of the host leave the books alone, then scripts, conditions, and statements
inside functions leave them as they were exactly if all their calls could be closed. -/
theorem bookkeeping_eq_iff_clears (leaves : ∀ leaf stdin, Quiet (context.host leaf stdin)) :
    (∀ script, Restores (context.run script) (context.runTrace script)) ∧
    (∀ script, Restores (context.condition script) (context.conditionTrace script)) ∧
    ∀ depth stdin statement, Restores
      (Statement.action context (context.callee depth) stdin statement)
      (Statement.trace context (context.callee depth) (context.calleeTrace depth) stdin
        statement) := by
  refine ⟨fun script => ?_, fun script => ?_, fun depth stdin statement => ?_⟩
  · exact (balances_run leaves script).restores
  · exact (balances_condition leaves script).restores
  · exact (Statement.balances_action leaves (balances_callee leaves depth) stdin statement).restores

end Scripts

/-- A host whose commands make a variable local. -/
def declaring : Context String Unit :=
  ⟨{}, 100, fun name _ => (fun _ => {}) <$> Action.write (State.declareLocal name none)⟩

theorem quiet_declaring (name stdin : String) : Quiet (declaring.host name stdin) := by
  intro machine
  have ran : after (declaring.host name stdin) machine =
      { machine with state := after (State.declareLocal name none) machine.state } :=
    (after_map _ _ machine).trans (after_write _ machine)
  rw [ran]
  exact State.preserves_declareLocal name none machine.state

/-- A function that makes `x` local as the condition of a loop, and returns from inside the loop. -/
def returningFromLoop : List (Statement String) :=
  [.define "f" [.whileLoop false [.command "x"] [.builtin .return ["3"]]] none none,
    .call "f" [] "" none]

/-- The only local variable is `x`, and it has no elements. -/
theorem returningFromLoop_restores :
    (∀ name stdin, Quiet (declaring.host name stdin)) ∧
    (∀ closing ∈ Event.closingsAll (declaring.runTrace returningFromLoop ⟨{}, ∅, ()⟩),
      closing.2.SingleLine) ∧
    (after (declaring.run returningFromLoop) ⟨{}, ∅, ()⟩).state.bookkeeping =
      State.bookkeeping {} := by
  have closings : ∀ closing ∈
      Event.closingsAll (declaring.runTrace returningFromLoop ⟨{}, ∅, ()⟩),
      closing.2.store.values.keys = ["#", "x"] ∧ closing.2.hiddenBy closing.1.scope = ["x"] := by
    decide +kernel
  have keys : ∀ closing ∈ Event.closingsAll (declaring.runTrace returningFromLoop ⟨{}, ∅, ()⟩),
      ∀ key, closing.2.store.has key = true → key = "#" ∨ key = "x" := by
    intro closing member key present
    have listed : key ∈ closing.2.store.values.keys := by simpa [Store.has] using present
    simpa [(closings closing member).1] using listed
  have lines : ∀ closing ∈ Event.closingsAll (declaring.runTrace returningFromLoop ⟨{}, ∅, ()⟩),
      closing.2.SingleLine := by
    intro closing member key present
    rcases keys closing member key present with rfl | rfl
    · decide
    · decide
  refine ⟨quiet_declaring, lines, ?_⟩
  refine ((bookkeeping_eq_iff_clears quiet_declaring).1 returningFromLoop _ lines).mpr ?_
  intro closing member scope _ earlier array later hidden _ suffix present
  have only : array ∈ ["x"] := by
    rw [← (closings closing member).2, hidden]
    simp
  obtain rfl : array = "x" := by simpa using only
  rcases keys closing member _ present with count | self
  · exact absurd (Or.inl count) (State.not_positional_element "x" suffix rfl)
  · exact absurd self (elementKey_ne_self "x" suffix)

section LongIndex

/-- A function that makes `y` local. -/
def declaringY : Function String := ⟨"f", [.command "y"], mainSource⟩

/-- A shell in which the function is defined. -/
def shellWith (state : State) : Machine (Function String) Unit :=
  ⟨state, (∅ : Table (Function String)).insert "f" declaringY, ()⟩

/-- The state of the shell in the call, when `y` is hidden. -/
def hidingY : State := State.hide "y" { State.longIndexCall with commandCount := 1 }

theorem store_hidingY : hidingY.store = State.longIndexCall.store := State.store_hide "y" _

theorem singleLine_hidingY : hidingY.SingleLine := by
  intro key present
  rw [store_hidingY] at present
  exact State.singleLine_longIndexCall key present

theorem longKey_mem_hidingY : hidingY.store.has (elementKey "y" Text.longIndex) = true := by
  rw [store_hidingY, Store.has_eq_isSome_get?,
    State.get?_longIndexCall (State.not_positional_element "y" _ rfl), if_pos rfl]
  rfl

theorem not_closable_hidingY : ¬ hidingY.Closable 0 :=
  State.not_closable_of_longIndex (by decide) rfl rfl longKey_mem_hidingY

theorem execute_declaring_of_error {name stdin : String} {state last : State} {fault : Fault}
    (failed : execute (State.declareLocal name none) state = (.error fault, last)) :
    execute (declaring.host name stdin) (shellWith state) =
      (.error (.fault fault), shellWith last) := by
  have same : (shellWith state).state = state := rfl
  refine (execute_map _ _ _).trans ?_
  rw [after_write, execute_write, same, failed, after_eq_of_execute failed]
  rfl

/-- A fault in the first statement ends a list of statements. -/
theorem execute_sequence_of_fault {φ σ : Type} {limits : Limits} {fault : Fault}
    {statement : Action φ σ Outcome} {rest : List (Action φ σ Outcome)}
    {first ready last : Machine φ σ}
    (counted : execute (Action.countCommand limits) first = (.ok (), ready))
    (failed : execute statement ready = (.error (.fault fault), last)) :
    execute (Action.sequence limits (statement :: rest)) first = (.error (.fault fault), last) := by
  have one : execute (Action.runOne limits statement) first = (.error (.fault fault), last) :=
    (execute_bind_of_ok counted).trans (execute_bind_of_error failed)
  refine execute_bind_of_error ((execute_preceded _ _ _ _).trans ?_)
  rw [one]

theorem count_longIndexCall : execute (Action.countCommand {} : Run String Unit Unit)
    (shellWith State.longIndexCall) =
      (.ok (), shellWith { State.longIndexCall with commandCount := 1 }) := rfl

/-- The command fails when `y` is already hidden, and the body of the function with it. -/
theorem after_declaringY :
    after (declaring.callee 1 declaringY "") (shellWith State.longIndexCall) =
      shellWith hidingY := by
  obtain ⟨fault, declared⟩ : ∃ fault, execute (State.declareLocal "y" none)
      { State.longIndexCall with commandCount := 1 } = (.error fault, hidingY) :=
    State.execute_declareLocal_of_long rfl rfl (by decide) rfl singleLine_hidingY
      longKey_mem_hidingY
  exact after_eq_of_execute
    (execute_sequence_of_fault count_longIndexCall (execute_declaring_of_error declared))

theorem closingsAll_singleton_leaf {φ σ : Type} (limits : Limits) (action : Action φ σ Outcome)
    (machine : Machine φ σ) :
    Event.closingsAll (Trace.all limits [action] [Trace.leaf action] machine) = [] := by
  rw [Trace.all, Event.closingsAll_append, List.append_eq_nil_iff]
  constructor
  · unfold Trace.one Trace.guarded
    rcases execute (Action.countCommand limits) machine with ⟨stop | _, ready⟩
    · exact closingsAll_ofStop stop
    · exact closingsAll_leaf action ready
  · unfold Trace.onward
    rcases execute (Action.runOne limits action) machine with ⟨stop | _, last⟩
    · rw [Event.closingsAll]
    · change Event.closingsAll [] = []
      rw [Event.closingsAll]

/-- A call of the function. -/
def callF : Statement String := .call "f" [] "" none

theorem closings_callF :
    Event.closingsAll (callF.trace declaring (declaring.callee 1) (declaring.calleeTrace 1) ""
      (shellWith State.longIndexState)) = [(State.longIndexState.frame "f", hidingY)] := by
  have found : (shellWith State.longIndexState).functions["f"]? = some declaringY := rfl
  have opened : execute (Action.onState
      (State.openFrame {} "f" (some mainSource) [] none)) (shellWith State.longIndexState) =
        (.ok (State.longIndexState.frame "f"), shellWith State.longIndexCall) := rfl
  have body : Event.closingsAll
      (declaring.calleeTrace 1 declaringY "" (shellWith State.longIndexCall)) = [] :=
    closingsAll_singleton_leaf {} (declaring.host "y" "") (shellWith State.longIndexCall)
  unfold callF
  rw [Statement.trace]
  dsimp only
  rw [found]
  change Event.closingsAll (Trace.guarded (Action.onState
    (State.openFrame {} "f" (some mainSource) [] none)) _ _) = _
  unfold Trace.guarded
  rw [opened]
  dsimp only
  rw [Event.closingsAll_singleton, Event.closings, body, after_catchReturn, after_declaringY]
  rfl

/-- The call is not closed, although no command touches the books and no key has a newline. -/
theorem callF_stays_open :
    (∀ name stdin, Quiet (declaring.host name stdin)) ∧
    (∀ closing ∈ Event.closingsAll (callF.trace declaring (declaring.callee 1)
      (declaring.calleeTrace 1) "" (shellWith State.longIndexState)), closing.2.SingleLine) ∧
    (after (callF.action declaring (declaring.callee 1) "")
      (shellWith State.longIndexState)).state.callDepth = 1 ∧
    State.longIndexState.callDepth = 0 := by
  have accounts := Statement.balances_action quiet_declaring (balances_callee quiet_declaring 1) ""
    callF (shellWith State.longIndexState)
  have stuck : Event.isStuck (State.longIndexState.frame "f", hidingY) = true := by
    by_contra closes
    have level : (State.longIndexState.frame "f").scope = 0 := rfl
    have closable : hidingY.Closable (State.longIndexState.frame "f").scope :=
      Event.closable_of_not_isStuck singleLine_hidingY closes
    rw [level] at closable
    exact not_closable_hidingY closable
  refine ⟨quiet_declaring, ?_, ?_, rfl⟩
  · intro closing member
    rw [closings_callF, List.mem_singleton] at member
    rw [member]
    exact singleLine_hidingY
  · have depth := accounts.depth
    have before : (shellWith State.longIndexState).state.callDepth = 0 := rfl
    rw [Event.stuck, closings_callF, List.countP_singleton, if_pos stuck, before] at depth
    exact depth

end LongIndex

end Context

end Shell
