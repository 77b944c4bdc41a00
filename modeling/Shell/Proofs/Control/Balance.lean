import Mathlib.Data.List.Forall2
import Shell.Proofs.Control.Rounds
import Shell.Proofs.Frame.Bookkeeping

/-!
# The books after a run

However a run ends, the depth of calls has grown by the number of calls that could not
be closed. If all of them could be closed, then every construct has restored its own
piece of the bookkeeping, and nothing of it has changed.
-/

namespace Shell

open Running

namespace Event

mutual

/-- The frames that were closed during an event, each with the state it was closed in. -/
def closings : Event → List (Frame × State)
  | text _ _ => []
  | loop rounds _ => closingsAll rounds
  | call frame body last => closingsAll body ++ [(frame, last)]

def closingsAll : List Event → List (Frame × State)
  | [] => []
  | event :: rest => event.closings ++ closingsAll rest

end

theorem closingsAll_append (first second : List Event) :
    closingsAll (first ++ second) = closingsAll first ++ closingsAll second := by
  induction first with
  | nil => rw [closingsAll, List.nil_append, List.nil_append]
  | cons event rest inductionHypothesis =>
    rw [List.cons_append, closingsAll, closingsAll, inductionHypothesis, List.append_assoc]

theorem closingsAll_singleton (event : Event) : closingsAll [event] = event.closings := by
  rw [closingsAll, closingsAll, List.append_nil]

/-- Closing the frame fails. -/
def isStuck (closing : Frame × State) : Bool :=
  match (execute (State.closeFrame closing.1) closing.2).1 with
  | .ok _ => false
  | .error _ => true

/-- Every frame can be closed. -/
def Clears (events : List Event) : Prop :=
  ∀ closing ∈ closingsAll events, closing.2.Closable closing.1.scope

theorem clears_append {first second : List Event} :
    Clears (first ++ second) ↔ Clears first ∧ Clears second := by
  unfold Clears
  rw [closingsAll_append, List.forall_mem_append]

/-- The number of frames that were not closed. -/
def stuck (events : List Event) : Nat := (closingsAll events).countP isStuck

theorem stuck_append (first second : List Event) :
    stuck (first ++ second) = stuck first + stuck second := by
  unfold stuck
  rw [closingsAll_append, List.countP_append]

end Event

/-- The changes between two states are accounted for by the events in between. -/
structure Accounts (first : State) (events : List Event) (last : State) : Prop where
  depth : last.callDepth = first.callDepth + Event.stuck events
  balanced : Event.Clears events → last.bookkeeping = first.bookkeeping

namespace Accounts

variable {first middle last : State} {before next : List Event}

theorem of_bookkeeping {events : List Event} (quiet : Event.closingsAll events = [])
    (same : last.bookkeeping = first.bookkeeping) : Accounts first events last := by
  refine ⟨?_, fun _ => same⟩
  have depth : last.callDepth = first.callDepth := congrArg Bookkeeping.callDepth same
  simp [Event.stuck, quiet, depth]

theorem append (left : Accounts first before middle) (right : Accounts middle next last) :
    Accounts first (before ++ next) last := by
  refine ⟨?_, fun clears => ?_⟩
  · rw [right.depth, left.depth, Event.stuck_append]
    omega
  · obtain ⟨clearsBefore, clearsNext⟩ := Event.clears_append.mp clears
    exact (right.balanced clearsNext).trans (left.balanced clearsBefore)

theorem nil (same : last.bookkeeping = first.bookkeeping) : Accounts first [] last :=
  of_bookkeeping (by rw [Event.closingsAll]) same

theorem text (stdout stderr : String) (same : last.bookkeeping = first.bookkeeping) :
    Accounts first [.text stdout stderr] last :=
  of_bookkeeping (by rw [Event.closingsAll_singleton, Event.closings]) same

theorem after_quiet (same : middle.bookkeeping = first.bookkeeping)
    (rest : Accounts middle next last) : Accounts first next last :=
  (nil same).append rest

theorem before_quiet (start : Accounts first next middle)
    (same : last.bookkeeping = middle.bookkeeping) : Accounts first next last := by
  have whole := start.append (nil same)
  rw [List.append_nil] at whole
  exact whole

end Accounts

/-- The changes that an action makes are accounted for by the events in its trace. -/
def Balances {φ σ α : Type} (action : Action φ σ α) (trace : Trace φ σ) : Prop :=
  ∀ machine, Accounts machine.state (trace machine) (after action machine).state

/-- The action leaves the books alone, however it ends. -/
def Quiet {φ σ α : Type} (action : Action φ σ α) : Prop :=
  ∀ machine, (after action machine).state.bookkeeping = machine.state.bookkeeping

section Sequences

variable {φ σ α : Type} {limits : Limits}

theorem closingsAll_ofStop (stop : Stop) : Event.closingsAll (Trace.ofStop stop) = [] := by
  cases stop with
  | fault fault => rw [Trace.ofStop, Event.closingsAll]
  | signal signal => rw [Trace.ofStop, Event.closingsAll_singleton, Event.closings]

theorem closingsAll_leaf (action : Action φ σ Outcome) (machine : Machine φ σ) :
    Event.closingsAll (Trace.leaf action machine) = [] := by
  unfold Trace.leaf
  rcases (execute action machine).1 with stop | outcome
  · exact closingsAll_ofStop stop
  · rw [Event.closingsAll_singleton, Event.closings]

theorem balances_leaf {action : Action φ σ Outcome} (quiet : Quiet action) :
    Balances action (Trace.leaf action) := fun machine =>
  Accounts.of_bookkeeping (closingsAll_leaf action machine) (quiet machine)

theorem balances_guarded {action : Action φ σ α} {next : α → Action φ σ Outcome}
    {rest : α → Trace φ σ} (quiet : Quiet action)
    (balances : ∀ value, Balances (next value) (rest value)) :
    Balances (action >>= next) (Trace.guarded action rest) := by
  intro machine
  have same := quiet machine
  unfold after at same ⊢
  rw [execute_bind, Trace.guarded]
  generalize execute action machine = ran at same ⊢
  rcases ran with ⟨stop | value, middle⟩
  · exact Accounts.of_bookkeeping (closingsAll_ofStop stop) same
  · exact (balances value middle).after_quiet same

theorem balances_onward {action : Action φ σ Outcome} {trace : Trace φ σ}
    {next : Outcome → Action φ σ Outcome} {rest : Outcome → Trace φ σ}
    (balances : Balances action trace)
    (onward : ∀ outcome, Balances (next outcome) (rest outcome)) :
    Balances (action >>= next) fun machine =>
      trace machine ++ Trace.onward action rest machine := by
  intro machine
  have first := balances machine
  unfold after at first ⊢
  unfold Trace.onward
  beta_reduce
  rw [execute_bind]
  generalize execute action machine = ran at first ⊢
  rcases ran with ⟨stop | outcome, middle⟩
  · rw [List.append_nil]
    exact first
  · exact first.append (onward outcome middle)

theorem quiet_countCommand : Quiet (Action.countCommand limits : Action φ σ Unit) := by
  intro machine
  unfold Action.countCommand after
  rw [execute_changeState_bind, execute_state_bind]
  split <;> rfl

theorem Balances.finish {β : Type} {action : Action φ σ α} {trace : Trace φ σ}
    {last : α → Action φ σ β} (balances : Balances action trace)
    (quiet : ∀ value, Quiet (last value)) : Balances (action >>= last) trace := by
  intro machine
  have first := balances machine
  unfold after at first ⊢
  rw [execute_bind]
  generalize execute action machine = ran at first ⊢
  rcases ran with ⟨stop | value, middle⟩
  · exact first
  · exact first.before_quiet (quiet value middle)

theorem balances_one {statement : Action φ σ Outcome} {trace : Trace φ σ}
    (balances : Balances statement trace) :
    Balances (Action.runOne limits statement) (Trace.one limits trace) := by
  refine balances_guarded quiet_countCommand fun _ => balances.finish fun outcome machine => ?_
  unfold after
  rw [execute_changeState_bind, execute_bind]
  have unchanged := after_checkFailure outcome
    { machine with state := { machine.state with lastStatus := outcome.status } }
  unfold after at unchanged
  generalize execute (Action.checkFailure outcome) _ = ran at unchanged ⊢
  rcases ran with ⟨stop | _, middle⟩
  · exact congrArg (·.state.bookkeeping) unchanged
  · exact congrArg (·.state.bookkeeping) unchanged

theorem balances_all {statements : List (Action φ σ Outcome)} {traces : List (Trace φ σ)}
    (parts : List.Forall₂ Balances statements traces) (before : Outcome) :
    Balances (Action.runAll limits statements before) (Trace.all limits statements traces) := by
  induction parts generalizing before with
  | nil => exact fun _ => Accounts.nil rfl
  | @cons statement trace statements traces balances _ inductionHypothesis =>
    intro machine
    have first : Accounts _ _ (after (Action.runOne limits statement) machine).state :=
      balances_one balances machine
    unfold after at first ⊢
    unfold Trace.all Trace.onward
    beta_reduce
    rw [Action.runAll, execute_bind, execute_preceded]
    generalize execute (Action.runOne limits statement) machine = ran at first ⊢
    rcases ran with ⟨(fault | signal) | outcome, next⟩
    · rw [List.append_nil]
      exact first
    · rw [List.append_nil]
      exact first
    · exact first.append (inductionHypothesis (before.andThen outcome) next)

theorem balances_sequence {statements : List (Action φ σ Outcome)} {traces : List (Trace φ σ)}
    (parts : List.Forall₂ Balances statements traces) :
    Balances (Action.sequence limits statements) (Trace.all limits statements traces) :=
  balances_all parts {}

theorem balances_condition {statements : List (Action φ σ Outcome)} {traces : List (Trace φ σ)}
    (parts : List.Forall₂ Balances statements traces) :
    Balances (Action.condition limits statements) (Trace.condition limits statements traces) := by
  intro machine
  have inner : Accounts _ _ (after (Action.sequence limits statements) _).state :=
    balances_sequence parts (Trace.inCondition machine)
  unfold Action.condition after
  rw [execute_state_bind, execute_changeState_bind, execute_ensuring]
  refine ⟨inner.depth, fun clears => ?_⟩
  exact congrArg (fun books : Bookkeeping =>
    { books with inCondition := machine.state.inCondition }) (inner.balanced clears)

end Sequences

section Loops

variable {φ σ : Type} {limits : Limits}

/-- A round leaves the machine as its last part left it. -/
theorem accounts_bodyPart {body : Action φ σ Outcome} {trace : Trace φ σ}
    (balances : Balances body trace) (soFar : Outcome) (machine : Machine φ σ) :
    Accounts machine.state (Trace.bodyRound body trace machine).1
      (after (bodyPart soFar body) machine).state := by
  have whole := balances machine
  unfold after at whole ⊢
  rw [Trace.bodyRound, execute_part]
  generalize execute body machine = ran at whole ⊢
  rcases ran with ⟨(fault | signal) | outcome, next⟩
  · exact whole
  · have unchanged := after_settle soFar signal next
    unfold after at unchanged
    rw [unchanged]
    exact whole
  · exact whole

theorem accounts_conditionPart {negated : Bool} {condition body : Action φ σ Outcome}
    {checks trace : Trace φ σ} (conditionBalances : Balances condition checks)
    (bodyBalances : Balances body trace) (soFar : Outcome) (machine : Machine φ σ) :
    Accounts machine.state (Trace.conditionRound negated condition body checks trace machine).1
      (after (conditionPart soFar negated condition body) machine).state := by
  have whole := conditionBalances machine
  unfold after at whole ⊢
  rw [Trace.conditionRound, execute_part]
  generalize execute condition machine = ran at whole ⊢
  rcases ran with ⟨(fault | signal) | checked, next⟩
  · exact whole
  · have unchanged := after_settle soFar signal next
    unfold after at unchanged
    rw [unchanged]
    exact whole
  · dsimp only
    split
    · exact whole
    · exact whole.append (accounts_bodyPart bodyBalances (withChecked soFar checked) next)

theorem accounts_followed {round : List Event × Option (Machine φ σ)}
    {more : Machine φ σ → List Event × Option String} {action : Action φ σ Round}
    {rest : Outcome → Action φ σ Outcome} {machine : Machine φ σ}
    (follows : Follows round.2 (execute action machine))
    (accounts : Accounts machine.state round.1 (after action machine).state)
    (onward : ∀ all next, Accounts next.state (more next).1 (after (rest all) next).state) :
    Accounts machine.state (Trace.followed round more).1
      (after (action >>= fun
        | .again soFar => rest soFar
        | .done soFar => pure soFar) machine).state := by
  unfold after at accounts ⊢
  obtain ⟨events, _ | next⟩ := round
  · rw [execute_bind]
    generalize execute action machine = ran at follows accounts ⊢
    rcases ran with ⟨stop | (all | all), final⟩
    · exact accounts
    · exact absurd rfl (follows all)
    · exact accounts
  · obtain ⟨all, again⟩ := follows
    rw [again] at accounts
    rw [execute_bind_of_ok again]
    exact accounts.append (onward all next)

theorem accounts_wordRounds {name : String} {body : Action φ σ Outcome} {trace : Trace φ σ}
    (balances : Balances body trace) (words : List String) (rounds : Int) (soFar : Outcome)
    (machine : Machine φ σ) :
    Accounts machine.state (Trace.wordRounds limits name body trace rounds words machine).1
      (after (Action.wordRounds limits name body rounds words soFar) machine).state := by
  induction words generalizing rounds soFar machine with
  | nil => exact Accounts.nil rfl
  | cons word rest inductionHypothesis =>
    unfold Action.wordRounds Trace.wordRounds
    by_cases reached : limits.iterations < rounds + 1
    · rw [if_pos reached, if_pos reached]
      exact Accounts.nil rfl
    · rw [if_neg reached, if_neg reached]
      have written := State.bookkeeping_setVariable name word machine.state
      change Accounts _ _ (after (Action.write _ >>= _) machine).state
      unfold after at written ⊢
      rw [execute_bind, execute_write]
      generalize execute (State.setVariable name word) machine.state = ran at written ⊢
      rcases ran with ⟨fault | _, ready⟩
      · exact Accounts.nil written
      · refine Accounts.after_quiet written ?_
        let start : Machine φ σ := { machine with state := ready }
        exact accounts_followed (follows_bodyPart soFar body trace start)
          (accounts_bodyPart balances soFar start) fun all next =>
            inductionHypothesis (rounds + 1) all next

theorem accounts_conditionRounds {negated : Bool} {condition body : Action φ σ Outcome}
    {checks trace : Trace φ σ} (conditionBalances : Balances condition checks)
    (bodyBalances : Balances body trace) (left : Nat) (soFar : Outcome)
    (machine : Machine φ σ) :
    Accounts machine.state
      (Trace.conditionRounds limits negated condition body checks trace left machine).1
      (after (Action.conditionRounds limits negated condition body left soFar) machine).state := by
  induction left generalizing soFar machine with
  | zero => exact Accounts.nil rfl
  | succ left inductionHypothesis =>
    exact accounts_followed
      (follows_conditionPart soFar negated condition body checks trace machine)
      (accounts_conditionPart conditionBalances bodyBalances soFar machine) inductionHypothesis

theorem balances_loop {rounds : Machine φ σ → List Event × Option String}
    {action : Action φ σ Outcome}
    (accounts : ∀ machine, Accounts machine.state (rounds machine).1
      (after action machine).state) :
    Balances (Action.insideLoop action) (Trace.loop rounds) := by
  intro machine
  have inner := accounts (Trace.inLoop machine)
  have closings : Event.closingsAll (Trace.loop rounds machine) =
      Event.closingsAll (rounds (Trace.inLoop machine)).1 := by
    rw [Trace.loop, Event.closingsAll_singleton, Event.closings]
  unfold Action.insideLoop after
  rw [execute_changeState_bind, execute_ensuring]
  refine ⟨?_, fun clears => ?_⟩
  · unfold Event.stuck
    rw [closings]
    exact inner.depth
  · unfold Event.Clears at clears
    rw [closings] at clears
    have same := congrArg (fun books : Bookkeeping =>
      { books with loopDepth := books.loopDepth - 1 }) (inner.balanced clears)
    have back : machine.state.loopDepth + 1 - 1 = machine.state.loopDepth := by omega
    refine same.trans ?_
    change Bookkeeping.mk (machine.state.loopDepth + 1 - 1) _ _ _ _ _ _ _ _ = _
    rw [back]
    rfl

end Loops

section Calls

variable {κ σ : Type} {limits : Limits}

theorem after_catchReturn (body : Run κ σ Outcome) (machine : Machine (Function κ) σ) :
    after (Function.catchReturn body) machine = after body machine := by
  unfold Function.catchReturn after
  rw [execute_bind_of_ok (execute_observe body machine)]
  rcases execute body machine with ⟨(fault | ⟨cause, stdout, stderr⟩) | outcome, next⟩
  · rfl
  · cases cause <;> rfl
  · rfl

theorem stuck_call (frame : Frame) (body : List Event) (last : State) :
    Event.stuck [.call frame body last] =
      Event.stuck body + if Event.isStuck (frame, last) then 1 else 0 := by
  unfold Event.stuck
  rw [Event.closingsAll_singleton, Event.closings, List.countP_append, List.countP_singleton]

theorem clears_call {frame : Frame} {body : List Event} {last : State} :
    Event.Clears [.call frame body last] ↔ Event.Clears body ∧ last.Closable frame.scope := by
  unfold Event.Clears
  rw [Event.closingsAll_singleton, Event.closings, List.forall_mem_append]
  simp

/-- The body of a call and its closing, from a state inside the call. -/
theorem accounts_close {first inside last : State} {call : Call} {frame : Frame}
    {events : List Event} (entered : inside.bookkeeping = (first.enter call).bookkeeping)
    (body : Accounts inside events last) :
    Accounts first [.call frame events last] (after (State.closeFrame frame) last) := by
  refine ⟨?_, fun clears => ?_⟩
  · have depth : inside.callDepth = first.callDepth + 1 := congrArg Bookkeeping.callDepth entered
    have bodyDepth := body.depth
    have closes := State.closesOne_closeFrame frame last
    rw [stuck_call]
    unfold Event.isStuck after
    generalize execute (State.closeFrame frame) last = ran at closes ⊢
    rcases ran with ⟨fault | _, final⟩
    · have same : final.callDepth = last.callDepth := closes
      simp only [if_true]
      omega
    · have less : final.callDepth = last.callDepth - 1 := closes
      simp only [Bool.false_eq_true, if_false]
      omega
  · obtain ⟨clearsBody, closable⟩ := clears_call.mp clears
    obtain ⟨final, ran, same⟩ :=
      State.bookkeeping_closeFrame ((body.balanced clearsBody).trans entered) closable
    rw [after_eq_of_execute ran]
    exact same

theorem balances_call {function : Function κ} {args : List String} {line : Option Int}
    {body : Run κ σ Outcome} {trace : Trace (Function κ) σ} (balances : Balances body trace) :
    Balances (function.call limits args line body)
      (Trace.call limits function args line body trace) := by
  intro machine
  unfold Function.call Trace.call Trace.guarded after
  rw [execute_bind, execute_onState]
  cases opened : execute (State.openFrame limits function.name (some function.source) args line)
      machine.state with
  | mk result state =>
    cases result with
    | error stop =>
      rw [State.execute_openFrame_error opened]
      exact Accounts.of_bookkeeping (closingsAll_ofStop stop) rfl
    | ok frame =>
      obtain ⟨call, entered⟩ := State.execute_openFrame_ok opened
      let inside : Machine (Function κ) σ := { machine with state := state }
      have inner : Accounts state (trace inside)
          (after (Function.catchReturn body) inside).state := by
        rw [after_catchReturn]
        exact balances inside
      change Accounts machine.state [.call frame (trace inside) _]
        (execute (Action.ensuring (Function.catchReturn body) _) inside).2.state
      rw [execute_ensuring, execute_write]
      have closing : Accounts machine.state [.call frame (trace inside) _] _ :=
        accounts_close entered inner
      unfold after at closing
      generalize execute (State.closeFrame frame) _ = closed at closing ⊢
      rcases closed with ⟨fault | _, final⟩
      · exact closing
      · exact closing

end Calls

namespace Statement

variable {κ σ : Type} {context : Context κ σ} {callee : Function κ → String → Run κ σ Outcome}
  {calls : Function κ → String → Trace (Function κ) σ}

theorem quiet_builtin (which : Builtin) (args : List String) :
    Quiet (which.action args : Run κ σ Outcome) := by
  intro machine
  unfold Builtin.action after
  rw [execute_state_bind]
  cases which.apply machine.state args <;> rfl

theorem quiet_define (name : String) (body : List (Statement κ)) (source reading : Option String) :
    Quiet (Function.define name body source reading : Run κ σ Outcome) := by
  intro machine
  unfold Function.define after
  rw [execute_state_bind]
  split <;> rfl

theorem quiet_words (words : Words) : Quiet (words.get : Run κ σ (List String)) := by
  intro machine
  cases words <;> rfl

mutual

theorem balances_action (leaves : ∀ leaf stdin, Quiet (context.host leaf stdin))
    (called : ∀ function input, Balances (callee function input) (calls function input))
    (stdin : String) : (statement : Statement κ) →
    Balances (statement.action context callee stdin) (statement.trace context callee calls stdin)
  | command leaf => by
    rw [action, trace]
    exact balances_leaf (leaves leaf stdin)
  | builtin which args => by
    rw [action, trace]
    exact balances_leaf (quiet_builtin which args)
  | group body before => by
    rw [action, trace]
    intro machine
    exact (Accounts.text before.stdout before.stderr rfl).append
      (balances_all (balances_actions leaves called stdin body) { before with status := 0 } machine)
  | branch condition thenBody elseBody => by
    rw [action, trace]
    refine balances_onward (balances_condition (balances_actions leaves called stdin condition)) ?_
    intro checked
    dsimp only
    split
    · exact balances_all (balances_actions leaves called stdin thenBody) _
    · exact balances_all (balances_actions leaves called stdin elseBody) _
  | forEach name words body => by
    rw [action, trace]
    refine balances_guarded (quiet_words words) fun words => ?_
    split
    · exact balances_loop (accounts_wordRounds
        (balances_sequence (balances_actions leaves called stdin body)) words 0 {})
    · exact fun machine => Accounts.text "" _ rfl
  | whileLoop negated condition body => by
    rw [action, trace]
    exact balances_loop (accounts_conditionRounds
      (balances_condition (balances_actions leaves called stdin condition))
      (balances_sequence (balances_actions leaves called stdin body)) _ {})
  | define name body source reading => by
    rw [action, trace]
    exact balances_leaf (quiet_define name body source reading)
  | call name args input line => by
    rw [action, trace]
    intro machine
    unfold after
    rw [execute_get_bind]
    dsimp only
    cases machine.functions[name]? with
    | none => exact Accounts.text "" _ rfl
    | some function => exact balances_call (called function input) machine

theorem balances_actions (leaves : ∀ leaf stdin, Quiet (context.host leaf stdin))
    (called : ∀ function input, Balances (callee function input) (calls function input))
    (stdin : String) : (statements : List (Statement κ)) → List.Forall₂ Balances
      (actions context callee stdin statements) (traces context callee calls stdin statements)
  | [] => by
    rw [actions, traces]
    exact .nil
  | statement :: rest => by
    rw [actions, traces]
    exact .cons (balances_action leaves called stdin statement)
      (balances_actions leaves called stdin rest)

end

end Statement

end Shell
