import Shell.Proofs.Control.Numbering

/-!
# How deep calls are nested

Bodies of functions are looked up while a script runs, so nothing in the script bounds
how deep calls are nested. The count of commands does: every call is a command, and a
call inside another one is counted later. A run therefore never gets deeper than there
may be commands, and what would happen beyond that depth does not matter. Nor does the
depth of the host's stack, if that is not smaller.
-/

namespace Shell

open Running

/-- States in which at least `least` commands were counted. For a single statement it is one more,
and not beyond the limit. -/
def Law.countedFrom (limits : Limits) (least : Int) : Law.counting.Domain limits where
  list state := least ≤ state.commandCount
  statement state := least + 1 ≤ state.commandCount ∧ state.commandCount ≤ limits.commands
  list_of_statement counted := Int.le_trans (Int.le_add_one (Int.le_refl least)) counted.1
  closed counted held := Int.le_trans counted held
  counted counted allowed := ⟨Int.add_le_add_right counted 1, Int.not_lt.mp allowed⟩
  looped := id
  conditioned := id
  entered {_ _ _ _ _ _ _} counted opened := by
    have same := (State.eq_of_progress (State.entered_of_openFrame opened).2.2).1
    rwa [same]

namespace Context

variable {κ σ : Type} (context : Context κ σ) (beyond : Function κ → String → Run κ σ Outcome)

/-- Run a function's body, when `beyond` stands for the bodies of calls that are nested more than
`depth` deep. -/
def calleeBeyond : (depth : Nat) → Function κ → (stdin : String) → Run κ σ Outcome
  | 0 => beyond
  | depth + 1 => fun function stdin =>
    Action.sequence context.limits
      (Statement.actions context (calleeBeyond depth) stdin function.body)

/-- Run a script as a whole, when `beyond` stands for the bodies of calls that are nested more than
`depth` deep. -/
def execBeyond (depth : Nat) (script : List (Statement κ)) : Run κ σ Outcome := do
  Action.changeState fun state => { state with commandCount := 0 }
  let outcome ← topLevel context.limits
    (Statement.actions context (context.calleeBeyond beyond depth) "" script) {}
  Action.changeState fun state => { state with lastStatus := outcome.status }
  pure outcome

end Context

section Nesting

variable {κ σ : Type} {context : Context κ σ}

/-- A body that is run with commands left goes the same way, whatever is beyond as many calls as
there are commands left. -/
theorem Context.alike_calleeBeyond
    (leaves : ∀ leaf stdin, Law.counting.Obeys (context.host leaf stdin))
    (beyond : Function κ → String → Run κ σ Outcome) {least : Int} {depth further : Nat}
    (enough : context.limits.commands ≤ least + depth)
    (alsoEnough : context.limits.commands ≤ least + further) (function : Function κ)
    (stdin : String) :
    Law.counting.Alike (Law.countedFrom context.limits least).statement
      (context.callee depth function stdin)
        (context.calleeBeyond beyond further function stdin) := by
  induction depth generalizing least further function stdin with
  | zero =>
    -- No command is left, so no body is run.
    rintro machine ⟨more, allowed⟩
    omega
  | succ depth inductionHypothesis =>
    cases further with
    | zero =>
      rintro machine ⟨more, allowed⟩
      omega
    | succ further =>
      have called : ∀ function input,
          Law.counting.Alike (Law.countedFrom context.limits (least + 1)).statement
            (context.callee depth function input)
            (context.calleeBeyond beyond further function input) :=
        inductionHypothesis (by omega) (by omega)
      have each := Statement.alike_actions _ leaves called stdin function.body
      exact (Law.alike_runAll _ each {}).mono fun _ counted => counted.1

theorem Law.execute_topLevel_eq {limits : Limits} {law : Law} (domain : law.Domain limits)
    {statements others : List (Run κ σ Outcome)}
    (each : List.Forall₂ (law.Alike domain.statement) statements others) (soFar : Outcome)
    {machine : Machine (Function κ) σ} (member : domain.list machine.state) :
    execute (Context.topLevel limits statements soFar) machine =
      execute (Context.topLevel limits others soFar) machine := by
  induction each generalizing soFar machine with
  | nil => rfl
  | @cons statement other rest following alike _ inductionHypothesis =>
    obtain ⟨same, held⟩ := alike.runOne domain machine member
    have onward := domain.closed member held
    rw [topLevel_cons, topLevel_cons, execute_bind, execute_bind, execute_observe, execute_observe,
      ← same]
    unfold after at onward
    generalize execute (Action.runOne limits statement) machine = ran at onward
    obtain ⟨ended, next⟩ := ran
    dsimp only at onward ⊢
    rcases ended with (fault | ⟨cause, stdout, stderr⟩) | outcome
    · rfl
    · cases cause with
      | leaveLoop levels => exact inductionHypothesis _ onward
      | nextRound levels => exact inductionHypothesis _ onward
      | leaveFunction status =>
        have marked :=
          domain.closed onward (law.marked next.state (if status = 0 then 1 else status))
        exact @inductionHypothesis _ { next with state := { next.state with
          lastStatus := if status = 0 then 1 else status } } marked
      | _ => rfl
    · exact inductionHypothesis _ onward

/-- A script that is run as a whole goes the same way, whatever is beyond as many calls as the limit
allows commands, if the host's stack has room for these. -/
theorem Context.execute_execBeyond
    (leaves : ∀ leaf stdin, Law.counting.Obeys (context.host leaf stdin))
    (roomy : context.limits.commands ≤ context.depth)
    (beyond : Function κ → String → Run κ σ Outcome) {depth : Nat}
    (enough : context.limits.commands ≤ depth) (script : List (Statement κ))
    (machine : Machine (Function κ) σ) :
    execute (context.execBeyond beyond depth script) machine =
      execute (context.exec script) machine := by
  let start : Machine (Function κ) σ :=
    { machine with state := { machine.state with commandCount := 0 } }
  have called : ∀ function input,
      Law.counting.Alike (Law.countedFrom context.limits 0).statement
        (context.callee context.depth function input)
        (context.calleeBeyond beyond depth function input) :=
    alike_calleeBeyond leaves beyond (by omega) (by omega)
  have each := Statement.alike_actions _ leaves called "" script
  have zero : (Law.countedFrom context.limits 0).list start.state := Int.le_refl 0
  have same := Law.execute_topLevel_eq _ each {} zero
  let finish (outcome : Outcome) : Run κ σ Outcome := do
    Action.changeState fun state => { state with lastStatus := outcome.status }
    pure outcome
  have whole : execute (context.exec script) machine =
      execute (topLevel context.limits (context.actions script) {} >>= finish) start := rfl
  have bounded : execute (context.execBeyond beyond depth script) machine =
      execute (topLevel context.limits
        (Statement.actions context (context.calleeBeyond beyond depth) "" script) {} >>= finish)
        start := rfl
  rw [whole, bounded, execute_bind, execute_bind, Context.actions, same]

end Nesting

end Shell
