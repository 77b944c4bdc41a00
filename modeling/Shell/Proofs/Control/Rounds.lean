import Shell.Proofs.Control.Trace

/-!
# How the rounds of a loop follow each other

A round leaves the machine as its last part left it: settling a signal changes
nothing. Whether the run goes on with another round, and from which machine, is what
the trace of the loop says.
-/

namespace Shell

open Running

variable {φ σ : Type}

theorem execute_part (soFar : Outcome) (action : Action φ σ Outcome)
    (rest : Outcome → Action φ σ Round) (machine : Machine φ σ) :
    execute (Action.part soFar action rest) machine =
      match execute action machine with
      | (.ok outcome, next) => execute (rest outcome) next
      | (.error (.signal signal), next) => execute (Action.settle soFar signal) next
      | (.error (.fault fault), next) => (.error (.fault fault), next) := by
  unfold Action.part
  rw [execute_bind_of_ok (execute_observe action machine)]
  rcases execute action machine with ⟨(fault | signal) | outcome, next⟩ <;> rfl

/-- The run asks for another round exactly if there is a machine for one, and leaves that machine.
-/
def Follows (next : Option (Machine φ σ)) (ran : Except Stop Round × Machine φ σ) : Prop :=
  match next with
  | some machine => ∃ all, ran = (.ok (.again all), machine)
  | none => ∀ all, ran.1 ≠ .ok (.again all)

theorem after_settle (soFar : Outcome) (signal : Signal) (machine : Machine φ σ) :
    after (Action.settle soFar signal) machine = machine := by
  obtain ⟨cause, stdout, stderr⟩ := signal
  unfold Action.settle after
  cases cause with
  | leaveLoop levels =>
    dsimp only
    rw [execute_state_bind]
    cases Action.passesOn machine.state levels <;> rfl
  | nextRound levels =>
    dsimp only
    rw [execute_state_bind]
    cases Action.passesOn machine.state levels <;> rfl
  | _ => rfl

theorem follows_settle (soFar : Outcome) (signal : Signal) (machine : Machine φ σ) :
    Follows (Trace.nextRound (.error (.signal signal), machine))
      (execute (Action.settle soFar signal) machine) := by
  obtain ⟨cause, stdout, stderr⟩ := signal
  unfold Action.settle Trace.nextRound
  cases cause with
  | leaveLoop levels =>
    dsimp only
    rw [execute_state_bind]
    cases Action.passesOn machine.state levels with
    | true => exact fun _ => nofun
    | false => exact fun _ => nofun
  | nextRound levels =>
    dsimp only
    rw [execute_state_bind, Trace.continues]
    cases Action.passesOn machine.state levels with
    | true => exact fun _ => nofun
    | false => exact ⟨_, rfl⟩
  | _ => exact fun _ => nofun

/-- A part that stops settles the round; one that succeeds leaves it to the rest. -/
theorem follows_part {soFar : Outcome} {action : Action φ σ Outcome}
    {rest : Outcome → Action φ σ Round} {next : Option (Machine φ σ)} {machine : Machine φ σ}
    (stopped : ∀ stop middle, execute action machine = (.error stop, middle) →
      next = Trace.nextRound (.error stop, middle))
    (succeeded : ∀ outcome middle, execute action machine = (.ok outcome, middle) →
      Follows next (execute (rest outcome) middle)) :
    Follows next (execute (Action.part soFar action rest) machine) := by
  rw [execute_part]
  generalize execute action machine = ran at stopped succeeded ⊢
  rcases ran with ⟨(fault | signal) | outcome, middle⟩
  · rw [stopped _ _ rfl]
    exact fun _ => nofun
  · rw [stopped _ _ rfl]
    exact follows_settle soFar signal middle
  · exact succeeded outcome middle rfl

/-- A round that consists of the body alone. -/
abbrev bodyPart (soFar : Outcome) (body : Action φ σ Outcome) : Action φ σ Round :=
  Action.part soFar body fun outcome => pure (.again (soFar.andThen outcome))

theorem follows_bodyPart (soFar : Outcome) (body : Action φ σ Outcome) (trace : Trace φ σ)
    (machine : Machine φ σ) :
    Follows (Trace.bodyRound body trace machine).2 (execute (bodyPart soFar body) machine) := by
  refine follows_part ?_ ?_
  · intro stop middle failed
    rw [Trace.bodyRound, failed]
  · intro outcome middle succeeded
    rw [Trace.bodyRound, succeeded]
    exact ⟨_, rfl⟩

/-- The output so far after a condition was checked. The status stays that of the last body. -/
def withChecked (soFar checked : Outcome) : Outcome :=
  { soFar.andThen checked with status := soFar.status }

/-- A round of a loop with a condition. -/
abbrev conditionPart (soFar : Outcome) (negated : Bool) (condition body : Action φ σ Outcome) :
    Action φ σ Round :=
  Action.part soFar condition fun checked =>
    if (checked.status == 0) == negated then pure (.done (withChecked soFar checked))
    else bodyPart (withChecked soFar checked) body

theorem follows_conditionPart (soFar : Outcome) (negated : Bool)
    (condition body : Action φ σ Outcome) (checks trace : Trace φ σ) (machine : Machine φ σ) :
    Follows (Trace.conditionRound negated condition body checks trace machine).2
      (execute (conditionPart soFar negated condition body) machine) := by
  refine follows_part ?_ ?_
  · intro stop middle failed
    rw [Trace.conditionRound, failed]
  · intro checked middle succeeded
    rw [Trace.conditionRound, succeeded]
    dsimp only
    split
    · exact fun _ => nofun
    · exact follows_bodyPart _ body trace middle

end Shell
