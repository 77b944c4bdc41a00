import Shell.Control.Sequence

/-!
Loops over words and loops with a condition. A loop deals with the signals that are meant for it
and hands the others on, together with its output so far.
-/

namespace Shell

/-- How a round of a loop ends: with another round, or with the end of the loop. -/
inductive Round
  | again (soFar : Outcome)
  | done (soFar : Outcome)
deriving DecidableEq, Repr

namespace Action

variable {φ σ : Type}

/-- The signal of a loop with too many rounds. -/
def iterationsSignal (limits : Limits) (kind : String) : Except Fault Signal :=
  Signal.ofLimit "iterations"
    (fun bound => kind ++ " loop: too many iterations (" ++ bound ++ ")") limits.iterations

/-- An outcome with a signal's output added. -/
def withOutput (soFar : Outcome) (signal : Signal) : Outcome :=
  { soFar with stdout := soFar.stdout ++ signal.stdout, stderr := soFar.stderr ++ signal.stderr }

/-- The signal is meant for a loop further out: levels remain, and there is such a loop. -/
def passesOn (state : State) (levels : Int) : Bool := 1 < levels && 1 < state.loopDepth

/-- What becomes of a signal that reaches a loop. -/
def settle (soFar : Outcome) (arrived : Signal) : Action φ σ Round := do
  let all := withOutput soFar arrived
  match arrived.cause with
  | .leaveLoop levels =>
    if passesOn (← state) levels then signal ⟨.leaveLoop (levels - 1), all.stdout, all.stderr⟩
    else pure (.done all)
  | .nextRound levels =>
    if passesOn (← state) levels then signal ⟨.nextRound (levels - 1), all.stdout, all.stderr⟩
    else pure (.again all)
  | _ => signal (arrived.after soFar.stdout soFar.stderr)

/-- Do a part of a round, then the rest, unless a signal settles the round. -/
def part (soFar : Outcome) (action : Action φ σ Outcome) (rest : Outcome → Action φ σ Round) :
    Action φ σ Round := do
  match ← observe action with
  | .ok outcome => rest outcome
  | .error (.signal signal) => settle soFar signal
  | .error stop => throw stop

/-- Do something inside a loop. -/
def insideLoop {α : Type} (action : Action φ σ α) : Action φ σ α := do
  changeState fun state => { state with loopDepth := state.loopDepth + 1 }
  ensuring action (changeState fun state => { state with loopDepth := state.loopDepth - 1 })

/-- The rounds of a loop over words, after `rounds` others. -/
def wordRounds (limits : Limits) (name : String) (body : Action φ σ Outcome) :
    (rounds : Int) → List String → Outcome → Action φ σ Outcome
  | _, [], soFar => pure soFar
  | rounds, word :: rest, soFar => do
    if limits.iterations < rounds + 1 then raise (iterationsSignal limits "for")
    write (State.setVariable name word)
    match ← part soFar body fun outcome => pure (.again (soFar.andThen outcome)) with
    | .again soFar => wordRounds limits name body (rounds + 1) rest soFar
    | .done soFar => pure soFar

/-- Run the body once for each word, with the word in the variable. -/
def forWords (limits : Limits) (name : String) (words : List String)
    (body : Action φ σ Outcome) : Action φ σ Outcome :=
  insideLoop (wordRounds limits name body 0 words {})

/-- The outcome of a loop whose variable has no valid name. -/
def badLoopVariable (name : String) : Outcome :=
  { stderr := "bash: \x60" ++ name ++ "': not a valid identifier\n", status := 1 }

/-- The kind of a loop with a condition. -/
def loopKind (negated : Bool) : String := if negated then "until" else "while"

/-- The rounds of a loop with a condition, when `left` more are allowed. -/
def conditionRounds (limits : Limits) (negated : Bool) (condition body : Action φ σ Outcome) :
    (left : Nat) → Outcome → Action φ σ Outcome
  | 0, _ => raise (iterationsSignal limits (loopKind negated))
  | left + 1, soFar => do
    let round ← part soFar condition fun checked =>
      let soFar := { soFar.andThen checked with status := soFar.status }
      if (checked.status == 0) == negated then pure (.done soFar)
      else part soFar body fun outcome => pure (.again (soFar.andThen outcome))
    match round with
    | .again soFar => conditionRounds limits negated condition body left soFar
    | .done soFar => pure soFar

/-- Run the body as long as the condition holds, or, if negated, until it holds. -/
def whileCondition (limits : Limits) (negated : Bool) (condition body : Action φ σ Outcome) :
    Action φ σ Outcome :=
  insideLoop (conditionRounds limits negated condition body limits.iterations.toNat {})

end Action

end Shell
