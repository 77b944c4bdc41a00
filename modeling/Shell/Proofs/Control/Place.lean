import Shell.Proofs.Control.Rounds
import Shell.Proofs.Frame.Bookkeeping

/-!
# Places in a run

A place is a piece of a script that is about to be run on some machine. What encloses
it says how the run goes on when the piece ends. A run that gets from one place to
another ends as the enclosures between them make of the end of the inner one.
-/

namespace Shell

open Running

section Enclosures

variable {κ σ : Type}

/-- A part of a round that is being run, with what is left of its loop. -/
inductive Turn (κ σ : Type)
  /-- The body of a loop over words, after `rounds` other words. -/
  | word (name : String) (body : Run κ σ Outcome) (rounds : Int) (rest : List String)
    (soFar : Outcome)
  /-- The condition of a loop. -/
  | check (negated : Bool) (condition body : Run κ σ Outcome) (left : Nat) (soFar : Outcome)
  /-- The body of a loop whose condition was checked. -/
  | checked (negated : Bool) (condition body : Run κ σ Outcome) (left : Nat) (soFar : Outcome)

namespace Turn

/-- The output of the loop before the part. -/
def soFar : Turn κ σ → Outcome
  | word _ _ _ _ soFar | check _ _ _ _ soFar | checked _ _ _ _ soFar => soFar

/-- The rest of the round, if the part succeeds. -/
def proceed : Turn κ σ → Outcome → Run κ σ Round
  | word _ _ _ _ soFar, outcome | checked _ _ _ _ soFar, outcome =>
    pure (.again (soFar.andThen outcome))
  | check negated _ body _ soFar, outcome =>
    if (outcome.status == 0) == negated then pure (.done (withChecked soFar outcome))
    else bodyPart (withChecked soFar outcome) body

/-- What the loop does after the round: its next word, or its condition again. -/
def onward (limits : Limits) : Turn κ σ → Round → Run κ σ Outcome
  | _, .done soFar => pure soFar
  | word name body rounds rest _, .again soFar =>
    Action.wordRounds limits name body (rounds + 1) rest soFar
  | check negated condition body left _, .again soFar
  | checked negated condition body left _, .again soFar =>
    Action.conditionRounds limits negated condition body left soFar

end Turn

/-- Leave a loop after an action, however that ends. -/
def leavingLoop (action : Run κ σ Outcome) : Run κ σ Outcome :=
  Action.ensuring action
    (Action.changeState fun state => { state with loopDepth := state.loopDepth - 1 })

/-- Take note of the outcome of a statement. -/
def noted (statement : Run κ σ Outcome) : Run κ σ Outcome := do
  let outcome ← statement
  Action.changeState fun state => { state with lastStatus := outcome.status }
  Action.checkFailure outcome
  pure outcome

/-- What a script does after one of its statements. -/
def afterStatement (limits : Limits) (rest : List (Run κ σ Outcome)) (soFar : Outcome) :
    Except Stop Outcome → Run κ σ Outcome
  | .ok outcome => Context.topLevel limits rest (soFar.andThen outcome)
  | .error (.signal signal) =>
    let soFar := Action.withOutput soFar signal
    match signal.cause with
    | .leaveLoop _ | .nextRound _ => Context.topLevel limits rest soFar
    | .leaveFunction status => do
      let status := if status = 0 then 1 else status
      Action.changeState fun state => { state with lastStatus := status }
      Context.topLevel limits rest
        { soFar with stderr := soFar.stderr ++ Context.strayReturn, status := status }
    | cause => pure { soFar with status := cause.status }
  | .error stop => throw stop

/-- What directly encloses a place. -/
inductive Enclosure (κ σ : Type)
  /-- A list of statements, with those that follow. -/
  | list (rest : List (Run κ σ Outcome)) (before : Outcome)
  /-- A condition, with the flag from before it. -/
  | condition (saved : Bool)
  /-- The condition of a branch, with what it decides. -/
  | branch (next : Outcome → Run κ σ Outcome)
  | loop (turn : Turn κ σ)
  | call (frame : Frame)
  /-- A script that is run as a whole, with the statements that follow. -/
  | script (rest : List (Run κ σ Outcome)) (soFar : Outcome)
  /-- The end of a script that is run as a whole. -/
  | exec

namespace Enclosure

/-- An action inside the enclosure. -/
def around (limits : Limits) : Enclosure κ σ → Run κ σ Outcome → Run κ σ Outcome
  | list rest before, inner => do
    let outcome ← Action.preceded before.stdout before.stderr (noted inner)
    Action.runAll limits rest (before.andThen outcome)
  | condition saved, inner =>
    Action.ensuring inner (Action.changeState fun state => { state with inCondition := saved })
  | branch next, inner => inner >>= next
  | loop turn, inner =>
    leavingLoop (Action.part turn.soFar inner turn.proceed >>= turn.onward limits)
  | call frame, inner =>
    Action.ensuring (Function.catchReturn inner) (Action.write (State.closeFrame frame))
  | script rest soFar, inner => Action.observe (noted inner) >>= afterStatement limits rest soFar
  | exec, inner => do
    let outcome ← inner
    Action.changeState fun state => { state with lastStatus := outcome.status }
    pure outcome

/-- How the run goes on when what is enclosed has ended. -/
def resume (limits : Limits) (enclosure : Enclosure κ σ)
    (ended : Except Stop Outcome × Machine (Function κ) σ) :
    Except Stop Outcome × Machine (Function κ) σ :=
  execute (enclosure.around limits (Action.resume ended.1)) ended.2

/-- How the run goes on from inside several enclosures, the innermost first. -/
def resumeAll (limits : Limits) (enclosures : List (Enclosure κ σ))
    (ended : Except Stop Outcome × Machine (Function κ) σ) :
    Except Stop Outcome × Machine (Function κ) σ :=
  enclosures.foldl (fun ended enclosure => enclosure.resume limits ended) ended

def isLoop : Enclosure κ σ → Bool
  | loop _ => true
  | _ => false

def isScript : Enclosure κ σ → Bool
  | script _ _ => true
  | _ => false

/-- The number of loops. -/
def loops (enclosures : List (Enclosure κ σ)) : Nat := enclosures.countP isLoop

theorem loops_cons (enclosure : Enclosure κ σ) (outer : List (Enclosure κ σ)) :
    loops (enclosure :: outer) = loops outer + if enclosure.isLoop then 1 else 0 := List.countP_cons

theorem loops_append (inner outer : List (Enclosure κ σ)) :
    loops (inner ++ outer) = loops inner + loops outer := List.countP_append

/-- No loop is outside a script that is run as a whole. -/
def ScriptsOutside (enclosures : List (Enclosure κ σ)) : Prop :=
  enclosures.Pairwise fun inner outer => inner.isScript = true → outer.isLoop = false

theorem ScriptsOutside.isScript_eq_false {enclosure : Enclosure κ σ}
    {outer : List (Enclosure κ σ)} (scripts : ScriptsOutside (enclosure :: outer))
    (active : 1 ≤ loops outer) : enclosure.isScript = false := by
  obtain ⟨other, member, loop⟩ := List.countP_pos_iff.mp active
  have outside := (List.pairwise_cons.mp scripts).1 other member
  rw [loop] at outside
  simpa using outside

end Enclosure

theorem execute_ensuring_congr {α : Type} {first second : Run κ σ α} {last : Run κ σ Unit}
    {start next : Machine (Function κ) σ} (same : execute first start = execute second next) :
    execute (Action.ensuring first last) start = execute (Action.ensuring second last) next := by
  rw [execute_ensuring, execute_ensuring, same]

theorem execute_noted (statement : Run κ σ Outcome) (machine : Machine (Function κ) σ) :
    execute (noted statement) machine =
      execute (noted (Action.resume (execute statement machine).1))
        (execute statement machine).2 := by
  unfold noted
  rw [execute_bind, execute_bind, execute_resume]

/-- An enclosure sees of an action only how it ends. -/
theorem execute_around (limits : Limits) (enclosure : Enclosure κ σ) (inner : Run κ σ Outcome)
    (machine : Machine (Function κ) σ) :
    execute (enclosure.around limits inner) machine =
      enclosure.resume limits (execute inner machine) := by
  unfold Enclosure.resume
  cases enclosure with
  | list rest before =>
    unfold Enclosure.around
    rw [execute_bind, execute_bind, execute_preceded, execute_preceded, execute_noted]
  | condition saved =>
    exact execute_ensuring_congr (execute_resume _ _).symm
  | branch next =>
    unfold Enclosure.around
    rw [execute_bind, execute_bind, execute_resume]
  | loop turn =>
    refine execute_ensuring_congr ?_
    rw [execute_bind, execute_bind, execute_part, execute_part, execute_resume]
  | call frame =>
    refine execute_ensuring_congr ?_
    unfold Function.catchReturn
    rw [execute_bind, execute_bind, execute_observe, execute_observe, execute_resume]
  | script rest soFar =>
    unfold Enclosure.around
    rw [execute_bind, execute_bind, execute_observe, execute_observe, execute_noted]
  | exec =>
    unfold Enclosure.around
    rw [execute_bind, execute_bind, execute_resume]

end Enclosures

/-- A piece of a script. -/
inductive Code (κ : Type)
  | statement (statement : Statement κ)
  /-- A list of statements, after the output before it. -/
  | list (statements : List (Statement κ)) (before : Outcome)
  | condition (statements : List (Statement κ))
  /-- What is left of a loop over words, from inside the loop. -/
  | words (name : String) (body : List (Statement κ)) (rounds : Int) (words : List String)
    (soFar : Outcome)
  /-- What is left of a loop with a condition, from inside the loop. -/
  | checks (negated : Bool) (condition body : List (Statement κ)) (left : Nat) (soFar : Outcome)
  /-- What is left of a script that is run as a whole. -/
  | script (statements : List (Statement κ)) (soFar : Outcome)
  /-- A script that is run as a list of statements. -/
  | run (script : List (Statement κ))
  /-- A script that is run as a condition. -/
  | test (script : List (Statement κ))
  /-- A script that is run as a whole. -/
  | exec (script : List (Statement κ))

namespace Code

variable {κ σ : Type}

/-- What the piece does inside a function with some input, when at most `depth` bodies may run
inside each other. -/
def action (context : Context κ σ) (depth : Nat) (stdin : String) : Code κ → Run κ σ Outcome
  | statement present => present.action context (context.callee depth) stdin
  | list statements before =>
    Action.runAll context.limits
      (Statement.actions context (context.callee depth) stdin statements) before
  | condition statements =>
    Action.condition context.limits
      (Statement.actions context (context.callee depth) stdin statements)
  | words name body rounds remaining soFar =>
    leavingLoop (Action.wordRounds context.limits name (Action.sequence context.limits
      (Statement.actions context (context.callee depth) stdin body)) rounds remaining soFar)
  | checks negated checked body left soFar =>
    leavingLoop (Action.conditionRounds context.limits negated
      (Action.condition context.limits
        (Statement.actions context (context.callee depth) stdin checked))
      (Action.sequence context.limits
        (Statement.actions context (context.callee depth) stdin body)) left soFar)
  | script statements soFar =>
    Context.topLevel context.limits
      (Statement.actions context (context.callee depth) stdin statements) soFar
  | run statements => context.run statements
  | test statements => context.condition statements
  | exec statements => context.exec statements

/-- The number of loops that the piece is the rest of. -/
def loops : Code κ → Nat
  | words _ _ _ _ _ | checks _ _ _ _ _ => 1
  | _ => 0

/-- The piece is a script that is run as a whole, or what is left of one. -/
def isWhole : Code κ → Bool
  | script _ _ | exec _ => true
  | _ => false

end Code

/-- A piece of a script, the machine it is run on, and the calls around it: how deep they may get,
and the input of the innermost one. -/
structure Place (κ σ : Type) where
  depth : Nat
  stdin : String
  code : Code κ
  machine : Machine (Function κ) σ

namespace Place

variable {κ σ : Type}

/-- The run from a place to the end of its piece. -/
def run (context : Context κ σ) (place : Place κ σ) :
    Except Stop Outcome × Machine (Function κ) σ :=
  execute (place.code.action context place.depth place.stdin) place.machine

/-- The depth of loops outside the piece. -/
def loopDepth (place : Place κ σ) : Int := place.machine.state.loopDepth - place.code.loops

/-- What statements at the place do. -/
abbrev actions (context : Context κ σ) (depth : Nat) (stdin : String)
    (statements : List (Statement κ)) : List (Run κ σ Outcome) :=
  Statement.actions context (context.callee depth) stdin statements

end Place

open Place (actions)

/-- From one place the run gets to another one, further in or later, with these enclosures in
between. -/
inductive Advance {κ σ : Type} (context : Context κ σ) :
    Place κ σ → List (Enclosure κ σ) → Place κ σ → Prop
  | run {depth stdin script machine} :
    Advance context ⟨depth, stdin, .run script, machine⟩ []
      ⟨context.depth, "", .list script {}, machine⟩
  | test {depth stdin script machine} :
    Advance context ⟨depth, stdin, .test script, machine⟩ []
      ⟨context.depth, "", .condition script, machine⟩
  | exec {depth stdin script machine start} :
    start = { machine with state := { machine.state with commandCount := 0 } } →
    Advance context ⟨depth, stdin, .exec script, machine⟩ [.exec]
      ⟨context.depth, "", .script script {}, start⟩
  | firstOfScript {depth stdin statement rest soFar machine ready} :
    execute (Action.countCommand context.limits) machine = (.ok (), ready) →
    Advance context ⟨depth, stdin, .script (statement :: rest) soFar, machine⟩
      [.script (actions context depth stdin rest) soFar] ⟨depth, stdin, .statement statement, ready⟩
  /-- The statement has ended, and the script goes on, whatever statements follow. -/
  | laterInScript {depth stdin statement rest soFar all machine ended next last} :
    execute (Action.runOne context.limits (statement.action context (context.callee depth) stdin))
      machine = (ended, next) →
    (∀ rest, execute (afterStatement context.limits rest soFar ended) next =
      execute (Context.topLevel context.limits rest all) last) →
    Advance context ⟨depth, stdin, .script (statement :: rest) soFar, machine⟩ []
      ⟨depth, stdin, .script rest all, last⟩
  | first {depth stdin statement rest before machine ready} :
    execute (Action.countCommand context.limits) machine = (.ok (), ready) →
    Advance context ⟨depth, stdin, .list (statement :: rest) before, machine⟩
      [.list (actions context depth stdin rest) before] ⟨depth, stdin, .statement statement, ready⟩
  | later {depth stdin statement rest before outcome machine next} :
    execute (Action.runOne context.limits (statement.action context (context.callee depth) stdin))
      machine = (.ok outcome, next) →
    Advance context ⟨depth, stdin, .list (statement :: rest) before, machine⟩ []
      ⟨depth, stdin, .list rest (before.andThen outcome), next⟩
  | condition {depth stdin statements machine} :
    Advance context ⟨depth, stdin, .condition statements, machine⟩
      [.condition machine.state.inCondition]
      ⟨depth, stdin, .list statements {}, Trace.inCondition machine⟩
  | group {depth stdin body before machine} :
    Advance context ⟨depth, stdin, .statement (.group body before), machine⟩ []
      ⟨depth, stdin, .list body { before with status := 0 }, machine⟩
  | branchCondition {depth stdin condition thenBody elseBody machine} :
    Advance context ⟨depth, stdin, .statement (.branch condition thenBody elseBody), machine⟩
      [.branch fun checked =>
        if checked.status = 0 then
          Action.runAll context.limits (actions context depth stdin thenBody)
            { checked with status := 0 }
        else
          Action.runAll context.limits (actions context depth stdin elseBody)
            { checked with status := 0 }]
      ⟨depth, stdin, .condition condition, machine⟩
  | branchBody {depth stdin condition thenBody elseBody checked machine next} :
    execute (Action.condition context.limits (actions context depth stdin condition)) machine =
      (.ok checked, next) →
    Advance context ⟨depth, stdin, .statement (.branch condition thenBody elseBody), machine⟩ []
      ⟨depth, stdin,
        .list (if checked.status = 0 then thenBody else elseBody) { checked with status := 0 },
        next⟩
  | forEach {depth stdin name words found body machine next} :
    execute words.get machine = (.ok found, next) → Text.isName name.toList = true →
    Advance context ⟨depth, stdin, .statement (.forEach name words body), machine⟩ []
      ⟨depth, stdin, .words name body 0 found {}, Trace.inLoop next⟩
  | word {depth stdin name body rounds word rest soFar machine ready} :
    ¬ context.limits.iterations < rounds + 1 →
    execute (Action.write (State.setVariable name word)) machine = (.ok (), ready) →
    Advance context ⟨depth, stdin, .words name body rounds (word :: rest) soFar, machine⟩
      [.loop (.word name (Action.sequence context.limits (actions context depth stdin body)) rounds
        rest soFar)]
      ⟨depth, stdin, .list body {}, ready⟩
  | nextWord {depth stdin name body rounds word rest soFar all machine ready next} :
    ¬ context.limits.iterations < rounds + 1 →
    execute (Action.write (State.setVariable name word)) machine = (.ok (), ready) →
    execute (bodyPart soFar (Action.sequence context.limits (actions context depth stdin body)))
      ready = (.ok (.again all), next) →
    Advance context ⟨depth, stdin, .words name body rounds (word :: rest) soFar, machine⟩ []
      ⟨depth, stdin, .words name body (rounds + 1) rest all, next⟩
  | whileLoop {depth stdin negated condition body machine} :
    Advance context ⟨depth, stdin, .statement (.whileLoop negated condition body), machine⟩ []
      ⟨depth, stdin, .checks negated condition body context.limits.iterations.toNat {},
        Trace.inLoop machine⟩
  | check {depth stdin negated condition body left soFar machine} :
    Advance context ⟨depth, stdin, .checks negated condition body (left + 1) soFar, machine⟩
      [.loop (.check negated
        (Action.condition context.limits (actions context depth stdin condition))
        (Action.sequence context.limits (actions context depth stdin body)) left soFar)]
      ⟨depth, stdin, .condition condition, machine⟩
  | checked {depth stdin negated condition body left soFar outcome machine next} :
    execute (Action.condition context.limits (actions context depth stdin condition)) machine =
      (.ok outcome, next) →
    ((outcome.status == 0) == negated) = false →
    Advance context ⟨depth, stdin, .checks negated condition body (left + 1) soFar, machine⟩
      [.loop (.checked negated
        (Action.condition context.limits (actions context depth stdin condition))
        (Action.sequence context.limits (actions context depth stdin body)) left
        (withChecked soFar outcome))]
      ⟨depth, stdin, .list body {}, next⟩
  | nextCheck {depth stdin negated condition body left soFar all machine next} :
    execute (conditionPart soFar negated
      (Action.condition context.limits (actions context depth stdin condition))
      (Action.sequence context.limits (actions context depth stdin body))) machine =
      (.ok (.again all), next) →
    Advance context ⟨depth, stdin, .checks negated condition body (left + 1) soFar, machine⟩ []
      ⟨depth, stdin, .checks negated condition body left all, next⟩
  | call {depth stdin name args input line function frame machine inside} :
    machine.functions[name]? = some function →
    execute (Action.onState (State.openFrame context.limits function.name (some function.source)
      args line)) machine = (.ok frame, inside) →
    Advance context ⟨depth + 1, stdin, .statement (.call name args input line), machine⟩
      [.call frame] ⟨depth, input, .list function.body {}, inside⟩

/-- From one place the run gets to another one, with these enclosures in between, the innermost
first. -/
inductive Reaches {κ σ : Type} (context : Context κ σ) :
    Place κ σ → List (Enclosure κ σ) → Place κ σ → Prop
  | here (place : Place κ σ) : Reaches context place [] place
  | step {place next last : Place κ σ} {outer inner : List (Enclosure κ σ)} :
    Advance context place outer next → Reaches context next inner last →
    Reaches context place (inner ++ outer) last

section Steps

variable {κ σ : Type} {context : Context κ σ} {place next last : Place κ σ}
  {enclosures : List (Enclosure κ σ)}

theorem execute_runOne {limits : Limits} {statement : Run κ σ Outcome}
    {machine ready : Machine (Function κ) σ}
    (counted : execute (Action.countCommand limits) machine = (.ok (), ready)) :
    execute (Action.runOne limits statement) machine = execute (noted statement) ready :=
  execute_bind_of_ok counted

theorem Code.action_list_cons (depth : Nat) (stdin : String) (statement : Statement κ)
    (rest : List (Statement κ)) (before : Outcome) :
    (Code.list (statement :: rest) before).action context depth stdin =
      Action.runAll context.limits (statement.action context (context.callee depth) stdin ::
        actions context depth stdin rest) before := by
  rw [Code.action, Statement.actions]

theorem Code.action_script_cons (depth : Nat) (stdin : String) (statement : Statement κ)
    (rest : List (Statement κ)) (soFar : Outcome) :
    (Code.script (statement :: rest) soFar).action context depth stdin =
      Context.topLevel context.limits (statement.action context (context.callee depth) stdin ::
        actions context depth stdin rest) soFar := by
  rw [Code.action, Statement.actions]

theorem topLevel_cons (limits : Limits) (statement : Run κ σ Outcome)
    (rest : List (Run κ σ Outcome)) (soFar : Outcome) :
    Context.topLevel limits (statement :: rest) soFar =
      Action.observe (Action.runOne limits statement) >>= afterStatement limits rest soFar := by
  rw [Context.topLevel]
  rfl

/-- A word is assigned, and then the body runs as a part of the round. -/
theorem execute_wordRounds {limits : Limits} {name word : String} {body : Run κ σ Outcome}
    {rounds : Int} {rest : List String} {soFar : Outcome} {machine ready : Machine (Function κ) σ}
    (allowed : ¬ limits.iterations < rounds + 1)
    (assigned : execute (Action.write (State.setVariable name word)) machine = (.ok (), ready)) :
    execute (Action.wordRounds limits name body rounds (word :: rest) soFar) machine =
      execute (bodyPart soFar body >>= Turn.onward limits (.word name body rounds rest soFar))
        ready := by
  unfold Action.wordRounds
  rw [if_neg allowed]
  refine (execute_bind_of_ok assigned).trans ?_
  congr 2
  funext round
  cases round <;> rfl

theorem conditionRounds_succ (limits : Limits) (negated : Bool) (condition body : Run κ σ Outcome)
    (left : Nat) (soFar : Outcome) :
    Action.conditionRounds limits negated condition body (left + 1) soFar =
      conditionPart soFar negated condition body >>=
        Turn.onward limits (.check negated condition body left soFar) := by
  rw [Action.conditionRounds]
  congr 1
  funext round
  cases round <;> rfl

/-- Whether the condition or the body is being run, the loop goes on with the condition. -/
theorem onward_check (limits : Limits) (negated : Bool) (condition body : Run κ σ Outcome)
    (left : Nat) (soFar all : Outcome) :
    Turn.onward limits (.check negated condition body left soFar) =
      Turn.onward limits (.checked negated condition body left all) := by
  funext round
  cases round <;> rfl

theorem resumeAll_singleton (limits : Limits) (enclosure : Enclosure κ σ) (inner : Run κ σ Outcome)
    (machine : Machine (Function κ) σ) :
    Enclosure.resumeAll limits [enclosure] (execute inner machine) =
      execute (enclosure.around limits inner) machine :=
  (execute_around limits enclosure inner machine).symm

/-- A step leads to a place whose end decides how the run ends. -/
theorem Advance.run_eq (step : Advance context place enclosures next) :
    place.run context = Enclosure.resumeAll context.limits enclosures (next.run context) := by
  unfold Place.run
  cases step with
  | run => rfl
  | test => rfl
  | exec start =>
    subst start
    rw [resumeAll_singleton]
    rfl
  | firstOfScript counted =>
    dsimp only
    rw [resumeAll_singleton, Code.action_script_cons, topLevel_cons, execute_bind, execute_observe,
      execute_runOne counted, Enclosure.around, execute_bind, execute_observe]
    rfl
  | laterInScript ended goesOn =>
    dsimp only
    rw [Code.action_script_cons, topLevel_cons, execute_bind, execute_observe, ended]
    exact goesOn _
  | first counted =>
    dsimp only
    rw [resumeAll_singleton, Code.action_list_cons, Action.runAll, execute_bind, execute_preceded,
      execute_runOne counted, Enclosure.around, execute_bind, execute_preceded]
    rfl
  | later ran =>
    dsimp only
    rw [Code.action_list_cons, Action.runAll, execute_bind, execute_preceded, ran]
    rfl
  | condition =>
    rw [resumeAll_singleton]
    rfl
  | group =>
    rw [Code.action, Statement.action]
    rfl
  | branchCondition =>
    rw [resumeAll_singleton, Code.action, Statement.action]
    rfl
  | branchBody checked =>
    rw [Code.action, Statement.action, execute_bind_of_ok checked]
    dsimp only
    split <;> rfl
  | forEach found named =>
    rw [Code.action, Statement.action, execute_bind_of_ok found, if_pos named]
    rfl
  | word allowed assigned =>
    rw [resumeAll_singleton]
    exact execute_ensuring_congr (execute_wordRounds allowed assigned)
  | nextWord allowed assigned again =>
    refine execute_ensuring_congr ?_
    rw [execute_wordRounds allowed assigned, execute_bind_of_ok again]
    rfl
  | whileLoop =>
    rw [Code.action, Statement.action]
    rfl
  | check =>
    rw [resumeAll_singleton]
    refine execute_ensuring_congr ?_
    rw [conditionRounds_succ]
    rfl
  | checked ran holds =>
    rw [resumeAll_singleton]
    refine execute_ensuring_congr ?_
    rw [conditionRounds_succ, onward_check, execute_bind, execute_bind, execute_part, ran]
    dsimp only
    rw [holds, if_neg Bool.false_ne_true]
    rfl
  | nextCheck again =>
    refine execute_ensuring_congr ?_
    rw [conditionRounds_succ, execute_bind_of_ok again]
    rfl
  | call found opened =>
    rw [resumeAll_singleton, Code.action, Statement.action, execute_get_bind]
    dsimp only
    rw [found]
    exact execute_bind_of_ok opened

/-- A step in a script that is run as a whole goes into no loop. Other steps do not lead to such a
script. -/
theorem Advance.isWhole_or (step : Advance context place enclosures next) :
    (place.code.isWhole = true ∧ ∀ enclosure ∈ enclosures, enclosure.isLoop = false) ∨
      place.code.isWhole = false ∧ next.code.isWhole = false ∧
        ∀ enclosure ∈ enclosures, enclosure.isScript = false := by
  cases step <;> simp [Code.isWhole, Enclosure.isLoop, Enclosure.isScript]

theorem Reaches.isScript_eq_false (reaches : Reaches context place enclosures last)
    (part : place.code.isWhole = false) :
    ∀ enclosure ∈ enclosures, enclosure.isScript = false := by
  induction reaches with
  | here => exact fun _ member => nomatch member
  | step step _ inductionHypothesis =>
    rcases step.isWhole_or with ⟨whole, -⟩ | ⟨-, next, outer⟩
    · exact absurd (whole.symm.trans part) Bool.noConfusion
    · intro enclosure member
      rcases List.mem_append.mp member with inside | outside
      · exact inductionHypothesis next enclosure inside
      · exact outer enclosure outside

/-- Nothing leads from inside a loop to a script that is run as a whole. -/
theorem Reaches.scriptsOutside (reaches : Reaches context place enclosures last) :
    Enclosure.ScriptsOutside enclosures := by
  induction reaches with
  | here => exact .nil
  | step step rest inductionHypothesis =>
    rcases step.isWhole_or with ⟨-, noLoop⟩ | ⟨part, -, -⟩
    · refine List.pairwise_append.mpr ⟨inductionHypothesis, ?_, ?_⟩
      · exact List.pairwise_of_forall_mem_list fun _ _ other member _ => noLoop other member
      · exact fun _ _ other member _ => noLoop other member
    · have none := (Reaches.step step rest).isScript_eq_false part
      refine List.pairwise_of_forall_mem_list fun inner member _ _ script => ?_
      exact absurd (script.symm.trans (none inner member)) Bool.noConfusion

theorem Reaches.trans (before : Reaches context place enclosures next)
    {inner : List (Enclosure κ σ)} (further : Reaches context next inner last) :
    Reaches context place (inner ++ enclosures) last := by
  induction before with
  | here => simpa using further
  | step step _ inductionHypothesis =>
    rw [← List.append_assoc]
    exact .step step (inductionHypothesis further)

theorem Reaches.run_eq (reaches : Reaches context place enclosures last) :
    place.run context = Enclosure.resumeAll context.limits enclosures (last.run context) := by
  induction reaches with
  | here => rfl
  | step step _ inductionHypothesis =>
    rw [step.run_eq, inductionHypothesis, Enclosure.resumeAll, Enclosure.resumeAll,
      Enclosure.resumeAll, List.foldl_append]

end Steps

end Shell
