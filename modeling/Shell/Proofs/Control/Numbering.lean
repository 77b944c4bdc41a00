import Mathlib.Data.Int.Interval
import Mathlib.Data.Set.Card
import Shell.Proofs.Control.Law

/-!
# The numbers of statements

Every statement that a run invokes is counted before. The count never goes back while
a script is run, whatever the enclosures of a place make of its end, so each statement
has a number of its own, and there are no more statements than the limit allows.
-/

namespace Shell

open Running

/-- The count of commands does not go back. -/
def Law.counting : Law where
  holds first _ second := first.commandCount ≤ second.commandCount
  stay _ := Int.le_refl _
  chain := Int.le_trans
  caught _ := id
  raised _ _ _ := Int.le_refl _
  fatal _ := Int.le_refl _
  faulted _ _ := Int.le_refl _
  counted state := Int.le_add_one (Int.le_refl state.commandCount)
  marked _ _ := Int.le_refl _
  assigned {name word first second result} ran := by
    have same := State.progress_setVariable name word first
    rw [after_eq_of_execute ran] at same
    exact Int.le_of_eq (State.eq_of_progress same).1.symm
  looped := id
  conditioned := id
  called {_ _ _ _ _ _ _ second _ frame _ _} opened held closed := by
    have before := (State.eq_of_progress (State.entered_of_openFrame opened).2.2).1
    have behind := State.preserves_progress_closeFrame frame second
    rw [after_eq_of_execute closed] at behind
    rw [(State.eq_of_progress behind).1, ← before]
    exact held

section Growing

variable {κ σ : Type} {limits : Limits}

/-- The count does not go back in any of the statements. -/
abbrev Growing (limits : Limits) (statements : List (Run κ σ Outcome)) : Prop :=
  List.Forall₂ (Law.counting.Alike (Law.counting.everywhere limits).statement) statements statements

/-- The count does not go back in what is left of a loop. -/
def Turn.Grows : Turn κ σ → Prop
  | word _ body _ _ _ => Law.counting.Obeys body
  | check _ condition body _ _ | checked _ condition body _ _ =>
    Law.counting.Obeys condition ∧ Law.counting.Obeys body

/-- The count does not go back in what an enclosure still does. -/
def Enclosure.Grows (limits : Limits) : Enclosure κ σ → Prop
  | list rest _ | script rest _ => Growing limits rest
  | branch next => ∀ checked, Law.counting.Obeys (next checked)
  | loop turn => turn.Grows
  | condition _ | call _ | exec => True

theorem counting_resume {α : Type} (result : Except Stop α) :
    Law.counting.Obeys (Action.resume result : Run κ σ α) := by
  intro machine
  unfold after
  rw [execute_resume]
  exact Int.le_refl _

theorem counting_bodyPart {body : Run κ σ Outcome} (grows : Law.counting.Obeys body)
    (soFar : Outcome) : Law.counting.Obeys (bodyPart soFar body) :=
  Law.obeys_of_alike ((grows.alike _).bodyPart (Law.counting.everywhere {}) soFar) fun _ => trivial

theorem Turn.Grows.proceed {turn : Turn κ σ} (grows : turn.Grows) (outcome : Outcome) :
    Law.counting.Obeys (turn.proceed outcome) := by
  cases turn with
  | word name body rounds rest soFar => exact Law.obeys_pure _
  | checked negated condition body left soFar => exact Law.obeys_pure _
  | check negated condition body left soFar =>
    change Law.counting.Obeys (if (outcome.status == 0) == negated then _ else _)
    split
    · exact Law.obeys_pure _
    · exact counting_bodyPart grows.2 _

theorem Turn.Grows.onward {turn : Turn κ σ} (grows : turn.Grows) (limits : Limits) (round : Round) :
    Law.counting.Obeys (turn.onward limits round) := by
  let all := Law.counting.everywhere limits
  cases round with
  | done soFar => cases turn <;> exact Law.obeys_pure soFar
  | again soFar =>
    cases turn with
    | word name body rounds rest _ =>
      have body := Law.Alike.wordRounds all (grows.alike _) name rest (rounds + 1) soFar
      exact Law.obeys_of_alike body fun _ => trivial
    | check negated condition body left _ =>
      have rounds := Law.alike_conditionRounds all (grows.1.alike _) (grows.2.alike _) negated left
        soFar
      exact Law.obeys_of_alike rounds fun _ => trivial
    | checked negated condition body left _ =>
      have rounds := Law.alike_conditionRounds all (grows.1.alike _) (grows.2.alike _) negated left
        soFar
      exact Law.obeys_of_alike rounds fun _ => trivial

theorem le_after_afterStatement {rest : List (Run κ σ Outcome)}
    (later : ∀ soFar machine, machine.state.commandCount ≤
      (after (Context.topLevel limits rest soFar) machine).state.commandCount)
    (soFar : Outcome) (ended : Except Stop Outcome) (machine : Machine (Function κ) σ) :
    machine.state.commandCount ≤
      (after (afterStatement limits rest soFar ended) machine).state.commandCount := by
  rcases ended with (fault | ⟨cause, stdout, stderr⟩) | outcome
  · exact Int.le_refl _
  · cases cause with
    | leaveLoop levels => exact later _ machine
    | nextRound levels => exact later _ machine
    | leaveFunction status =>
      exact later _ { machine with state := { machine.state with
        lastStatus := if status = 0 then 1 else status } }
    | _ => exact Int.le_refl _
  · exact later _ machine

theorem le_after_topLevel {statements : List (Run κ σ Outcome)}
    (grows : Growing limits statements) (soFar : Outcome) (machine : Machine (Function κ) σ) :
    machine.state.commandCount ≤
      (after (Context.topLevel limits statements soFar) machine).state.commandCount := by
  induction statements generalizing soFar machine with
  | nil => exact Int.le_refl _
  | cons statement rest inductionHypothesis =>
    obtain ⟨first, later⟩ := List.forall₂_cons.mp grows
    have ran : machine.state.commandCount ≤
        (after (Action.runOne limits statement) machine).state.commandCount :=
      (first.runOne (Law.counting.everywhere limits) machine trivial).2
    rw [topLevel_cons, after, execute_bind, execute_observe]
    exact Int.le_trans ran (le_after_afterStatement (inductionHypothesis later) soFar _ _)

/-- What an enclosure makes of the end of a place does not take the count back. -/
theorem Enclosure.Grows.resume {enclosure : Enclosure κ σ} (grows : enclosure.Grows limits)
    (ended : Except Stop Outcome × Machine (Function κ) σ) :
    ended.2.state.commandCount ≤ (enclosure.resume limits ended).2.state.commandCount := by
  obtain ⟨result, machine⟩ := ended
  have inner : Law.counting.Obeys (Action.resume result : Run κ σ Outcome) := counting_resume result
  cases enclosure with
  | list rest before =>
    let all := Law.counting.everywhere limits
    have first := ((inner.alike all.list).noted).preceded before.stdout before.stderr
    have whole := first.bind all.closed fun outcome =>
      Law.alike_runAll all grows (before.andThen outcome)
    exact (whole machine trivial).2
  | condition saved =>
    change _ ≤ (execute (Action.ensuring _ _) _).2.state.commandCount
    rw [execute_ensuring, execute_resume]
    exact Int.le_refl _
  | branch next => exact inner.bind grows machine
  | loop turn =>
    have round := Law.Alike.part (fun _ _ => trivial : Law.counting.Leads _ fun _ => True)
      (inner.alike fun _ => True) (fun outcome => (grows.proceed outcome).alike _) turn.soFar
    have whole := (Law.obeys_of_alike round fun _ => trivial).bind (grows.onward limits)
    change _ ≤ (execute (Action.ensuring _ _) _).2.state.commandCount
    rw [execute_ensuring]
    exact whole machine
  | call frame =>
    have stays : (execute (Function.catchReturn (Action.resume result)) machine).2 = machine := by
      rw [← after, after_catchReturn, after, execute_resume]
    have closing := State.preserves_progress_closeFrame frame machine.state
    change _ ≤ (execute (Action.ensuring _ _) _).2.state.commandCount
    rw [execute_ensuring, stays, execute_write]
    unfold after at closing
    generalize execute (State.closeFrame frame) machine.state = closed at closing ⊢
    rcases closed with ⟨fault | value, last⟩
    · exact Int.le_of_eq (State.eq_of_progress closing).1.symm
    · exact Int.le_of_eq (State.eq_of_progress closing).1.symm
  | script rest soFar =>
    have first : machine.state.commandCount ≤
        (after (noted (Action.resume result)) machine).state.commandCount :=
      ((inner.alike fun _ => True).noted machine trivial).2
    change _ ≤ (execute (Action.observe _ >>= _) _).2.state.commandCount
    rw [execute_bind, execute_observe]
    exact Int.le_trans first (le_after_afterStatement (le_after_topLevel grows) soFar _ _)
  | exec =>
    refine inner.bind (fun outcome machine => ?_) machine
    exact Int.le_refl _

theorem Enclosure.le_resumeAll {enclosures : List (Enclosure κ σ)}
    (grows : ∀ enclosure ∈ enclosures, enclosure.Grows limits)
    (ended : Except Stop Outcome × Machine (Function κ) σ) :
    ended.2.state.commandCount ≤ (resumeAll limits enclosures ended).2.state.commandCount := by
  induction enclosures generalizing ended with
  | nil => exact Int.le_refl _
  | cons enclosure outer inductionHypothesis =>
    have first := (grows enclosure List.mem_cons_self).resume ended
    exact Int.le_trans first (inductionHypothesis
      (fun other member => grows other (List.mem_cons_of_mem _ member)) _)

end Growing

/-- The piece is a single statement. -/
def Code.isStatement {κ : Type} : Code κ → Bool
  | statement _ => true
  | _ => false

section Numbers

variable {κ σ : Type} {context : Context κ σ} {place next last other : Place κ σ}
  {enclosures outer inner : List (Enclosure κ σ)}

/-- How many commands were counted before the piece is run. -/
def Place.number (place : Place κ σ) : Int := place.machine.state.commandCount

/-- How many commands were counted when the piece has ended. -/
def Place.lastNumber (context : Context κ σ) (place : Place κ σ) : Int :=
  (place.run context).2.state.commandCount

/-- A statement is counted when it is invoked, and not beyond the limit. -/
theorem Advance.number_statement (step : Advance context place enclosures next)
    (statement : next.code.isStatement = true) :
    place.code.isStatement = false ∧ place.code.isExec = false ∧
      next.number = place.number + 1 ∧ next.number ≤ context.limits.commands := by
  cases step with
  | firstOfScript ran =>
    obtain ⟨rfl, allowed⟩ := counted_of_execute ran
    exact ⟨rfl, rfl, rfl, allowed⟩
  | first ran =>
    obtain ⟨rfl, allowed⟩ := counted_of_execute ran
    exact ⟨rfl, rfl, rfl, allowed⟩
  | _ => exact absurd statement Bool.false_ne_true

theorem Law.Begins.commandCount_le {limits : Limits} {first second : State}
    (begins : Law.counting.Begins limits first second) :
    first.commandCount ≤ second.commandCount := by
  cases begins with
  | onward held => exact held
  | conditioned => exact Int.le_refl _
  | looped => exact Int.le_refl _
  | entered opened =>
    exact Int.le_of_eq (State.eq_of_progress (State.entered_of_openFrame opened).2.2).1.symm

variable (leaves : ∀ leaf stdin, Law.counting.Obeys (context.host leaf stdin))

include leaves

/-- The enclosures that a step leads into do not take the count back. -/
theorem Advance.grows (step : Advance context place enclosures next) :
    ∀ enclosure ∈ enclosures, enclosure.Grows context.limits := by
  have lists := fun depth stdin => Place.forall₂_alike_actions leaves depth stdin
  have bodies := fun depth stdin body => Place.obeys_runAll leaves depth stdin body {}
  have conditions := fun depth stdin => Place.obeys_condition leaves depth stdin
  intro enclosure member
  cases step <;> simp only [List.not_mem_nil, List.mem_singleton] at member <;> subst member
  case exec => trivial
  case firstOfScript => exact lists _ _ _
  case first => exact lists _ _ _
  case condition => trivial
  case branchCondition =>
    intro checked
    dsimp only
    split
    · exact Place.obeys_runAll leaves _ _ _ _
    · exact Place.obeys_runAll leaves _ _ _ _
  case word => exact bodies _ _ _
  case check => exact ⟨conditions _ _ _, bodies _ _ _⟩
  case checked => exact ⟨conditions _ _ _, bodies _ _ _⟩
  case call => trivial

theorem Advance.lastNumber_le (step : Advance context place enclosures next) :
    next.lastNumber context ≤ place.lastNumber context := by
  unfold Place.lastNumber
  rw [step.run_eq]
  exact Enclosure.le_resumeAll (step.grows leaves) _

theorem Reaches.lastNumber_le (reaches : Reaches context place enclosures last) :
    last.lastNumber context ≤ place.lastNumber context := by
  induction reaches with
  | here => exact Int.le_refl _
  | step step _ inductionHypothesis =>
    exact Int.le_trans inductionHypothesis (step.lastNumber_le leaves)

theorem Place.number_le_lastNumber (statement : place.code.isStatement = true) :
    place.number ≤ place.lastNumber context := by
  obtain ⟨depth, stdin, code, machine⟩ := place
  cases code with
  | statement present => exact Place.obeys_statement leaves depth stdin present machine
  | _ => exact absurd statement Bool.false_ne_true

/-- A statement of a run has its number before the run ends. -/
theorem Reaches.number_le_lastNumber (reaches : Reaches context place enclosures last)
    (statement : last.code.isStatement = true) : last.number ≤ place.lastNumber context :=
  Int.le_trans (Place.number_le_lastNumber leaves statement) (reaches.lastNumber_le leaves)

/-- A statement that a run gets to later has a later number. -/
theorem Reaches.here_or_number_lt (reaches : Reaches context place enclosures last)
    (part : place.code.isExec = false) (statement : last.code.isStatement = true) :
    (enclosures = [] ∧ place = last) ∨ place.number < last.number := by
  induction reaches with
  | here => exact .inl ⟨rfl, rfl⟩
  | @step place next last _ _ step _ inductionHypothesis =>
    have before : place.number ≤ next.number := (step.begins leaves part).commandCount_le
    rcases inductionHypothesis step.isExec_next statement with ⟨-, rfl⟩ | later
    · have counted := (step.number_statement statement).2.2.1
      exact .inr (by omega)
    · exact .inr (by omega)

theorem Reaches.number_lt_of_not_statement (reaches : Reaches context place enclosures last)
    (part : place.code.isExec = false) (several : place.code.isStatement = false)
    (statement : last.code.isStatement = true) : place.number < last.number := by
  rcases reaches.here_or_number_lt leaves part statement with ⟨-, rfl⟩ | later
  · exact absurd (several.symm.trans statement) Bool.false_ne_true
  · exact later

theorem Advance.number_lt (step : Advance context place enclosures next)
    (rest : Reaches context next inner last) (part : place.code.isExec = false)
    (statement : last.code.isStatement = true) : place.number < last.number := by
  have before : place.number ≤ next.number := (step.begins leaves part).commandCount_le
  rcases rest.here_or_number_lt leaves step.isExec_next statement with ⟨-, rfl⟩ | later
  · have counted := (step.number_statement statement).2.2.1
    omega
  · omega

end Numbers

/-- The first place is left before the second one is reached. -/
def Place.Before {κ σ : Type} (context : Context κ σ) (first second : Place κ σ) : Prop :=
  first.lastNumber context ≤ second.number ∧ second.code.isStatement = false

section Order

variable {κ σ : Type} {context : Context κ σ} {place next last other : Place κ σ}
  {enclosures outer inner : List (Enclosure κ σ)}

theorem commandCount_noted (statement : Run κ σ Outcome) (machine : Machine (Function κ) σ) :
    (after (noted statement) machine).state.commandCount =
      (after statement machine).state.commandCount := by
  unfold noted after
  rw [execute_bind]
  rcases execute statement machine with ⟨stop | outcome, next⟩
  · rfl
  · dsimp only
    rw [execute_changeState_bind, execute_bind]
    have stays := after_checkFailure outcome
      { next with state := { next.state with lastStatus := outcome.status } }
    unfold after at stays
    generalize execute (Action.checkFailure outcome) _ = checked at stays ⊢
    rcases checked with ⟨stop | value, last⟩
    · rw [show last = _ from stays]
    · rw [show last = _ from stays]
      rfl

/-- A statement has ended when the next one can begin. -/
theorem commandCount_runOne {limits : Limits} {statement : Run κ σ Outcome}
    {ended : Except Stop Outcome} {machine ready next : Machine (Function κ) σ}
    (counted : execute (Action.countCommand limits) machine = (.ok (), ready))
    (ran : execute (Action.runOne limits statement) machine = (ended, next)) :
    (after statement ready).state.commandCount = next.state.commandCount := by
  rw [execute_runOne counted] at ran
  rw [← commandCount_noted, after_eq_of_execute ran]

theorem after_bodyPart (soFar : Outcome) (body : Run κ σ Outcome)
    (machine : Machine (Function κ) σ) :
    after (bodyPart soFar body) machine = after body machine := by
  unfold after
  rw [execute_part]
  rcases execute body machine with ⟨(fault | signal) | outcome, next⟩
  · rfl
  · exact after_settle soFar signal next
  · rfl

/-- The condition of a loop has ended when its round has. -/
theorem le_after_conditionPart {condition body : Run κ σ Outcome} (grows : Law.counting.Obeys body)
    (negated : Bool) (soFar : Outcome) (machine : Machine (Function κ) σ) :
    (after condition machine).state.commandCount ≤
      (after (conditionPart soFar negated condition body) machine).state.commandCount := by
  unfold after
  rw [execute_part]
  rcases execute condition machine with ⟨(fault | signal) | checked, next⟩
  · exact Int.le_refl _
  · have stays := after_settle soFar signal next
    unfold after at stays
    rw [stays]
  · dsimp only
    split
    · exact Int.le_refl _
    · exact counting_bodyPart grows _ next

theorem commandCount_le_of_execute {action : Run κ σ Outcome} {result : Except Stop Outcome}
    {machine next : Machine (Function κ) σ} (ran : execute action machine = (result, next)) :
    (after action machine).state.commandCount ≤ next.state.commandCount := by
  rw [after_eq_of_execute ran]

theorem le_of_goesOn {limits : Limits} {statement : Run κ σ Outcome} {soFar all : Outcome}
    {ended : Except Stop Outcome} {machine ready next last : Machine (Function κ) σ}
    (counted : execute (Action.countCommand limits) machine = (.ok (), ready))
    (ran : execute (Action.runOne limits statement) machine = (ended, next))
    (goesOn : ∀ rest, execute (afterStatement limits rest soFar ended) next =
      execute (Context.topLevel limits rest all) last) :
    (after statement ready).state.commandCount ≤ last.state.commandCount := by
  have stays : Law.counting.holds next.state (Ending.of ended) next.state := Int.le_refl _
  have later : next.state.commandCount ≤ last.state.commandCount := holds_of_goesOn stays goesOn
  rwa [commandCount_runOne counted ran]

theorem le_of_bodyPart {soFar : Outcome} {body : Run κ σ Outcome} {result : Except Stop Round}
    {machine next : Machine (Function κ) σ}
    (ran : execute (bodyPart soFar body) machine = (result, next)) :
    (after body machine).state.commandCount ≤ next.state.commandCount := by
  rw [← after_bodyPart soFar, after_eq_of_execute ran]

theorem le_of_conditionPart {soFar : Outcome} {negated : Bool} {condition body : Run κ σ Outcome}
    {result : Except Stop Round} {machine next : Machine (Function κ) σ}
    (grows : Law.counting.Obeys body)
    (ran : execute (conditionPart soFar negated condition body) machine = (result, next)) :
    (after condition machine).state.commandCount ≤ next.state.commandCount := by
  have later := @le_after_conditionPart κ σ condition body grows negated soFar machine
  rwa [after_eq_of_execute ran] at later

theorem le_of_checked {soFar checked : Outcome} {negated : Bool} {condition body : Run κ σ Outcome}
    {result : Except Stop Round} {machine middle next : Machine (Function κ) σ}
    (ran : execute condition machine = (.ok checked, middle))
    (holds : ((checked.status == 0) == negated) = false)
    (round : execute (conditionPart soFar negated condition body) machine = (result, next)) :
    (after body middle).state.commandCount ≤ next.state.commandCount := by
  rw [execute_part, ran] at round
  dsimp only at round
  rw [holds, if_neg Bool.false_ne_true] at round
  exact le_of_bodyPart round

variable (leaves : ∀ leaf stdin, Law.counting.Obeys (context.host leaf stdin))

include leaves

/-- Of two ways to go on from a place, one leads to a part of the run that ends before the other
begins. -/
theorem Advance.eq_or_before (first : Advance context place outer next)
    (second : Advance context place inner other) :
    (outer = inner ∧ next = other) ∨ next.Before context other ∨ other.Before context next := by
  have bodies := fun depth stdin body => Place.obeys_runAll leaves depth stdin body {}
  cases first with
  | run =>
    cases second
    exact .inl ⟨rfl, rfl⟩
  | test =>
    cases second
    exact .inl ⟨rfl, rfl⟩
  | exec start =>
    cases second with
    | exec also =>
      subst start also
      exact .inl ⟨rfl, rfl⟩
  | firstOfScript counted =>
    cases second with
    | firstOfScript also =>
      cases counted.symm.trans also
      exact .inl ⟨rfl, rfl⟩
    | laterInScript ran goesOn => exact .inr (.inl ⟨le_of_goesOn counted ran goesOn, rfl⟩)
  | laterInScript ran goesOn =>
    cases second with
    | firstOfScript counted => exact .inr (.inr ⟨le_of_goesOn counted ran goesOn, rfl⟩)
    | laterInScript also goesOnAlso =>
      cases ran.symm.trans also
      cases (goesOn []).symm.trans (goesOnAlso [])
      exact .inl ⟨rfl, rfl⟩
  | first counted =>
    cases second with
    | first also =>
      cases counted.symm.trans also
      exact .inl ⟨rfl, rfl⟩
    | later ran => exact .inr (.inl ⟨Int.le_of_eq (commandCount_runOne counted ran), rfl⟩)
  | later ran =>
    cases second with
    | first counted => exact .inr (.inr ⟨Int.le_of_eq (commandCount_runOne counted ran), rfl⟩)
    | later also =>
      cases ran.symm.trans also
      exact .inl ⟨rfl, rfl⟩
  | condition =>
    cases second
    exact .inl ⟨rfl, rfl⟩
  | group =>
    cases second
    exact .inl ⟨rfl, rfl⟩
  | branchCondition =>
    cases second with
    | branchCondition => exact .inl ⟨rfl, rfl⟩
    | branchBody ran => exact .inr (.inl ⟨commandCount_le_of_execute ran, rfl⟩)
  | branchBody ran =>
    cases second with
    | branchCondition => exact .inr (.inr ⟨commandCount_le_of_execute ran, rfl⟩)
    | branchBody also =>
      cases ran.symm.trans also
      exact .inl ⟨rfl, rfl⟩
  | forEach found named =>
    cases second with
    | forEach also _ =>
      cases found.symm.trans also
      exact .inl ⟨rfl, rfl⟩
  | word allowed assigned =>
    cases second with
    | word _ also =>
      cases assigned.symm.trans also
      exact .inl ⟨rfl, rfl⟩
    | nextWord _ also again =>
      cases assigned.symm.trans also
      exact .inr (.inl ⟨le_of_bodyPart again, rfl⟩)
  | nextWord allowed assigned again =>
    cases second with
    | word _ also =>
      cases assigned.symm.trans also
      exact .inr (.inr ⟨le_of_bodyPart again, rfl⟩)
    | nextWord _ also againAlso =>
      cases assigned.symm.trans also
      cases again.symm.trans againAlso
      exact .inl ⟨rfl, rfl⟩
  | whileLoop =>
    cases second
    exact .inl ⟨rfl, rfl⟩
  | check =>
    cases second with
    | check => exact .inl ⟨rfl, rfl⟩
    | checked ran _ => exact .inr (.inl ⟨commandCount_le_of_execute ran, rfl⟩)
    | nextCheck again => exact .inr (.inl ⟨le_of_conditionPart (bodies _ _ _) again, rfl⟩)
  | checked ran holds =>
    cases second with
    | check => exact .inr (.inr ⟨commandCount_le_of_execute ran, rfl⟩)
    | checked also _ =>
      cases ran.symm.trans also
      exact .inl ⟨rfl, rfl⟩
    | nextCheck again => exact .inr (.inl ⟨le_of_checked ran holds again, rfl⟩)
  | nextCheck again =>
    cases second with
    | check => exact .inr (.inr ⟨le_of_conditionPart (bodies _ _ _) again, rfl⟩)
    | checked ran holds => exact .inr (.inr ⟨le_of_checked ran holds again, rfl⟩)
    | nextCheck also =>
      cases again.symm.trans also
      exact .inl ⟨rfl, rfl⟩
  | call found opened =>
    cases second with
    | call foundAlso openedAlso =>
      cases found.symm.trans foundAlso
      cases opened.symm.trans openedAlso
      exact .inl ⟨rfl, rfl⟩

/-- No two statements of a run have the same number. -/
theorem Reaches.eq_of_number_eq (reaches : Reaches context place outer last)
    {also : Place κ σ} (alsoReaches : Reaches context place inner also)
    (part : place.code.isExec = false) (statement : last.code.isStatement = true)
    (alsoStatement : also.code.isStatement = true) (same : last.number = also.number) :
    outer = inner ∧ last = also := by
  induction reaches generalizing inner also with
  | here place =>
    rcases alsoReaches.here_or_number_lt leaves part alsoStatement with ⟨rfl, rfl⟩ | later
    · exact ⟨rfl, rfl⟩
    · omega
  | @step place next last _ _ step rest inductionHypothesis =>
    have strictly := step.number_lt leaves rest part statement
    cases alsoReaches with
    | here => omega
    | @step _ other _ _ _ stepAlso restAlso =>
      have partNext := step.isExec_next
      have partOther := stepAlso.isExec_next
      rcases step.eq_or_before leaves stepAlso with ⟨rfl, rfl⟩ | before | before
      · obtain ⟨rfl, rfl⟩ := inductionHypothesis restAlso partNext statement alsoStatement same
        exact ⟨rfl, rfl⟩
      · have ended := rest.number_le_lastNumber leaves statement
        have later := restAlso.number_lt_of_not_statement leaves partOther before.2 alsoStatement
        have ordered := before.1
        omega
      · have ended := restAlso.number_le_lastNumber leaves alsoStatement
        have later := rest.number_lt_of_not_statement leaves partNext before.2 statement
        have ordered := before.1
        omega

end Order

section Invocations

variable {κ σ : Type} {context : Context κ σ} {place last : Place κ σ}
  {enclosures : List (Enclosure κ σ)}

/-- No statement that a run gets to has a number beyond the limit. -/
theorem Reaches.number_le_commands (reaches : Reaches context place enclosures last)
    (start : place.code.isStatement = true → place.number ≤ context.limits.commands)
    (statement : last.code.isStatement = true) : last.number ≤ context.limits.commands := by
  induction reaches with
  | here => exact start statement
  | step step _ inductionHypothesis =>
    exact inductionHypothesis (fun single => (step.number_statement single).2.2.2) statement

/-- The statements that a run invokes: the places where one is about to be run, with what encloses
them. -/
def invocations (context : Context κ σ) (start : Place κ σ) :
    Set (List (Enclosure κ σ) × Place κ σ) :=
  { reached | Reaches context start reached.1 reached.2 ∧ reached.2.code.isStatement = true }

variable (leaves : ∀ leaf stdin, Law.counting.Obeys (context.host leaf stdin))

include leaves

/-- A script that starts to count at zero invokes no more statements than the limit allows. -/
theorem encard_invocations_script_le (depth : Nat) (stdin : String) (script : List (Statement κ))
    (soFar : Outcome) {machine : Machine (Function κ) σ} (zero : machine.state.commandCount = 0) :
    (invocations context ⟨depth, stdin, .script script soFar, machine⟩).encard ≤
      context.limits.commands.toNat := by
  let start : Place κ σ := ⟨depth, stdin, .script script soFar, machine⟩
  let number (reached : List (Enclosure κ σ) × Place κ σ) : Int := reached.2.number
  have bounded : Set.MapsTo number (invocations context start)
      (Finset.Ioc 0 context.limits.commands : Finset Int) := by
    rintro ⟨enclosures, last⟩ ⟨reaches, statement⟩
    have later := reaches.number_lt_of_not_statement leaves rfl rfl statement
    change start.machine.state.commandCount < _ at later
    rw [show start.machine.state.commandCount = 0 from zero] at later
    have limit : last.number ≤ context.limits.commands :=
      reaches.number_le_commands (fun single => Bool.noConfusion single) statement
    exact Finset.mem_coe.mpr (Finset.mem_Ioc.mpr ⟨later, limit⟩)
  have injective : Set.InjOn number (invocations context start) := by
    rintro ⟨enclosures, last⟩ ⟨reaches, statement⟩ ⟨others, other⟩ ⟨also, alsoStatement⟩ same
    obtain ⟨rfl, rfl⟩ := reaches.eq_of_number_eq leaves also rfl statement alsoStatement same
    rfl
  calc (invocations context start).encard
      ≤ ((Finset.Ioc 0 context.limits.commands : Finset Int) : Set Int).encard :=
        Set.encard_le_encard_of_injOn bounded injective
    _ = context.limits.commands.toNat := by
        rw [Set.encard_coe_eq_coe_finsetCard, Int.card_Ioc, Int.sub_zero]

/-- A script that is run as a whole invokes no more statements than the limit allows. -/
theorem encard_invocations_exec_le (depth : Nat) (stdin : String) (script : List (Statement κ))
    (machine : Machine (Function κ) σ) :
    (invocations context ⟨depth, stdin, .exec script, machine⟩).encard ≤
      context.limits.commands.toNat := by
  let start : Machine (Function κ) σ :=
    { machine with state := { machine.state with commandCount := 0 } }
  let inside : Place κ σ := ⟨context.depth, "", .script script {}, start⟩
  have same : invocations context ⟨depth, stdin, .exec script, machine⟩ ⊆
      (fun reached => (reached.1 ++ [.exec], reached.2)) '' invocations context inside := by
    rintro ⟨enclosures, last⟩ ⟨reaches, statement⟩
    cases reaches with
    | here => exact Bool.noConfusion statement
    | @step _ _ _ _ inner step rest =>
      cases step with
      | exec started =>
        subst started
        exact ⟨(inner, last), ⟨rest, statement⟩, rfl⟩
  calc _ ≤ _ := Set.encard_le_encard same
    _ ≤ (invocations context inside).encard := Set.encard_image_le _ _
    _ ≤ _ := encard_invocations_script_le leaves _ _ script {} rfl

end Invocations

end Shell
