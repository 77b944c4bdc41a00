import Shell.Proofs.Control.Jump
import Shell.Proofs.Control.Numbering

/-!
# Fatal failures

A statement that fails where failures are fatal is the last one of its run. The signal
of the failure goes out through everything that encloses the statement, which is only
left on the way, and the script ends with the status of the failed statement. Only a
status that is too long for the text of the signal, or a call that cannot be closed,
comes in between. Inside a condition no failure is fatal, whatever loops, calls and
conditions are in it.
-/

namespace Shell

open Running

/-- Whether a condition is being checked stays as it is, and a failure is fatal only outside of
conditions. -/
def Law.checking : Law where
  holds first ending second := second.inCondition = first.inCondition ∧
    (first.inCondition = true → ∀ status, ending ≠ .stopped (.commandFailed status))
  stay _ := ⟨rfl, fun _ _ => Ending.noConfusion⟩
  chain before following :=
    ⟨following.1.trans before.1, fun inside => following.2 (before.1.trans inside)⟩
  caught _ held := ⟨held.1, fun _ _ => Ending.noConfusion⟩
  raised _ {_} other := ⟨rfl, fun _ status same => other status (Ending.stopped.inj same)⟩
  fatal {state status} failed := by
    refine ⟨rfl, fun inside => ?_⟩
    rw [Action.isFatal, inside, Bool.not_true, Bool.and_false] at failed
    exact Bool.noConfusion failed
  faulted _ _ := ⟨rfl, fun _ _ => Ending.noConfusion⟩
  counted _ := ⟨rfl, fun _ _ => Ending.noConfusion⟩
  marked _ _ := ⟨rfl, fun _ _ => Ending.noConfusion⟩
  assigned {name word first second result} ran := by
    have same := State.progress_setVariable name word first
    rw [after_eq_of_execute ran] at same
    refine ⟨(State.eq_of_progress same).2, fun _ _ => ?_⟩
    cases result <;> exact Ending.noConfusion
  looped held := held
  conditioned held := ⟨rfl, fun _ => held.2 rfl⟩
  called {_ _ _ _ _ _ _ second _ frame ending result} opened held closed := by
    have before := (State.eq_of_progress (State.entered_of_openFrame opened).2.2).2
    have behind := State.preserves_progress_closeFrame frame second
    rw [after_eq_of_execute closed] at behind
    refine ⟨(State.eq_of_progress behind).2.trans (held.1.trans before), fun inside => ?_⟩
    cases result with
    | error fault => exact fun _ => Ending.noConfusion
    | ok value => exact held.2 (before.trans inside)

section Conditions

variable {κ σ : Type} {context : Context κ σ}

/-- A condition does not end with the failure of a command. -/
theorem Place.condition_ne_commandFailed
    (leaves : ∀ leaf stdin, Law.checking.Obeys (context.host leaf stdin)) (depth : Nat)
    (stdin : String) (statements : List (Statement κ)) (machine : Machine (Function κ) σ)
    (status : Int) :
    Ending.of (Place.run context ⟨depth, stdin, .condition statements, machine⟩).1 ≠
      .stopped (.commandFailed status) := by
  have inside := Place.obeys_runAll leaves depth stdin statements {} (Trace.inCondition machine)
  have ran : Place.run context ⟨depth, stdin, .condition statements, machine⟩ =
      execute (Action.ensuring (Action.runAll context.limits
        (Place.actions context depth stdin statements) {}) (Action.changeState
          fun state => { state with inCondition := machine.state.inCondition }))
        (Trace.inCondition machine) := rfl
  rw [ran, execute_ensuring]
  exact inside.2 rfl status

end Conditions

/-- The machine with the status of its last statement. -/
def Machine.marked {φ σ : Type} (machine : Machine φ σ) (status : Int) : Machine φ σ :=
  { machine with state := { machine.state with lastStatus := status } }

/-- Neither loops nor functions deal with it. -/
def Stop.isFinal : Stop → Bool
  | fault _ => true
  | signal arrived => arrived.terminates

namespace Enclosure

variable {κ σ : Type}

/-- What follows a statement: the rest of its list, or of its script. -/
def isSequence : Enclosure κ σ → Bool
  | list _ _ | script _ _ => true
  | _ => false

end Enclosure

section Leaving

variable {κ σ : Type} (limits : Limits) {enclosure : Enclosure κ σ}
  {inner : List (Enclosure κ σ)}

/-- A signal that neither loops nor functions deal with goes on when the enclosure is left. -/
theorem resume_of_terminates {signal : Signal} (final : signal.terminates = true)
    (noScript : enclosure.isScript = false) {machine left : Machine (Function κ) σ}
    (leaves : execute enclosure.leave machine = (.ok (), left)) :
    ∃ stdout stderr, enclosure.resume limits (.error (.signal signal), machine) =
      (.error (.signal ⟨signal.cause, stdout, stderr⟩), left) := by
  obtain ⟨cause, stdout, stderr⟩ := signal
  cases enclosure with
  | script rest soFar => exact Bool.noConfusion noScript
  | list rest before =>
    cases leaves
    exact ⟨_, _, rfl⟩
  | loop turn =>
    have settles : execute (Action.settle turn.soFar ⟨cause, stdout, stderr⟩) machine =
        (.error (.signal ⟨cause, turn.soFar.stdout ++ stdout, turn.soFar.stderr ++ stderr⟩),
          machine) := by
      cases cause <;> first | rfl | exact Bool.noConfusion final
    refine ⟨turn.soFar.stdout ++ stdout, turn.soFar.stderr ++ stderr,
      (execute_ensuring _ _ _).trans ?_⟩
    have round := execute_part turn.soFar (Action.resume (.error (.signal
      ⟨cause, stdout, stderr⟩))) turn.proceed machine
    rw [execute_bind_of_error (round.trans settles)]
    cases leaves
    rfl
  | call frame =>
    refine ⟨stdout, stderr, ?_⟩
    have caught : (execute (Function.catchReturn (Action.resume
        (.error (.signal ⟨cause, stdout, stderr⟩)))) machine).1 =
        .error (.signal ⟨cause, stdout, stderr⟩) := by
      cases cause <;> first | rfl | exact Bool.noConfusion final
    rw [resume_call frame caught, leaves]
  | _ =>
    cases leaves
    exact ⟨stdout, stderr, rfl⟩

theorem resume_of_fault (fault : Fault) {machine left : Machine (Function κ) σ}
    (leaves : execute enclosure.leave machine = (.ok (), left)) :
    enclosure.resume limits (.error (.fault fault), machine) = (.error (.fault fault), left) := by
  cases enclosure with
  | call frame =>
    rw [resume_call frame rfl, leaves]
    rfl
  | _ =>
    cases leaves
    rfl

/-- What no loop and no function deals with leaves the enclosure, and something of that kind
remains. -/
theorem resume_of_isFinal {stop : Stop} (final : stop.isFinal = true)
    (noScript : enclosure.isScript = false) (machine : Machine (Function κ) σ) :
    ∃ further : Stop, further.isFinal = true ∧
      enclosure.resume limits (.error stop, machine) =
        (.error further, after enclosure.leave machine) := by
  rcases execute_leave enclosure machine with ⟨left, leaves⟩ | ⟨fault, left, fails⟩
  · rw [after_eq_of_execute leaves]
    cases stop with
    | fault fault => exact ⟨.fault fault, rfl, resume_of_fault limits fault leaves⟩
    | signal signal =>
      obtain ⟨stdout, stderr, passed⟩ := resume_of_terminates limits final noScript leaves
      exact ⟨.signal ⟨signal.cause, stdout, stderr⟩, final, passed⟩
  · rw [after_eq_of_execute fails]
    exact ⟨.fault fault, rfl, resume_of_leave_error fails⟩

theorem commandCount_leave (enclosure : Enclosure κ σ) (machine : Machine (Function κ) σ) :
    (after enclosure.leave machine).state.commandCount = machine.state.commandCount := by
  cases enclosure with
  | call frame =>
    exact (State.eq_of_progress (State.preserves_progress_closeFrame frame machine.state)).1
  | _ => rfl

/-- No command is counted on the way out. -/
theorem resumeAll_of_isFinal (noScripts : ∀ enclosure ∈ inner, enclosure.isScript = false)
    {stop : Stop} (final : stop.isFinal = true) (machine : Machine (Function κ) σ) :
    ∃ further : Stop, ∃ last, further.isFinal = true ∧
      Enclosure.resumeAll limits inner (.error stop, machine) = (.error further, last) ∧
      last.state.commandCount = machine.state.commandCount := by
  induction inner generalizing stop machine with
  | nil => exact ⟨stop, machine, final, rfl, rfl⟩
  | cons enclosure outer inductionHypothesis =>
    obtain ⟨next, still, passed⟩ := resume_of_isFinal limits final
      (noScripts enclosure List.mem_cons_self) machine
    obtain ⟨further, last, stopped, out, same⟩ := inductionHypothesis
      (fun other member => noScripts other (List.mem_cons_of_mem _ member)) still
      (after enclosure.leave machine)
    refine ⟨further, last, stopped, ?_, same.trans (commandCount_leave enclosure machine)⟩
    rw [← out, ← passed]
    rfl

/-- The signal goes out if and only if everything on its way can be left. -/
theorem resumeAll_of_terminates (noScripts : ∀ enclosure ∈ inner, enclosure.isScript = false)
    {signal : Signal} (final : signal.terminates = true) (machine : Machine (Function κ) σ) :
    match execute (Enclosure.leaveAll inner) machine with
    | (.ok _, left) => ∃ stdout stderr,
      Enclosure.resumeAll limits inner (.error (.signal signal), machine) =
        (.error (.signal ⟨signal.cause, stdout, stderr⟩), left)
    | (.error _, _) => ∃ fault last,
      Enclosure.resumeAll limits inner (.error (.signal signal), machine) =
        (.error (.fault fault), last) := by
  induction inner generalizing signal machine with
  | nil => exact ⟨signal.stdout, signal.stderr, rfl⟩
  | cons enclosure outer inductionHypothesis =>
    have fold : ∀ ended, Enclosure.resumeAll limits (enclosure :: outer) ended =
        Enclosure.resumeAll limits outer (enclosure.resume limits ended) := fun _ => rfl
    rw [Enclosure.leaveAll_cons, fold]
    rcases execute_leave enclosure machine with ⟨left, leaves⟩ | ⟨fault, left, fails⟩
    · obtain ⟨stdout, stderr, passed⟩ := resume_of_terminates limits final
        (noScripts enclosure List.mem_cons_self) leaves
      have still : (⟨signal.cause, stdout, stderr⟩ : Signal).terminates = true := final
      rw [execute_bind_of_ok leaves, passed]
      exact inductionHypothesis
        (fun other member => noScripts other (List.mem_cons_of_mem _ member)) still left
    · rw [execute_bind_of_error fails, resume_of_leave_error fails]
      exact resumeAll_fault outer fault left

end Leaving

section Reaching

variable {κ σ : Type} {context : Context κ σ} {place next last : Place κ σ}
  {enclosures : List (Enclosure κ σ)}

theorem Advance.exists_sequence (step : Advance context place enclosures next)
    (statement : next.code.isStatement = true) :
    ∃ enclosure, enclosures = [enclosure] ∧ enclosure.isSequence = true := by
  cases step with
  | first => exact ⟨_, rfl, rfl⟩
  | firstOfScript => exact ⟨_, rfl, rfl⟩
  | _ => exact Bool.noConfusion statement

/-- A statement that a run gets to stands in a list or in a script. -/
theorem Reaches.eq_or_sequence (reaches : Reaches context place enclosures last)
    (statement : last.code.isStatement = true) :
    enclosures = [] ∧ last = place ∨
      ∃ first outer, enclosures = first :: outer ∧ first.isSequence = true := by
  induction reaches with
  | here => exact .inl ⟨rfl, rfl⟩
  | step step _ inductionHypothesis =>
    rcases inductionHypothesis statement with ⟨rfl, rfl⟩ | ⟨first, outer, rfl, sequence⟩
    · obtain ⟨first, rfl, sequence⟩ := step.exists_sequence statement
      exact .inr ⟨first, [], rfl, sequence⟩
    · exact .inr ⟨first, _, rfl, sequence⟩

/-- What is between a script and one of its statements. -/
theorem Reaches.enclosures_of_script (reaches : Reaches context place enclosures last)
    {script : List (Statement κ)} {soFar : Outcome} (code : place.code = .script script soFar)
    (statement : last.code.isStatement = true) :
    ∃ inner rest all, enclosures = inner ++ [.script rest all] ∧
      ∀ enclosure ∈ inner, enclosure.isScript = false := by
  induction reaches generalizing script soFar with
  | here =>
    rw [code] at statement
    exact Bool.noConfusion statement
  | step step following inductionHypothesis =>
    cases step with
    | firstOfScript => exact ⟨_, _, _, rfl, following.isScript_eq_false rfl⟩
    | laterInScript =>
      rw [List.append_nil]
      exact inductionHypothesis rfl statement
    | _ => cases code

theorem Reaches.enclosures_of_exec {depth : Nat} {stdin : String} {script : List (Statement κ)}
    {machine : Machine (Function κ) σ}
    (reaches : Reaches context ⟨depth, stdin, .exec script, machine⟩ enclosures last)
    (statement : last.code.isStatement = true) :
    ∃ inner rest all, enclosures = inner ++ [.script rest all, .exec] ∧
      ∀ enclosure ∈ inner, enclosure.isScript = false := by
  cases reaches with
  | here => exact Bool.noConfusion statement
  | step step following =>
    cases step with
    | exec start =>
      obtain ⟨inner, rest, all, rfl, noScripts⟩ := following.enclosures_of_script rfl statement
      exact ⟨inner, rest, all, List.append_assoc _ _ _, noScripts⟩

end Reaching

section Fatal

variable {κ σ : Type} {context : Context κ σ} {limits : Limits} {outcome : Outcome}

/-- The signal of a failed command, if its status can be spelled. -/
def failureSignal (outcome : Outcome) : Except Fault Signal :=
  Signal.make (.commandFailed outcome.status) outcome.stdout outcome.stderr

theorem failureSignal_of_spell {digits : String} (spelled : spell outcome.status = .ok digits) :
    failureSignal outcome =
      .ok (.ofCause (.commandFailed outcome.status) outcome.stdout outcome.stderr) := by
  have message : (Cause.commandFailed outcome.status).message =
      .ok ("errexit: command exited with status " ++ digits) := by
    rw [Cause.message, spelled]
    rfl
  exact Signal.make_of_message message _ _

theorem failureSignal_eq_error_iff {fault : Fault} :
    failureSignal outcome = .error fault ↔ spell outcome.status = .error fault :=
  Signal.make_eq_error_iff.trans Signal.map_eq_error_iff

/-- A fatal failure is as good as the signal of it. -/
theorem resume_of_isFatal {enclosure : Enclosure κ σ} (sequence : enclosure.isSequence = true)
    {machine : Machine (Function κ) σ}
    (fatal : Action.isFatal machine.state outcome.status = true) :
    enclosure.resume limits (.ok outcome, machine) =
      enclosure.resume limits (.error (.ofMade (failureSignal outcome)),
        machine.marked outcome.status) := by
  have still : Action.isFatal (machine.marked outcome.status).state outcome.status = true := fatal
  have failed : execute (noted (Action.resume (.ok outcome) : Run κ σ Outcome)) machine =
      (.error (.ofMade (failureSignal outcome)), machine.marked outcome.status) := by
    have checked : execute (Action.checkFailure outcome : Run κ σ Unit)
        (machine.marked outcome.status) =
          (.error (.ofMade (failureSignal outcome)), machine.marked outcome.status) := by
      unfold Action.checkFailure
      rw [execute_state_bind, if_pos still]
      rfl
    exact (execute_bind_of_ok rfl).trans ((execute_bind_of_ok rfl).trans
      (execute_bind_of_error checked))
  have stopped : execute (noted (Action.resume
      (.error (.ofMade (failureSignal outcome))) : Run κ σ Outcome))
      (machine.marked outcome.status) =
        (.error (.ofMade (failureSignal outcome)), machine.marked outcome.status) := rfl
  unfold Enclosure.resume
  cases enclosure with
  | list rest before =>
    unfold Enclosure.around
    dsimp only
    rw [execute_bind, execute_bind, execute_preceded, execute_preceded, failed, stopped]
  | script rest soFar =>
    unfold Enclosure.around
    dsimp only
    rw [execute_bind, execute_bind, execute_observe, execute_observe, failed, stopped]
  | _ => exact Bool.noConfusion sequence

theorem resumeAll_append (inner outer : List (Enclosure κ σ))
    (ended : Except Stop Outcome × Machine (Function κ) σ) :
    Enclosure.resumeAll limits (inner ++ outer) ended =
      Enclosure.resumeAll limits outer (Enclosure.resumeAll limits inner ended) :=
  List.foldl_append

/-- The script ends with the status that belongs to the signal. -/
theorem resumeAll_script_of_terminates (rest : List (Run κ σ Outcome)) (soFar : Outcome)
    {signal : Signal} (final : signal.terminates = true) (machine : Machine (Function κ) σ) :
    Enclosure.resumeAll limits [.script rest soFar, .exec] (.error (.signal signal), machine) =
      (.ok { Action.withOutput soFar signal with status := signal.cause.status },
        machine.marked signal.cause.status) := by
  obtain ⟨cause, stdout, stderr⟩ := signal
  cases cause <;> first | rfl | exact Bool.noConfusion final

theorem execute_leaveAll_script (inner : List (Enclosure κ σ)) (rest : List (Run κ σ Outcome))
    (soFar : Outcome) (machine : Machine (Function κ) σ) :
    execute (Enclosure.leaveAll (inner ++ [.script rest soFar, .exec])) machine =
      execute (Enclosure.leaveAll inner) machine := by
  induction inner generalizing machine with
  | nil => rfl
  | cons enclosure outer inductionHypothesis =>
    rw [List.cons_append, Enclosure.leaveAll_cons, Enclosure.leaveAll_cons, execute_bind,
      execute_bind]
    rcases execute enclosure.leave machine with ⟨stop | value, left⟩
    · rfl
    · exact inductionHypothesis left

section Script

variable {inner : List (Enclosure κ σ)} (rest : List (Run κ σ Outcome)) (soFar : Outcome)
  (noScripts : ∀ enclosure ∈ inner, enclosure.isScript = false) (machine : Machine (Function κ) σ)

include noScripts

/-- Nothing more is counted in a script once a stop is on its way out. -/
theorem commandCount_resumeAll_of_isFinal {stop : Stop} (stopped : stop.isFinal = true) :
    (Enclosure.resumeAll limits [.script rest soFar, .exec]
      (Enclosure.resumeAll limits inner (.error stop, machine))).2.state.commandCount =
        machine.state.commandCount := by
  obtain ⟨further, last, kept, out, same⟩ := resumeAll_of_isFinal limits noScripts stopped machine
  rw [out]
  refine Eq.trans ?_ same
  cases further with
  | fault fault => rfl
  | signal signal =>
    rw [resumeAll_script_of_terminates rest soFar kept]
    rfl

/-- A script that a signal ends has an outcome if and only if all calls on the way out can be
closed. The status is that of the signal. -/
theorem resumeAll_script_iff {signal : Signal} (final : signal.terminates = true) :
    ((∃ all last, Enclosure.resumeAll limits [.script rest soFar, .exec]
        (Enclosure.resumeAll limits inner (.error (.signal signal), machine)) = (.ok all, last)) ↔
      ∃ left, execute (Enclosure.leaveAll inner) machine = (.ok (), left)) ∧
    ∀ {all last}, Enclosure.resumeAll limits [.script rest soFar, .exec]
        (Enclosure.resumeAll limits inner (.error (.signal signal), machine)) = (.ok all, last) →
      all.status = signal.cause.status := by
  have leaving := resumeAll_of_terminates limits noScripts final machine
  generalize execute (Enclosure.leaveAll inner) machine = way at leaving ⊢
  obtain ⟨stop | value, left⟩ := way
  · obtain ⟨fault, last, out⟩ := leaving
    have faults : Enclosure.resumeAll limits [.script rest soFar, .exec]
        (.error (.fault fault), last) = (.error (.fault fault), last) := rfl
    rw [out, faults]
    refine ⟨⟨?_, ?_⟩, fun returned => ?_⟩
    · rintro ⟨_, _, returned⟩
      cases returned
    · rintro ⟨_, left⟩
      cases left
    · cases returned
  · obtain ⟨stdout, stderr, out⟩ := leaving
    have still : (⟨signal.cause, stdout, stderr⟩ : Signal).terminates = true := final
    rw [out, resumeAll_script_of_terminates rest soFar still]
    refine ⟨⟨fun _ => ⟨left, rfl⟩, fun _ => ⟨_, _, rfl⟩⟩, fun returned => ?_⟩
    cases returned
    rfl

/-- A script that a fatal failure ends has an outcome if and only if the status of the failure can
be spelled and all calls on the way out can be closed. The status is that of the failure. -/
theorem resumeAll_failure_iff :
    ((∃ all last, Enclosure.resumeAll limits [.script rest soFar, .exec]
        (Enclosure.resumeAll limits inner
          (.error (.ofMade (failureSignal outcome)), machine)) = (.ok all, last)) ↔
      (∃ digits, spell outcome.status = .ok digits) ∧
        ∃ left, execute (Enclosure.leaveAll inner) machine = (.ok (), left)) ∧
    ∀ {all last}, Enclosure.resumeAll limits [.script rest soFar, .exec]
        (Enclosure.resumeAll limits inner
          (.error (.ofMade (failureSignal outcome)), machine)) = (.ok all, last) →
      all.status = outcome.status := by
  cases spelled : spell outcome.status with
  | ok digits =>
    have final : (Signal.ofCause (.commandFailed outcome.status) outcome.stdout
        outcome.stderr).terminates = true := rfl
    obtain ⟨returns, status⟩ := @resumeAll_script_iff κ σ limits inner rest soFar noScripts
      machine _ final
    rw [failureSignal_of_spell spelled]
    exact ⟨returns.trans ⟨fun leaves => ⟨⟨digits, rfl⟩, leaves⟩, And.right⟩, status⟩
  | error fault =>
    obtain ⟨last, left, out⟩ := @resumeAll_fault κ σ limits inner fault machine
    obtain ⟨other, final, further⟩ :=
      @resumeAll_fault κ σ limits [.script rest soFar, .exec] last left
    rw [failureSignal_eq_error_iff.mpr spelled, Stop.ofMade_error, out, further]
    refine ⟨⟨?_, ?_⟩, fun returned => ?_⟩
    · rintro ⟨_, _, returned⟩
      cases returned
    · rintro ⟨⟨_, digits⟩, _⟩
      cases digits
    · cases returned

end Script

/-- A fatal failure was the last statement of the script: the rest of the run only leaves what
encloses the statement, with these results. -/
structure EndsScript (context : Context κ σ) (script : List (Statement κ))
    (machine : Machine (Function κ) σ) (enclosures : List (Enclosure κ σ)) (outcome : Outcome)
    (next : Machine (Function κ) σ) : Prop where
  /-- There is an outcome if and only if the status of the failure can be spelled and all calls on
  the way out can be closed. -/
  returns_iff : (∃ all last, execute (context.exec script) machine = (.ok all, last)) ↔
    (∃ digits, spell outcome.status = .ok digits) ∧
      ∃ left, execute (Enclosure.leaveAll enclosures) (next.marked outcome.status) = (.ok (), left)
  /-- The status of the outcome is that of the failure. -/
  status_eq {all : Outcome} {last : Machine (Function κ) σ} :
    execute (context.exec script) machine = (.ok all, last) → all.status = outcome.status
  /-- Nothing more is counted. -/
  counted : (after (context.exec script) machine).state.commandCount = next.state.commandCount
  /-- Where the host does not take the count back, no statement has a later number. -/
  last : (∀ leaf stdin, Law.counting.Obeys (context.host leaf stdin)) →
    ∀ invoked ∈ invocations context ⟨0, "", .exec script, machine⟩,
      invoked.2.number ≤ next.state.commandCount

theorem isFinal_ofMade_failureSignal : (Stop.ofMade (failureSignal outcome)).isFinal = true := by
  cases spelled : spell outcome.status with
  | ok digits =>
    rw [failureSignal_of_spell spelled]
    rfl
  | error fault =>
    rw [failureSignal_eq_error_iff.mpr spelled]
    rfl

/-- Once a statement has failed where that is fatal, the script ends. -/
theorem Reaches.endsScript {script : List (Statement κ)} {machine next : Machine (Function κ) σ}
    {enclosures : List (Enclosure κ σ)} {place : Place κ σ}
    (reaches : Reaches context ⟨0, "", .exec script, machine⟩ enclosures place)
    (statement : place.code.isStatement = true) (ran : place.run context = (.ok outcome, next))
    (fatal : Action.isFatal next.state outcome.status = true) :
    EndsScript context script machine enclosures outcome next := by
  obtain ⟨inner, rest, soFar, rfl, noScripts⟩ := reaches.enclosures_of_exec statement
  have whole : execute (context.exec script) machine =
      Enclosure.resumeAll context.limits [.script rest soFar, .exec]
        (Enclosure.resumeAll context.limits inner
          (.error (.ofMade (failureSignal outcome)), next.marked outcome.status)) := by
    have same : execute (context.exec script) machine = _ := reaches.run_eq
    rw [same, ran, ← resumeAll_append]
    rcases reaches.eq_or_sequence statement with ⟨none, -⟩ | ⟨first, outer, split, sequence⟩
    · exact absurd none (List.append_ne_nil_of_right_ne_nil _ (List.cons_ne_nil _ _))
    · rw [split]
      exact congrArg (Enclosure.resumeAll context.limits outer) (resume_of_isFatal sequence fatal)
  have counted : (after (context.exec script) machine).state.commandCount =
      next.state.commandCount := by
    rw [after, whole]
    exact commandCount_resumeAll_of_isFinal rest soFar noScripts _ isFinal_ofMade_failureSignal
  obtain ⟨returns, status⟩ := @resumeAll_failure_iff κ σ context.limits outcome inner rest soFar
    noScripts (next.marked outcome.status)
  rw [← whole] at returns status
  refine ⟨?_, status, counted, ?_⟩
  · rw [execute_leaveAll_script]
    exact returns
  · rintro leaves ⟨outer, invoked⟩ ⟨reached, isStatement⟩
    have before := reached.number_le_lastNumber leaves isStatement
    exact before.trans (Int.le_of_eq counted)

/-- With commands that leave conditions alone and report no failures of commands themselves: after a
statement that fails where that is fatal the script ends, and no condition ends for a failure. -/
theorem Context.failure_ends_script
    (leaves : ∀ leaf stdin, Law.checking.Obeys (context.host leaf stdin)) :
    (∀ {script : List (Statement κ)} {machine next : Machine (Function κ) σ}
      {enclosures : List (Enclosure κ σ)} {place : Place κ σ} {outcome : Outcome},
      Reaches context ⟨0, "", .exec script, machine⟩ enclosures place →
      place.code.isStatement = true → place.run context = (.ok outcome, next) →
      Action.isFatal next.state outcome.status = true →
      EndsScript context script machine enclosures outcome next) ∧
    ∀ depth stdin statements machine status,
      Ending.of (Place.run context ⟨depth, stdin, .condition statements, machine⟩).1 ≠
        .stopped (.commandFailed status) :=
  ⟨fun reaches statement ran fatal => reaches.endsScript statement ran fatal,
    fun depth stdin statements machine status =>
      Place.condition_ne_commandFailed leaves depth stdin statements machine status⟩

end Fatal

/-- A call of a function that is not defined, in a function in a loop. -/
def failingInLoop : List (Statement Unit) :=
  [.define "f" [.call "g" [] "" none] none none,
    .forEach "i" (.given ["1", "2"]) [.call "f" [] "" none], .command ()]

/-- A shell in which failures are fatal. -/
def strict : Machine (Function Unit) Unit := ⟨{ options := { errexit := true } }, ∅, ()⟩

theorem Place.run_of_undefined {κ σ : Type} {context : Context κ σ} {depth : Nat}
    {stdin name input : String} {args : List String} {line : Option Int}
    {machine : Machine (Function κ) σ} (undefined : machine.functions[name]? = none) :
    Place.run context ⟨depth, stdin, .statement (.call name args input line), machine⟩ =
      (.ok (Function.notFound name), machine) := by
  rw [Place.run, Code.action, Statement.action, execute_get_bind, undefined]
  rfl

/-- The loop is left in its first round, and the last command is not run. -/
theorem failingInLoop_ends : ∃ enclosures place next,
    Reaches idle ⟨0, "", .exec failingInLoop, strict⟩ enclosures place ∧
    place.run idle = (.ok (Function.notFound "g"), next) ∧
    EndsScript idle failingInLoop strict enclosures (Function.notFound "g") next ∧
    (execute (idle.exec failingInLoop) strict).1.toOption.map Outcome.status = some 127 := by
  have reaches : ∃ enclosures depth machine,
      Reaches idle ⟨0, "", .exec failingInLoop, strict⟩ enclosures
        ⟨depth, "", .statement (.call "g" [] "" none), machine⟩ ∧
      machine.functions["g"]? = none ∧ Action.isFatal machine.state 127 = true :=
    ⟨_, _, _, .step (.exec rfl) (.step (.laterInScript rfl fun _ => rfl) (.step (.firstOfScript rfl)
      (.step (.forEach rfl rfl) (.step (.word (by decide) rfl) (.step (.first rfl)
        (.step (.call rfl rfl) (.step (.first rfl) (.here _)))))))), rfl, rfl⟩
  obtain ⟨enclosures, depth, machine, reached, undefined, fatal⟩ := reaches
  have ran := @Place.run_of_undefined Unit Unit idle depth "" _ "" [] none machine undefined
  refine ⟨enclosures, _, machine, reached, ran, ?_, by decide +kernel⟩
  exact (Context.failure_ends_script (fun _ _ _ => ⟨rfl, fun _ _ => Ending.noConfusion⟩)).1
    reached rfl ran fatal

section LongIndex

/-- A function that runs the command and then a call that fails. -/
def failingF : Function Unit := ⟨"f", [.command (), .call "g" [] "" none], mainSource⟩

/-- A call of the function. -/
def callingFailingF : List (Statement Unit) :=
  [.define "f" failingF.body none none, .call "f" [] "" none]

/-- The state of the shell before the call. -/
def strictState : State := { options := { errexit := true }, commandCount := 2 }

/-- The state of the call. -/
def strictCall : State :=
  let inside := strictState.enter ⟨"f", 0, mainSource⟩
  { inside with store := State.replacePositional inside.store [] }

/-- The state of the call after `y` was made local. -/
def strictLocal : State :=
  after (State.declareLocal "y" none) { strictCall with commandCount := 3 }

/-- The state of the call after the command. -/
def strictPlanted : State := { strictLocal with store := strictLocal.store.put longName "v" }

def strictShell (state : State) : Machine (Function Unit) Unit :=
  ⟨state, (∅ : Table (Function Unit)).insert "f" failingF, ()⟩

theorem execute_planting_strict : execute (planting.host () "")
    (strictShell { strictCall with commandCount := 3 }) = (.ok {}, strictShell strictPlanted) :=
  execute_planting_of_declared _ rfl rfl rfl

/-- The state of the call when it fails. -/
def strictLeft : State := { strictPlanted with commandCount := 4 }

theorem singleLine_strictLeft : { strictLeft with lastStatus := 127 }.SingleLine := by
  have keys : strictLocal.store.values.keys = ["#", "y"] := by decide +kernel
  exact State.singleLine_of_put_longName rfl keys (by decide)

theorem not_closable_strictLeft :
    ¬ { strictLeft with lastStatus := 127 }.Closable (strictState.frame "f").scope :=
  State.not_closable_of_longIndex (by decide) rfl rfl (has_put_longName _)

theorem checking_planting (leaf : Unit) (stdin : String) :
    Law.checking.Obeys (planting.host leaf stdin) := by
  intro machine
  refine ⟨?_, fun _ status => ?_⟩
  · refine (congrArg (fun last => last.state.inCondition) (after_map _ _ machine)).trans ?_
    exact congrArg Bookkeeping.inCondition (preserves_planting machine.state)
  · have ran := execute_map (fun _ => ({} : Outcome)) (Action.write (do
      State.declareLocal "y" none
      State.setVariable longName "v") : Run Unit Unit Unit) machine
    change Ending.of (execute (_ <$> _) machine).1 ≠ _
    rw [ran, execute_write]
    cases (execute (do
      State.declareLocal "y" none
      State.setVariable longName "v") machine.state).1 <;> exact Ending.noConfusion

theorem reaches_callOfFailingF : ∃ outer,
    Reaches planting ⟨0, "", .exec callingFailingF, strict⟩ outer
      ⟨99 + 1, "", .statement (.call "f" [] "" none), strictShell strictState⟩ := by
  have left : planting.depth = 99 + 1 := rfl
  rw [← left]
  exact ⟨_, .step (.exec rfl) (.step (.laterInScript rfl fun _ => rfl)
    (.step (.firstOfScript rfl) (.here _)))⟩

theorem reaches_failure (depth : Nat) : Reaches planting
    ⟨depth + 1, "", .statement (.call "f" [] "" none), strictShell strictState⟩
    [.list [] {}, .call (strictState.frame "f")]
    ⟨depth, "", .statement (.call "g" [] "" none), strictShell strictLeft⟩ := by
  have opened : execute (Action.onState (State.openFrame planting.limits failingF.name
      (some failingF.source) [] none)) (strictShell strictState) =
        (.ok (strictState.frame "f"), strictShell strictCall) := rfl
  have ran : execute (Action.runOne planting.limits
      (Statement.action planting (planting.callee depth) "" (.command ())))
      (strictShell strictCall) = (.ok {}, strictShell strictPlanted) := by
    rw [Statement.action]
    exact (execute_bind_of_ok rfl).trans (execute_bind_of_ok execute_planting_strict)
  have counted : execute (Action.countCommand planting.limits) (strictShell strictPlanted) =
      (.ok (), strictShell strictLeft) := rfl
  have inside : Reaches planting ⟨depth, "", .list failingF.body {}, strictShell strictCall⟩
      [.list [] {}] ⟨depth, "", .statement (.call "g" [] "" none), strictShell strictLeft⟩ :=
    .step (.later ran) (.step (.first counted) (.here _))
  exact .step (.call rfl opened) inside

/-- The call in which the statement has failed cannot be closed, and the script has no outcome. -/
theorem callingFailingF_faults : ∃ enclosures place next,
    (∀ leaf stdin, Law.checking.Obeys (planting.host leaf stdin)) ∧
    Reaches planting ⟨0, "", .exec callingFailingF, strict⟩ enclosures place ∧
    place.code.isStatement = true ∧ place.run planting = (.ok (Function.notFound "g"), next) ∧
    Action.isFatal next.state 127 = true ∧
    ¬ ∃ all last, execute (planting.exec callingFailingF) strict = (.ok all, last) := by
  obtain ⟨outer, before⟩ := reaches_callOfFailingF
  have reaches := before.trans (reaches_failure 99)
  have ran := @Place.run_of_undefined Unit Unit planting 99 "" "g" "" [] none
    (strictShell strictLeft) rfl
  refine ⟨_, _, _, checking_planting, reaches, rfl, ran, rfl, ?_⟩
  rw [(reaches.endsScript rfl ran rfl).returns_iff]
  rintro ⟨-, left, leaves⟩
  obtain ⟨fault, last, failed⟩ :=
    State.execute_closeFrame_of_not_closable singleLine_strictLeft not_closable_strictLeft
  let marked := (strictShell strictLeft).marked (Function.notFound "g").status
  have fails : execute (Enclosure.call (strictState.frame "f") : Enclosure Unit Unit).leave marked =
      (.error (.fault fault), { marked with state := last }) := by
    have inside : marked.state = { strictLeft with lastStatus := 127 } := rfl
    rw [Enclosure.leave, execute_write, inside, failed]
    rfl
  have passed : execute (Enclosure.list [] {} : Enclosure Unit Unit).leave marked =
      (.ok (), marked) := rfl
  rw [List.cons_append, List.cons_append, Enclosure.leaveAll_cons, execute_bind_of_ok passed,
    Enclosure.leaveAll_cons, execute_bind_of_error fails] at leaves
  cases leaves

end LongIndex

end Shell
