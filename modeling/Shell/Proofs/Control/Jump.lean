import Shell.Proofs.Control.Depth
import Shell.Proofs.Text.Reference

/-!
# The loop that `break` and `continue` reach

A jump out of rounds of loops is on its way through what encloses it. Lists of
statements and conditions let it pass, calls are closed, and each loop takes one level
from it. It is settled at the loop where no level is left, or at the outermost one. On
the way no statement is run. Only a call that cannot be closed comes in between, and
then the run ends with that fault.
-/

namespace Shell

open Running

/-- The two ways to leave the round of a loop: `break` ends the loop, `continue` goes on with it. -/
inductive Jump
  | leave
  | again
deriving DecidableEq, Repr

namespace Jump

def builtin : Jump → Builtin
  | leave => .break
  | again => .continue

def cause : Jump → Int → Cause
  | leave => .leaveLoop
  | again => .nextRound

/-- How the round ends at which the jump is settled. -/
def ending : Jump → Outcome → Round
  | leave => .done
  | again => .again

end Jump

namespace Enclosure

variable {κ σ : Type}

/-- What is done on the way out of an enclosure. -/
def leave : Enclosure κ σ → Run κ σ Unit
  | condition saved => Action.changeState fun state => { state with inCondition := saved }
  | loop _ => Action.changeState fun state => { state with loopDepth := state.loopDepth - 1 }
  | call frame => Action.write (State.closeFrame frame)
  | _ => pure ()

/-- What is done on the way out of several enclosures, the innermost first. -/
def leaveAll (enclosures : List (Enclosure κ σ)) : Run κ σ Unit := enclosures.forM leave

/-- The output that an enclosure has gathered before the place. -/
def before : Enclosure κ σ → Outcome
  | list _ before => before
  | loop turn => turn.soFar
  | _ => {}

/-- The output that several enclosures have gathered before the place. That of the innermost one
comes last. -/
def gathered (channel : Outcome → String) (enclosures : List (Enclosure κ σ)) : String :=
  enclosures.foldr (fun enclosure text => text ++ channel enclosure.before) ""

theorem gathered_cons (channel : Outcome → String) (enclosure : Enclosure κ σ)
    (outer : List (Enclosure κ σ)) :
    gathered channel (enclosure :: outer) =
      gathered channel outer ++ channel enclosure.before := rfl

theorem leaveAll_cons (enclosure : Enclosure κ σ) (outer : List (Enclosure κ σ)) :
    leaveAll (enclosure :: outer) = enclosure.leave >>= fun _ => leaveAll outer := rfl

end Enclosure

section Jumps

variable {κ σ : Type} {limits : Limits} (jump : Jump)

theorem loopControl_of_active {builtin : Builtin} {cause : Int → Cause} {state : State}
    {args : List String} {levels : Int} (counted : builtin.levels args = .ok levels)
    (active : 1 ≤ state.loopDepth) :
    builtin.loopControl cause state args = .error (.ofCause (cause levels) "" "") := by
  have few : ¬ (1 < args.length ∧ state.loopDepth ≤ 0) := by omega
  have inside : state.loopDepth ≠ 0 := by omega
  unfold Builtin.loopControl
  rw [counted]
  change (if _ then _ else if _ then _ else _) = _
  rw [if_neg few, if_pos inside]

/-- In a loop, the builtin does nothing but jump. -/
theorem execute_jump {args : List String} {levels : Int} {machine : Machine (Function κ) σ}
    (counted : jump.builtin.levels args = .ok levels) (active : 1 ≤ machine.state.loopDepth) :
    execute (jump.builtin.action args) machine =
      (.error (.signal ⟨jump.cause levels, "", ""⟩), machine) := by
  have signalled : jump.builtin.apply machine.state args =
      .error (.signal ⟨jump.cause levels, "", ""⟩) := by
    cases jump with
    | leave => exact congrArg (Except.mapError Stop.signal) (loopControl_of_active counted active)
    | again => exact congrArg (Except.mapError Stop.signal) (loopControl_of_active counted active)
  unfold Builtin.action
  rw [execute_state_bind, signalled]
  rfl

theorem passesOn_iff {state : State} {levels : Int} :
    Action.passesOn state levels = true ↔ 1 < levels ∧ 1 < state.loopDepth := by
  simp [Action.passesOn]

theorem execute_settle_jump (soFar : Outcome) (levels : Int) (stdout stderr : String)
    (machine : Machine (Function κ) σ) :
    execute (Action.settle soFar ⟨jump.cause levels, stdout, stderr⟩) machine =
      if Action.passesOn machine.state levels then
        (.error (.signal ⟨jump.cause (levels - 1), soFar.stdout ++ stdout, soFar.stderr ++ stderr⟩),
          machine)
      else
        (.ok (jump.ending (Action.withOutput soFar ⟨jump.cause levels, stdout, stderr⟩)),
          machine) := by
  unfold Action.settle
  cases jump with
  | leave =>
    dsimp only [Jump.cause]
    rw [execute_state_bind]
    split <;> rfl
  | again =>
    dsimp only [Jump.cause]
    rw [execute_state_bind]
    split <;> rfl

/-- On the way out of an enclosure only the closing of a call can fail. -/
theorem execute_leave (enclosure : Enclosure κ σ) (machine : Machine (Function κ) σ) :
    (∃ left, execute enclosure.leave machine = (.ok (), left)) ∨
      ∃ fault left, execute enclosure.leave machine = (.error (.fault fault), left) := by
  cases enclosure with
  | call frame =>
    have closing : execute (Enclosure.call frame : Enclosure κ σ).leave machine = _ :=
      execute_write (State.closeFrame frame) machine
    rw [closing]
    rcases (execute (State.closeFrame frame) machine.state).1 with fault | value
    · exact .inr ⟨fault, _, rfl⟩
    · exact .inl ⟨_, rfl⟩
  | _ => exact .inl ⟨_, rfl⟩

theorem keepsDepth_leave {enclosure : Enclosure κ σ} (other : enclosure.isLoop = false) :
    KeepsDepth enclosure.leave := by
  cases enclosure with
  | loop turn => contradiction
  | call frame => exact keepsDepth_write (State.preserves_closeFrame frame)
  | _ => exact fun _ => rfl

/-- A call ends as its body does, where `return` is dealt with, unless it cannot be closed. -/
theorem resume_call (frame : Frame) {ended result : Except Stop Outcome}
    {machine : Machine (Function κ) σ}
    (caught : (execute (Function.catchReturn (Action.resume ended)) machine).1 = result) :
    (Enclosure.call frame).resume limits (ended, machine) =
      match execute (Enclosure.call frame : Enclosure κ σ).leave machine with
      | (.ok _, left) => (result, left)
      | (.error stop, left) => (.error stop, left) := by
  have stays : (execute (Function.catchReturn (Action.resume ended)) machine).2 = machine := by
    rw [← after, after_catchReturn, after, execute_resume]
  refine (execute_ensuring _ _ _).trans ?_
  rw [stays, caught, Enclosure.leave]
  rcases execute (Action.write (State.closeFrame frame)) machine with ⟨_ | _, _⟩ <;> rfl

/-- If an enclosure cannot be left, the run ends with that fault, however the inside has ended. -/
theorem resume_of_leave_error {enclosure : Enclosure κ σ} {stop : Stop}
    {ended : Except Stop Outcome} {machine left : Machine (Function κ) σ}
    (fails : execute enclosure.leave machine = (.error stop, left)) :
    enclosure.resume limits (ended, machine) = (.error stop, left) := by
  cases enclosure with
  | call frame => rw [resume_call frame rfl, fails]
  | _ => exact nomatch (Prod.mk.inj fails).1

/-- An enclosure that is no loop and no script is left, and the jump is on its way again. -/
theorem resume_jump {enclosure : Enclosure κ σ} (noLoop : enclosure.isLoop = false)
    (noScript : enclosure.isScript = false) (levels : Int) (stdout stderr : String)
    {machine left : Machine (Function κ) σ}
    (leaves : execute enclosure.leave machine = (.ok (), left)) :
    enclosure.resume limits (.error (.signal ⟨jump.cause levels, stdout, stderr⟩), machine) =
      (.error (.signal ⟨jump.cause levels, enclosure.before.stdout ++ stdout,
        enclosure.before.stderr ++ stderr⟩), left) := by
  cases enclosure with
  | loop turn => contradiction
  | script rest soFar => contradiction
  | list rest before =>
    cases leaves
    rfl
  | call frame =>
    have caught : (execute (Function.catchReturn (Action.resume
        (.error (.signal ⟨jump.cause levels, stdout, stderr⟩)))) machine).1 =
        .error (.signal ⟨jump.cause levels, stdout, stderr⟩) := by
      cases jump <;> rfl
    rw [resume_call frame caught, leaves]
    simp [Enclosure.before]
  | _ =>
    cases leaves
    simp only [Enclosure.before, String.empty_append]
    rfl

theorem resume_fault (enclosure : Enclosure κ σ) (fault : Fault)
    (machine : Machine (Function κ) σ) :
    ∃ last left, enclosure.resume limits (.error (.fault fault), machine) =
      (.error (.fault last), left) := by
  cases enclosure with
  | call frame =>
    rcases execute_leave (Enclosure.call frame) machine with ⟨left, closes⟩ | ⟨last, left, fails⟩
    · refine ⟨fault, left, ?_⟩
      rw [resume_call frame rfl, closes]
      rfl
    · exact ⟨last, left, resume_of_leave_error fails⟩
  | _ => exact ⟨fault, _, rfl⟩

/-- A fault goes all the way out. A call that cannot be closed only puts another fault in its
place. -/
theorem resumeAll_fault (enclosures : List (Enclosure κ σ)) (fault : Fault)
    (machine : Machine (Function κ) σ) :
    ∃ last final, Enclosure.resumeAll limits enclosures (.error (.fault fault), machine) =
      (.error (.fault last), final) := by
  induction enclosures generalizing fault machine with
  | nil => exact ⟨fault, machine, rfl⟩
  | cons enclosure outer inductionHypothesis =>
    obtain ⟨next, left, passed⟩ := resume_fault enclosure fault machine
    obtain ⟨last, final, out⟩ := inductionHypothesis next left
    refine ⟨last, final, ?_⟩
    rw [← out, ← passed]
    rfl

/-- A loop takes a level from a jump that is meant for a loop further out. -/
theorem resume_loop_of_passesOn (turn : Turn κ σ) {levels : Int} (stdout stderr : String)
    {machine : Machine (Function κ) σ} (passes : Action.passesOn machine.state levels = true) :
    (Enclosure.loop turn).resume limits
        (.error (.signal ⟨jump.cause levels, stdout, stderr⟩), machine) =
      (.error (.signal ⟨jump.cause (levels - 1), turn.soFar.stdout ++ stdout,
        turn.soFar.stderr ++ stderr⟩), after (Enclosure.loop turn).leave machine) := by
  have round := execute_part turn.soFar (Action.resume (.error (.signal
    ⟨jump.cause levels, stdout, stderr⟩))) turn.proceed machine
  refine (execute_ensuring _ _ _).trans ?_
  rw [execute_bind_of_error (round.trans ((execute_settle_jump _ _ _ _ _ _).trans (if_pos passes)))]
  rfl

/-- Any other jump is settled by the loop, which ends or goes on. -/
theorem resume_loop_of_not_passesOn (turn : Turn κ σ) {levels : Int} (stdout stderr : String)
    {machine : Machine (Function κ) σ} (stays : ¬ Action.passesOn machine.state levels = true) :
    (Enclosure.loop turn).resume limits
        (.error (.signal ⟨jump.cause levels, stdout, stderr⟩), machine) =
      execute (leavingLoop (turn.onward limits (jump.ending
        (Action.withOutput turn.soFar ⟨jump.cause levels, stdout, stderr⟩)))) machine := by
  have round := execute_part turn.soFar (Action.resume (.error (.signal
    ⟨jump.cause levels, stdout, stderr⟩))) turn.proceed machine
  refine execute_ensuring_congr ?_
  exact execute_bind_of_ok (round.trans ((execute_settle_jump _ _ _ _ _ _).trans (if_neg stays)))

end Jumps

section Settling

variable {κ σ : Type} {limits : Limits} {jump : Jump} {levels : Int} {stdout stderr : String}
  {enclosure : Enclosure κ σ} {enclosures outer : List (Enclosure κ σ)}
  {machine left : Machine (Function κ) σ}

/-- How a run ends in which a jump out of some rounds is on its way. It gets to as many loops as it
asks for, or to all of them. What is inside the last of these is left, and that loop ends, or goes
on with its next round. If a call cannot be closed, the run ends with a fault. -/
def Settles (limits : Limits) (jump : Jump) (levels : Int) (stdout stderr : String)
    (enclosures : List (Enclosure κ σ)) (machine : Machine (Function κ) σ)
    (ended : Except Stop Outcome × Machine (Function κ) σ) : Prop :=
  ∃ inner turn outer, enclosures = inner ++ .loop turn :: outer ∧
    (Enclosure.loops inner + 1 : Int) = min levels (Enclosure.loops enclosures) ∧
    match execute (Enclosure.leaveAll inner) machine with
    | (.ok _, left) =>
      let all : Outcome :=
        { turn.soFar with
          stdout := Enclosure.gathered Outcome.stdout (inner ++ [.loop turn]) ++ stdout
          stderr := Enclosure.gathered Outcome.stderr (inner ++ [.loop turn]) ++ stderr }
      ended = Enclosure.resumeAll limits outer
        (execute (leavingLoop (turn.onward limits (jump.ending all))) left)
    | (.error _, _) => ∃ fault last, ended = (.error (.fault fault), last)

/-- A jump that has left an enclosure is settled further out. -/
theorem Settles.cons {further : Int} {ended : Except Stop Outcome × Machine (Function κ) σ}
    (leaves : execute enclosure.leave machine = (.ok (), left))
    (settles : Settles limits jump further (enclosure.before.stdout ++ stdout)
      (enclosure.before.stderr ++ stderr) outer left ended)
    (count : min levels (Enclosure.loops (enclosure :: outer)) =
      min further (Enclosure.loops outer) + if enclosure.isLoop then 1 else 0) :
    Settles limits jump levels stdout stderr (enclosure :: outer) machine ended := by
  obtain ⟨inner, turn, rest, rfl, counted, ends⟩ := settles
  refine ⟨enclosure :: inner, turn, rest, rfl, ?_, ?_⟩
  · rw [count, ← counted, Enclosure.loops_cons]
    split <;> simp
  · rw [Enclosure.leaveAll_cons, execute_bind_of_ok leaves]
    simpa only [List.cons_append, Enclosure.gathered_cons, String.append_assoc] using ends

/-- A call that cannot be closed ends the jump. -/
theorem Settles.cons_of_error {stop : Stop} {fault : Fault} {last : Machine (Function κ) σ}
    {ended : Except Stop Outcome × Machine (Function κ) σ}
    (fails : execute enclosure.leave machine = (.error stop, left))
    (noLoop : enclosure.isLoop = false)
    (settles : Settles limits jump levels stdout stderr outer left ended) :
    Settles limits jump levels stdout stderr (enclosure :: outer) machine
      (.error (.fault fault), last) := by
  obtain ⟨inner, turn, rest, rfl, counted, -⟩ := settles
  have same : ∀ enclosures, Enclosure.loops (enclosure :: enclosures) =
      Enclosure.loops enclosures := by
    intro enclosures
    simp [Enclosure.loops_cons, noLoop]
  refine ⟨enclosure :: inner, turn, rest, rfl, ?_, ?_⟩
  · rw [same, same, counted]
  · rw [Enclosure.leaveAll_cons, execute_bind_of_error fails]
    exact ⟨fault, last, rfl⟩

/-- A loop that does not hand the jump on is the one it is meant for. -/
theorem settles_loop (turn : Turn κ σ)
    (depth : machine.state.loopDepth = Enclosure.loops (.loop turn :: outer)) (some : 1 ≤ levels)
    (stays : ¬ Action.passesOn machine.state levels = true) :
    Settles limits jump levels stdout stderr (.loop turn :: outer) machine
      (Enclosure.resumeAll limits (.loop turn :: outer)
        (.error (.signal ⟨jump.cause levels, stdout, stderr⟩), machine)) := by
  have one : Enclosure.loops (.loop turn :: outer) = Enclosure.loops outer + 1 :=
    Enclosure.loops_cons _ _
  refine ⟨[], turn, outer, rfl, ?_, ?_⟩
  · have none : Enclosure.loops ([] : List (Enclosure κ σ)) = 0 := rfl
    rw [passesOn_iff, depth] at stays
    omega
  · change Enclosure.resumeAll limits outer ((Enclosure.loop turn).resume limits _) = _
    rw [resume_loop_of_not_passesOn jump turn stdout stderr stays]
    simp [Enclosure.gathered, Enclosure.before, Action.withOutput]

/-- A jump inside at least one loop is settled, if the depth of loops counts them. -/
theorem settles_resumeAll (depth : machine.state.loopDepth = Enclosure.loops enclosures)
    (active : 1 ≤ Enclosure.loops enclosures) (some : 1 ≤ levels)
    (scripts : Enclosure.ScriptsOutside enclosures) :
    Settles limits jump levels stdout stderr enclosures machine
      (Enclosure.resumeAll limits enclosures
        (.error (.signal ⟨jump.cause levels, stdout, stderr⟩), machine)) := by
  induction enclosures generalizing levels stdout stderr machine with
  | nil => exact absurd active (by simp [Enclosure.loops])
  | cons enclosure outer inductionHypothesis =>
    have further : Enclosure.ScriptsOutside outer := (List.pairwise_cons.mp scripts).2
    have fold : ∀ ended, Enclosure.resumeAll limits (enclosure :: outer) ended =
        Enclosure.resumeAll limits outer (enclosure.resume limits ended) := fun _ => rfl
    cases loop : enclosure.isLoop with
    | false =>
      have same : Enclosure.loops (enclosure :: outer) = Enclosure.loops outer := by
        simp [Enclosure.loops_cons, loop]
      rw [same] at active depth
      have noScript := scripts.isScript_eq_false active
      -- The way out may fail, but the loops outside are the same and still counted.
      rcases execute_leave enclosure machine with ⟨left, leaves⟩ | ⟨fault, left, fails⟩
      · have still := (keepsDepth_leave loop).of_execute leaves
        rw [fold, resume_jump jump loop noScript levels stdout stderr leaves]
        refine (inductionHypothesis (still.trans depth) active some further).cons leaves ?_
        simp [same, loop]
      · have still := (keepsDepth_leave loop).of_execute fails
        obtain ⟨last, final, out⟩ := @resumeAll_fault κ σ limits outer fault left
        rw [fold, resume_of_leave_error fails, out]
        exact (inductionHypothesis (still.trans depth) active some further).cons_of_error fails loop
    | true =>
      cases enclosure with
      | loop turn =>
        by_cases passes : Action.passesOn machine.state levels = true
        · obtain ⟨several, deeper⟩ := passesOn_iff.mp passes
          have one : Enclosure.loops (.loop turn :: outer) = Enclosure.loops outer + 1 :=
            Enclosure.loops_cons _ _
          have less : (after (Enclosure.loop turn).leave machine).state.loopDepth =
              Enclosure.loops outer := by
            change machine.state.loopDepth - 1 = _
            omega
          rw [fold, resume_loop_of_passesOn jump turn stdout stderr passes]
          refine (inductionHypothesis less (by omega) (by omega) further).cons rfl ?_
          rw [loop, if_pos rfl]
          omega
        · exact settles_loop turn depth some passes
      | _ => contradiction

end Settling

theorem Builtin.one_le_levels {builtin : Builtin} {args : List String} {levels : Int}
    (counted : builtin.levels args = .ok levels) : 1 ≤ levels := by
  unfold Builtin.levels at counted
  split at counted
  · cases counted
    decide
  · split at counted
    · cases counted
    · split at counted
      · cases counted
      · cases counted
        omega

theorem Place.run_jump {κ σ : Type} {context : Context κ σ} {depth : Nat} {stdin : String}
    {jump : Jump} {args : List String} {levels : Int} {machine : Machine (Function κ) σ}
    (counted : jump.builtin.levels args = .ok levels) (active : 1 ≤ machine.state.loopDepth) :
    Place.run context ⟨depth, stdin, .statement (.builtin jump.builtin args), machine⟩ =
      (.error (.signal ⟨jump.cause levels, "", ""⟩), machine) := by
  rw [Place.run, Code.action, Statement.action]
  exact execute_jump jump counted active

/-- In a run that starts outside loops, `break` and `continue` inside at least one loop reach
exactly the loop they ask for, or the outermost one. -/
theorem Reaches.settles_jump {κ σ : Type} {context : Context κ σ} {start : Place κ σ}
    {enclosures : List (Enclosure κ σ)} {depth : Nat} {stdin : String} {jump : Jump}
    {args : List String} {levels : Int} {machine : Machine (Function κ) σ}
    (leaves : ∀ leaf stdin, KeepsDepth (context.host leaf stdin)) (outside : start.loopDepth = 0)
    (reaches : Reaches context start enclosures
      ⟨depth, stdin, .statement (.builtin jump.builtin args), machine⟩)
    (counted : jump.builtin.levels args = .ok levels) (active : 1 ≤ Enclosure.loops enclosures) :
    machine.state.loopDepth = Enclosure.loops enclosures ∧
      Settles context.limits jump levels "" "" enclosures machine (start.run context) := by
  have depths : machine.state.loopDepth = Enclosure.loops enclosures := by
    have counts := reaches.loopDepth_eq leaves
    rw [outside] at counts
    simpa [Place.loopDepth, Code.loops] using counts
  have inside : 1 ≤ machine.state.loopDepth := by omega
  refine ⟨depths, ?_⟩
  rw [reaches.run_eq, Place.run_jump counted inside]
  exact settles_resumeAll depths active (Builtin.one_le_levels counted) reaches.scriptsOutside

/-- A host whose commands do nothing. -/
def idle : Context Unit Unit := ⟨{}, 10000, fun _ _ => pure {}⟩

/-- A function that goes on with the second loop around it is the condition of a loop in another
one. -/
def continuingOuter : List (Statement Unit) :=
  [.define "f" [.builtin .continue ["2"]] none none,
    .forEach "i" (.given ["1", "2"]) [.whileLoop false [.call "f" [] "" none] [.command ()]]]

theorem continuingOuter_settles :
    ∃ enclosures depth machine,
      Reaches idle ⟨0, "", .run continuingOuter, ⟨{}, ∅, ()⟩⟩ enclosures
        ⟨depth, "", .statement (.builtin .continue ["2"]), machine⟩ ∧
      Enclosure.loops enclosures = 2 ∧
      Settles idle.limits .again 2 "" "" enclosures machine
        (Place.run idle ⟨0, "", .run continuingOuter, ⟨{}, ∅, ()⟩⟩) := by
  have reaches : ∃ enclosures depth machine,
      Reaches idle ⟨0, "", .run continuingOuter, ⟨{}, ∅, ()⟩⟩ enclosures
        ⟨depth, "", .statement (.builtin .continue ["2"]), machine⟩ ∧
      Enclosure.loops enclosures = 2 := by
    refine ⟨_, _, _, .step .run (.step (.later rfl) (.step (.first rfl) (.step (.forEach rfl rfl)
      (.step (.word (by decide) rfl) (.step (.first rfl) (.step .whileLoop (.step .check
        (.step .condition (.step (.first rfl) (.step (.call rfl rfl) (.step (.first rfl)
          (.here _)))))))))))), ?_⟩
    rfl
  obtain ⟨enclosures, depth, machine, reached, two⟩ := reaches
  refine ⟨enclosures, depth, machine, reached, two, ?_⟩
  exact (Reaches.settles_jump (fun _ _ _ => rfl) rfl reached (by decide) (by omega)).2

section LongIndex

/-- The name of an element of `y` at an index that is too long. -/
def longName : String := elementKey "y" Text.longIndex

theorem isIdentifier_longName : Text.isIdentifier longName.toList = true := by
  have split : longName.toList = 'y' :: '_' :: Text.longIndex.toList := toList_elementKey _ _
  have digits : ∀ c ∈ Text.longIndex.toList, Text.isNameChar c = true := by
    intro c member
    simp [Text.isNameChar, Char.isAlphanum, Text.isDigit_of_mem_longIndex member]
  rw [split, Text.isIdentifier, List.all_cons, List.all_eq_true.mpr digits]
  rfl

/-- An identifier without attributes is assigned in the store, unless its values are computed. -/
theorem State.execute_setVariable_of_plain {state : State} {name : String} (value : String)
    (identifier : Text.isIdentifier name.toList = true) (plain : state.store.attributes = ∅)
    (stored : name ≠ "RANDOM" ∧ name ≠ "SECONDS") (kept : state.options.allexport = false) :
    execute (setVariable name value) state =
      (.ok (), { state with store := state.store.put name value }) := by
  have none : ∀ letter, state.store.hasAttribute name letter = false := by
    intro letter
    rw [Store.hasAttribute, Store.attributesOf, plain]
    rfl
  have target : state.resolve? name = some name := resolve?_of_not_nameref (none _)
  unfold setVariable
  rw [Reference.parse?_of_isIdentifier identifier]
  dsimp only
  rw [execute_get_bind, target]
  dsimp only
  rw [Reference.parse?_of_isIdentifier identifier]
  dsimp only
  unfold assign
  have writable : execute (checkWritable name) state = (.ok (), state) := by
    unfold checkWritable
    rw [execute_get_bind, Store.isReadonly, none]
    rfl
  rw [execute_bind_of_ok writable, if_neg stored.1, if_neg stored.2]
  change execute (if state.options.allexport = true then _ else _) _ = _
  rw [kept]
  rfl

/-- A host whose command makes `y` local, and then assigns a variable. -/
def planting : Context Unit Unit :=
  ⟨{}, 100, fun _ _ => (fun _ => {}) <$> Action.write do
    State.declareLocal "y" none
    State.setVariable longName "v"⟩

theorem preserves_planting : State.Preserves State.bookkeeping (do
    State.declareLocal "y" none
    State.setVariable longName "v") :=
  (State.preserves_declareLocal "y" none).bind fun _ => State.bookkeeping_setVariable longName "v"

theorem head?_longName : longName.toList.head? = some 'y' := by
  rw [longName, toList_elementKey]
  rfl

theorem longName_ne {name : String} (other : name.toList.head? ≠ some 'y') : longName ≠ name := by
  rintro rfl
  exact other head?_longName

/-- The command adds the long name to the variables of the call. -/
theorem execute_planting_of_declared {state inside : State} (functions : Table (Function Unit))
    (declared : execute (State.declareLocal "y" none) state = (.ok (), inside))
    (plain : inside.store.attributes = ∅) (kept : inside.options.allexport = false) :
    execute (planting.host () "") ⟨state, functions, ()⟩ =
      (.ok {}, ⟨{ inside with store := inside.store.put longName "v" }, functions, ()⟩) := by
  have assigned := State.execute_setVariable_of_plain "v" isIdentifier_longName plain
    ⟨longName_ne (by decide), longName_ne (by decide)⟩ kept
  refine (execute_map _ _ _).trans ?_
  rw [after_write, execute_write, after, execute_bind_of_ok declared, assigned]
  rfl

theorem has_put_longName (store : Store) : (store.put longName "v").has longName = true := by
  rw [Store.has_eq_isSome_get?, Store.get?_put, if_pos rfl]
  rfl

theorem State.singleLine_of_put_longName {state : State} {store : Store} {names : List String}
    (planted : state.store = store.put longName "v") (keys : store.values.keys = names)
    (single : ∀ name ∈ names, '\n' ∉ name.toList) : state.SingleLine := by
  intro key present
  rw [planted, Store.has_eq_isSome_get?, Store.get?_put] at present
  split at present
  · rename_i same
    have digits := Text.newline_notMem_longIndex
    rw [← same, longName, toList_elementKey]
    simp [digits]
  · rw [← Store.has_eq_isSome_get?] at present
    have member : key ∈ store.values.keys := by simpa [Store.has] using present
    exact single key (keys ▸ member)

/-- A function that runs the command and then leaves a loop. -/
def leavingF : Function Unit := ⟨"f", [.command (), .builtin .break []], mainSource⟩

/-- A loop over one word that calls the function. -/
def callingF : List (Statement Unit) :=
  [.define "f" leavingF.body none none, .forEach "i" (.given ["1"]) [.call "f" [] "" none]]

/-- The start of the script. -/
def startOfCallingF : Place Unit Unit := ⟨0, "", .run callingF, ⟨{}, ∅, ()⟩⟩

/-- The state of the loop before the call. -/
def loopState : State :=
  { loopDepth := 1, store := ({} : Store).put "i" "1", commandCount := 3 }

/-- The state of the call. -/
def callState : State :=
  let inside := loopState.enter ⟨"f", 0, mainSource⟩
  { inside with store := State.replacePositional inside.store [] }

/-- The state of the call after `y` was made local. -/
def localState : State := after (State.declareLocal "y" none) { callState with commandCount := 4 }

/-- The state of the call after the command. -/
def plantedState : State := { localState with store := localState.store.put longName "v" }

def shellIn (state : State) : Machine (Function Unit) Unit :=
  ⟨state, (∅ : Table (Function Unit)).insert "f" leavingF, ()⟩

theorem execute_planting : execute (planting.host () "")
    (shellIn { callState with commandCount := 4 }) = (.ok {}, shellIn plantedState) :=
  execute_planting_of_declared _ rfl rfl rfl

/-- The state of the call when it is left. -/
def leftState : State := { plantedState with commandCount := 5 }

theorem store_leftState : leftState.store = localState.store.put longName "v" := rfl

theorem singleLine_leftState : leftState.SingleLine := by
  have keys : localState.store.values.keys = ["#", "i", "y"] := by decide +kernel
  exact State.singleLine_of_put_longName store_leftState keys (by decide)

theorem not_closable_leftState : ¬ leftState.Closable (loopState.frame "f").scope :=
  State.not_closable_of_longIndex (by decide) rfl rfl (has_put_longName _)

theorem reaches_callOfF : ∃ outer,
    Reaches planting startOfCallingF outer
      ⟨99 + 1, "", .statement (.call "f" [] "" none), shellIn loopState⟩ ∧
    Enclosure.loops outer = 1 := by
  have left : planting.depth = 99 + 1 := rfl
  rw [← left]
  refine ⟨_, .step .run (.step (.later rfl) (.step (.first rfl) (.step (.forEach rfl rfl)
    (.step (.word (by decide) rfl) (.step (.first rfl) (.here _)))))), rfl⟩

theorem reaches_break (depth : Nat) : Reaches planting
    ⟨depth + 1, "", .statement (.call "f" [] "" none), shellIn loopState⟩
    [.list [] {}, .call (loopState.frame "f")]
    ⟨depth, "", .statement (.builtin .break []), shellIn leftState⟩ := by
  have opened : execute (Action.onState (State.openFrame planting.limits leavingF.name
      (some leavingF.source) [] none)) (shellIn loopState) =
        (.ok (loopState.frame "f"), shellIn callState) := rfl
  have ran : execute (Action.runOne planting.limits
      (Statement.action planting (planting.callee depth) "" (.command ()))) (shellIn callState) =
        (.ok {}, shellIn plantedState) := by
    rw [Statement.action]
    exact (execute_bind_of_ok rfl).trans (execute_bind_of_ok execute_planting)
  have counted : execute (Action.countCommand planting.limits) (shellIn plantedState) =
      (.ok (), shellIn leftState) := rfl
  have inside : Reaches planting ⟨depth, "", .list leavingF.body {}, shellIn callState⟩
      [.list [] {}] ⟨depth, "", .statement (.builtin .break []), shellIn leftState⟩ :=
    .step (.later ran) (.step (.first counted) (.here _))
  exact .step (.call rfl opened) inside

theorem keepsDepth_planting (leaf : Unit) (stdin : String) :
    KeepsDepth (planting.host leaf stdin) := by
  intro machine
  refine (congrArg (fun last => last.state.loopDepth) (after_map _ _ machine)).trans ?_
  exact congrArg Bookkeeping.loopDepth (preserves_planting machine.state)

theorem leave_call_fails : ∃ fault left,
    execute (Enclosure.call (loopState.frame "f") : Enclosure Unit Unit).leave (shellIn leftState) =
      (.error (.fault fault), left) := by
  obtain ⟨fault, last, failed⟩ :=
    State.execute_closeFrame_of_not_closable singleLine_leftState not_closable_leftState
  have inside : (shellIn leftState).state = leftState := rfl
  refine ⟨fault, { shellIn leftState with state := last }, ?_⟩
  rw [Enclosure.leave, execute_write, inside, failed]
  rfl

/-- The call that `break` leaves cannot be closed, and the run ends with a fault instead of going on
after the loop. -/
theorem callingF_faults : ∃ enclosures,
    (∀ leaf stdin, KeepsDepth (planting.host leaf stdin)) ∧ startOfCallingF.loopDepth = 0 ∧
    Reaches planting startOfCallingF enclosures
      ⟨99, "", .statement (.builtin .break []), shellIn leftState⟩ ∧
    Enclosure.loops enclosures = 1 ∧
    ∃ fault last, startOfCallingF.run planting = (.error (.fault fault), last) := by
  obtain ⟨outer, before, one⟩ := reaches_callOfF
  have reaches := before.trans (reaches_break 99)
  obtain ⟨fault, left, fails⟩ := leave_call_fails
  obtain ⟨last, final, out⟩ := @resumeAll_fault Unit Unit planting.limits outer fault left
  refine ⟨_, keepsDepth_planting, rfl, reaches, ?_, last, final, ?_⟩
  · rw [Enclosure.loops_append, one]
    rfl
  · have jumps : Place.run planting
        ⟨99, "", .statement (.builtin .break []), shellIn leftState⟩ =
          (.error (.signal ⟨.leaveLoop 1, "", ""⟩), shellIn leftState) :=
      @Place.run_jump Unit Unit planting 99 "" .leave [] 1 _ rfl (by decide)
    have listed : (Enclosure.list [] {} : Enclosure Unit Unit).resume planting.limits
        (.error (.signal ⟨.leaveLoop 1, "", ""⟩), shellIn leftState) =
          (.error (.signal ⟨.leaveLoop 1, "", ""⟩), shellIn leftState) :=
      resume_jump .leave rfl rfl 1 "" "" rfl
    rw [reaches.run_eq, jumps, List.cons_append, List.cons_append, List.nil_append,
      Enclosure.resumeAll, List.foldl_cons, List.foldl_cons, listed, resume_of_leave_error fails]
    exact out

end LongIndex

end Shell
