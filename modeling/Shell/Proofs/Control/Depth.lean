import Shell.Proofs.Control.Law

/-!
# The depth of loops

However a statement ends, it leaves the depth of loops as it found it. This also holds
if a call in it cannot be closed, since closing a call does not touch that depth. So
the depth at a place counts the loops around it.
-/

namespace Shell

open Running

theorem State.loopDepth_of_openFrame {limits : Limits} {name : String} {source : Option String}
    {args : List String} {line : Option Int} {state inside : State} {frame : Frame}
    (opened : execute (openFrame limits name source args line) state = (.ok frame, inside)) :
    inside.loopDepth = state.loopDepth := by
  obtain ⟨call, entered⟩ := execute_openFrame_ok opened
  exact congrArg Bookkeeping.loopDepth entered

/-- The depth of loops is as before. -/
def Law.level : Law where
  holds first _ second := second.loopDepth = first.loopDepth
  stay _ := rfl
  chain before following := following.trans before
  caught _ := id
  raised _ _ _ := rfl
  fatal _ := rfl
  faulted _ _ := rfl
  counted _ := rfl
  marked _ _ := rfl
  assigned {name word first _ _} ran := by
    have same := State.bookkeeping_setVariable name word first
    rw [after_eq_of_execute ran] at same
    exact congrArg Bookkeeping.loopDepth same
  looped {first second _} held := by
    have inner : second.loopDepth = first.loopDepth + 1 := held
    dsimp only
    omega
  conditioned := id
  called {_ _ _ _ _ _ _ second _ frame _ _} opened held closed := by
    have before := State.loopDepth_of_openFrame opened
    have behind := State.preserves_closeFrame frame second
    rw [after_eq_of_execute closed] at behind
    exact behind.trans (held.trans before)

theorem Law.level_iff {first second : State} {ending : Ending} :
    Law.level.holds first ending second ↔ second.loopDepth = first.loopDepth := Iff.rfl

section Actions

variable {φ σ α : Type}

/-- The action leaves the depth of loops alone, however it ends. -/
def KeepsDepth (action : Action φ σ α) : Prop :=
  ∀ machine, (after action machine).state.loopDepth = machine.state.loopDepth

theorem KeepsDepth.of_execute {action : Action φ σ α} (keeps : KeepsDepth action)
    {machine next : Machine φ σ} {result : Except Stop α}
    (ran : execute action machine = (result, next)) :
    next.state.loopDepth = machine.state.loopDepth := by
  rw [← after_eq_of_execute ran]
  exact keeps machine

theorem KeepsDepth.obeys {action : Action φ σ α} (keeps : KeepsDepth action) :
    Law.level.Obeys action := keeps

theorem keepsDepth_write {action : Write α} (keeps : State.Preserves State.loopDepth action) :
    KeepsDepth (Action.write action : Action φ σ α) := fun machine => keeps machine.state

end Actions

section Steps

variable {κ σ : Type} {context : Context κ σ} {place next last : Place κ σ}
  {enclosures : List (Enclosure κ σ)}

theorem loopDepth_of_countCommand {limits : Limits} {machine ready : Machine (Function κ) σ}
    (ran : execute (Action.countCommand limits) machine = (.ok (), ready)) :
    ready.state.loopDepth = machine.state.loopDepth := by
  rw [(counted_of_execute ran).1]
  rfl

theorem loopDepth_of_words {words : Words} {found : List String}
    {machine next : Machine (Function κ) σ} (ran : execute words.get machine = (.ok found, next)) :
    next.state.loopDepth = machine.state.loopDepth :=
  (Law.obeys_words words : Law.level.Obeys _).finished ran

theorem loopDepth_of_setVariable {name word : String} {machine next : Machine (Function κ) σ}
    (ran : execute (Action.write (State.setVariable name word)) machine = (.ok (), next)) :
    next.state.loopDepth = machine.state.loopDepth :=
  (Law.obeys_setVariable name word : Law.level.Obeys _).finished ran

/-- A step goes into as many loops as it leads into enclosures of that kind. -/
theorem Advance.loopDepth_eq (leaves : ∀ leaf stdin, KeepsDepth (context.host leaf stdin))
    (step : Advance context place enclosures next) :
    next.loopDepth = place.loopDepth + Enclosure.loops enclosures := by
  have obeying : ∀ leaf stdin, Law.level.Obeys (context.host leaf stdin) := fun leaf stdin =>
    (leaves leaf stdin).obeys
  unfold Place.loopDepth
  cases step with
  | run => simp [Code.loops, Enclosure.loops]
  | test => simp [Code.loops, Enclosure.loops]
  | exec start =>
    subst start
    simp [Code.loops, Enclosure.loops, Enclosure.isLoop]
  | firstOfScript counted =>
    have same := loopDepth_of_countCommand counted
    simp [Code.loops, Enclosure.loops, Enclosure.isLoop, same]
  | laterInScript ended goesOn =>
    have ran := (Place.obeys_runOne obeying _ _ _).ended ended
    have same := Law.level_iff.mp (holds_of_goesOn ran goesOn)
    simp [Code.loops, Enclosure.loops, same]
  | first counted =>
    have same := loopDepth_of_countCommand counted
    simp [Code.loops, Enclosure.loops, Enclosure.isLoop, same]
  | later ran =>
    have same := Law.level_iff.mp ((Place.obeys_runOne obeying _ _ _).finished ran)
    simp [Code.loops, Enclosure.loops, same]
  | condition => simp [Code.loops, Enclosure.loops, Enclosure.isLoop, Trace.inCondition]
  | group => simp [Code.loops, Enclosure.loops]
  | branchCondition => simp [Code.loops, Enclosure.loops, Enclosure.isLoop]
  | branchBody checked =>
    have same := Law.level_iff.mp ((Place.obeys_condition obeying _ _ _).finished checked)
    simp [Code.loops, Enclosure.loops, same]
  | forEach found named =>
    have same := loopDepth_of_words found
    simp [Code.loops, Enclosure.loops, Trace.inLoop, same]
  | word allowed assigned =>
    have same := loopDepth_of_setVariable assigned
    simp [Code.loops, Enclosure.loops, Enclosure.isLoop, same]
  | nextWord allowed assigned again =>
    have ready := loopDepth_of_setVariable assigned
    have same := Law.level_iff.mp ((Place.obeys_bodyPart obeying _ _ _ _).finished again)
    simp [Code.loops, Enclosure.loops, same, ready]
  | whileLoop => simp [Code.loops, Enclosure.loops, Trace.inLoop]
  | check => simp [Code.loops, Enclosure.loops, Enclosure.isLoop]
  | checked ran holds =>
    have same := Law.level_iff.mp ((Place.obeys_condition obeying _ _ _).finished ran)
    simp [Code.loops, Enclosure.loops, Enclosure.isLoop, same]
  | nextCheck again =>
    have same := Law.level_iff.mp ((Place.obeys_conditionPart obeying _ _ _ _ _ _).finished again)
    simp [Code.loops, Enclosure.loops, same]
  | call found opened =>
    rw [execute_onState] at opened
    obtain ⟨ran, rfl⟩ := Prod.mk.inj opened
    have same := State.loopDepth_of_openFrame (Prod.ext ran rfl)
    simp [Code.loops, Enclosure.loops, Enclosure.isLoop, same]

theorem Reaches.loopDepth_eq (leaves : ∀ leaf stdin, KeepsDepth (context.host leaf stdin))
    (reaches : Reaches context place enclosures last) :
    last.loopDepth = place.loopDepth + Enclosure.loops enclosures := by
  induction reaches with
  | here => simp [Enclosure.loops]
  | step step _ inductionHypothesis =>
    rw [inductionHypothesis, step.loopDepth_eq leaves, Enclosure.loops_append]
    omega

end Steps

end Shell
