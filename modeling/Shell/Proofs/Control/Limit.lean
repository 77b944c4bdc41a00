import Shell.Proofs.Control.Nesting
import Shell.Proofs.Control.Stuck
import Shell.Proofs.Variable.Shallow

/-!
# Runs within their limits

Whatever a script does, it ends, and it does so within its limits. It invokes no more
statements than there may be commands, no loop runs its body more often than there may
be iterations, and no place is deeper in calls than there may be calls. Commands of the
host have to leave the counts alone for that.
-/

namespace Shell

open Running

section Loops

variable {κ σ : Type} {context : Context κ σ} {place next other last : Place κ σ}
  {enclosures : List (Enclosure κ σ)}

/-- What a loop runs in each of its rounds. -/
def Statement.body? : Statement κ → Option (List (Statement κ))
  | forEach _ _ body | whileLoop _ _ body => some body
  | _ => none

namespace Turn

/-- The part is the body of the loop. -/
def isBody : Turn κ σ → Bool
  | word _ _ _ _ _ | checked _ _ _ _ _ => true
  | check _ _ _ _ _ => false

/-- How many rounds the loop had before. -/
def round (limits : Limits) : Turn κ σ → Int
  | word _ _ rounds _ _ => rounds
  | check _ _ _ left _ | checked _ _ _ left _ => limits.iterations.toNat - (left + 1)

end Turn

/-- How many rounds a loop had before its rest. -/
def Code.round (limits : Limits) : Code κ → Int
  | words _ _ rounds _ _ => rounds
  | checks _ _ _ left _ => limits.iterations.toNat - left
  | _ => 0

/-- What a loop runs in each round of its rest. -/
def Code.body? : Code κ → Option (List (Statement κ))
  | words _ body _ _ _ | checks _ _ body _ _ => some body
  | _ => none

/-- The runs of the body that a loop leads to, each with what encloses it and from its start. -/
def bodyRuns (context : Context κ σ) (loop : Place κ σ) (body : List (Statement κ)) :
    Set (Turn κ σ × Place κ σ) :=
  { started | Reaches context loop [.loop started.1] started.2 ∧ started.1.isBody = true ∧
    started.2.code = .list body {} }

/-- From the rest of a loop a run gets into its present round, or to the rest after it. -/
theorem Advance.round_cases {body : List (Statement κ)}
    (step : Advance context place enclosures next) (rest : place.code.body? = some body) :
    (∃ turn, enclosures = [.loop turn] ∧
      turn.round context.limits = place.code.round context.limits ∧
      turn.round context.limits < context.limits.iterations.toNat ∧
      (turn.isBody = true → next.code = .list body {})) ∨
    enclosures = [] ∧ next.code.body? = some body ∧
      next.code.round context.limits = place.code.round context.limits + 1 := by
  cases step with
  | word allowed assigned =>
    cases rest
    refine .inl ⟨_, rfl, rfl, ?_, fun _ => rfl⟩
    simp only [Turn.round]
    omega
  | nextWord =>
    cases rest
    exact .inr ⟨rfl, rfl, rfl⟩
  | check =>
    refine .inl ⟨_, rfl, rfl, ?_, fun body => Bool.noConfusion body⟩
    simp only [Turn.round]
    omega
  | checked =>
    cases rest
    refine .inl ⟨_, rfl, rfl, ?_, fun _ => rfl⟩
    simp only [Turn.round]
    omega
  | nextCheck =>
    cases rest
    refine .inr ⟨rfl, rfl, ?_⟩
    simp only [Code.round]
    omega
  | _ => cases rest

/-- There is one way into the body of the present round, and one way to the rest after it. -/
theorem Advance.round_unique {outer inner : List (Enclosure κ σ)}
    {body : List (Statement κ)} (first : Advance context place outer next)
    (second : Advance context place inner other) (rest : place.code.body? = some body)
    (alike : outer = [] ∧ inner = [] ∨ ∃ turn also, outer = [.loop turn] ∧ inner = [.loop also] ∧
      turn.isBody = true ∧ also.isBody = true) : outer = inner ∧ next = other := by
  cases first with
  | word allowed assigned =>
    cases second with
    | word _ also =>
      cases assigned.symm.trans also
      exact ⟨rfl, rfl⟩
    | nextWord => simp at alike
  | nextWord allowed assigned again =>
    cases second with
    | word => simp at alike
    | nextWord _ also againAlso =>
      cases assigned.symm.trans also
      cases again.symm.trans againAlso
      exact ⟨rfl, rfl⟩
  | check =>
    cases second with
    | check => exact ⟨rfl, rfl⟩
    | checked => simp [Turn.isBody] at alike
    | nextCheck => simp at alike
  | checked ran =>
    cases second with
    | check => simp [Turn.isBody] at alike
    | checked also =>
      cases ran.symm.trans also
      exact ⟨rfl, rfl⟩
    | nextCheck => simp at alike
  | nextCheck again =>
    cases second with
    | check => simp at alike
    | checked => simp at alike
    | nextCheck also =>
      cases again.symm.trans also
      exact ⟨rfl, rfl⟩
  | _ => cases rest

/-- In a list of statements a run gets only to what follows. -/
theorem Reaches.eq_or_shorter (reaches : Reaches context place enclosures last)
    (flat : enclosures = []) {statements : List (Statement κ)} {before : Outcome}
    (code : place.code = .list statements before) :
    last = place ∨ ∃ rest all, last.code = .list rest all ∧ rest.length < statements.length := by
  induction reaches generalizing statements before with
  | here => exact .inl rfl
  | @step place next last _ _ step _ inductionHypothesis =>
    obtain ⟨rfl, rfl⟩ := List.append_eq_nil_iff.mp flat
    cases step with
    | later =>
      cases code
      rcases inductionHypothesis rfl rfl with rfl | ⟨rest, all, following, shorter⟩
      · exact .inr ⟨_, _, rfl, Nat.lt_succ_self _⟩
      · exact .inr ⟨rest, all, following, Nat.lt_succ_of_lt shorter⟩
    | _ => cases code

theorem Reaches.eq_of_list {body : List (Statement κ)} (reaches : Reaches context place [] last)
    (code : place.code = .list body {}) (same : last.code = .list body {}) : last = place := by
  rcases reaches.eq_or_shorter rfl code with equal | ⟨rest, all, other, shorter⟩
  · exact equal
  · cases same.symm.trans other
    exact absurd shorter (Nat.lt_irrefl _)

/-- A round that a run gets to from the rest of a loop is not an earlier one, and is allowed. -/
theorem Reaches.round_bounds {turn : Turn κ σ} {body : List (Statement κ)}
    (reaches : Reaches context place enclosures last) (inside : enclosures = [.loop turn])
    (rest : place.code.body? = some body) :
    place.code.round context.limits ≤ turn.round context.limits ∧
      turn.round context.limits < context.limits.iterations.toNat := by
  induction reaches with
  | here => cases inside
  | step step _ inductionHypothesis =>
    rcases step.round_cases rest with
      ⟨present, rfl, same, allowed, -⟩ | ⟨rfl, further, one⟩
    · rcases List.append_eq_singleton_iff.mp inside with ⟨-, only⟩ | ⟨-, none⟩
      · cases only
        exact ⟨Int.le_of_eq same.symm, allowed⟩
      · cases none
    · rw [List.append_nil] at inside
      have bounds := inductionHypothesis inside further
      exact ⟨by omega, bounds.2⟩

/-- A loop runs the body of each round once. -/
theorem Reaches.eq_of_round_eq {turn also : Turn κ σ} {body : List (Statement κ)}
    {outer inner : List (Enclosure κ σ)}
    (reaches : Reaches context place outer last) (alsoReaches : Reaches context place inner other)
    (rest : place.code.body? = some body) (into : outer = [.loop turn])
    (alsoInto : inner = [.loop also])
    (starts : turn.isBody = true ∧ last.code = .list body {})
    (alsoStarts : also.isBody = true ∧ other.code = .list body {})
    (same : turn.round context.limits = also.round context.limits) :
    turn = also ∧ last = other := by
  induction reaches generalizing inner with
  | here => cases into
  | @step place next last _ _ first following inductionHypothesis =>
    cases alsoReaches with
    | here => cases alsoInto
    | @step _ nextAlso _ _ _ second followingAlso =>
      rcases first.round_cases rest with
        ⟨present, rfl, present_eq, -, code⟩ | ⟨rfl, further, one⟩ <;>
      rcases second.round_cases rest with
        ⟨presentAlso, rfl, presentAlso_eq, -, codeAlso⟩ | ⟨rfl, furtherAlso, oneAlso⟩
      · obtain ⟨rfl, only⟩ : _ = [] ∧ [Enclosure.loop present] = [.loop turn] := by
          simpa [List.append_eq_singleton_iff] using into
        obtain ⟨rfl, onlyAlso⟩ : _ = [] ∧ [Enclosure.loop presentAlso] = [.loop also] := by
          simpa [List.append_eq_singleton_iff] using alsoInto
        cases only
        cases onlyAlso
        obtain rfl := following.eq_of_list (code starts.1) starts.2
        obtain rfl := followingAlso.eq_of_list (codeAlso alsoStarts.1) alsoStarts.2
        obtain ⟨equal, rfl⟩ := first.round_unique second rest
          (.inr ⟨turn, also, rfl, rfl, starts.1, alsoStarts.1⟩)
        cases equal
        exact ⟨rfl, rfl⟩
      · -- The second one is in a later round than the first.
        obtain ⟨rfl, only⟩ : _ = [] ∧ [Enclosure.loop present] = [.loop turn] := by
          simpa [List.append_eq_singleton_iff] using into
        cases only
        rw [List.append_nil] at alsoInto
        have bounds := followingAlso.round_bounds alsoInto furtherAlso
        omega
      · obtain ⟨rfl, only⟩ : _ = [] ∧ [Enclosure.loop presentAlso] = [.loop also] := by
          simpa [List.append_eq_singleton_iff] using alsoInto
        cases only
        rw [List.append_nil] at into
        have bounds := following.round_bounds into further
        omega
      · rw [List.append_nil] at into alsoInto
        obtain ⟨-, rfl⟩ := first.round_unique second rest (.inl ⟨rfl, rfl⟩)
        exact inductionHypothesis followingAlso further into alsoInto starts

variable {loop : Statement κ} {body : List (Statement κ)}

/-- A loop starts with its first round. -/
theorem Advance.rest_of_loop (step : Advance context place enclosures next)
    (code : place.code = .statement loop) (isLoop : loop.body? = some body) :
    enclosures = [] ∧ next.code.body? = some body ∧ next.code.round context.limits = 0 := by
  cases step with
  | forEach =>
    cases code
    exact ⟨rfl, isLoop, rfl⟩
  | whileLoop =>
    cases code
    exact ⟨rfl, isLoop, Int.sub_self _⟩
  | group =>
    cases code
    cases isLoop
  | branchCondition =>
    cases code
    cases isLoop
  | branchBody =>
    cases code
    cases isLoop
  | call =>
    cases code
    cases isLoop
  | _ => cases code

theorem Advance.loop_unique {outer inner : List (Enclosure κ σ)}
    (first : Advance context place outer next) (second : Advance context place inner other)
    (code : place.code = .statement loop) (isLoop : loop.body? = some body) : next = other := by
  cases first with
  | forEach found =>
    cases second with
    | forEach also =>
      cases found.symm.trans also
      rfl
  | whileLoop =>
    cases second
    rfl
  | group =>
    cases code
    cases isLoop
  | branchCondition =>
    cases code
    cases isLoop
  | branchBody =>
    cases code
    cases isLoop
  | call =>
    cases code
    cases isLoop
  | _ => cases code

theorem exists_rest_of_mem_bodyRuns (code : place.code = .statement loop)
    (isLoop : loop.body? = some body) {started : Turn κ σ × Place κ σ}
    (member : started ∈ bodyRuns context place body) :
    ∃ rest, Advance context place [] rest ∧ started ∈ bodyRuns context rest body := by
  obtain ⟨turn, last⟩ := started
  obtain ⟨reaches, starts⟩ := member
  generalize into : [Enclosure.loop turn] = enclosures at reaches
  cases reaches with
  | here => cases into
  | @step _ rest _ _ inner step following =>
    obtain ⟨rfl, -, -⟩ := step.rest_of_loop code isLoop
    rw [List.append_nil] at into
    subst into
    exact ⟨rest, step, following, starts⟩

/-- No loop runs its body more often than the limit of iterations allows. -/
theorem encard_bodyRuns_le (code : place.code = .statement loop) (isLoop : loop.body? = some body) :
    (bodyRuns context place body).encard ≤ context.limits.iterations.toNat := by
  let number (started : Turn κ σ × Place κ σ) : Int := started.1.round context.limits
  have bounded : Set.MapsTo number (bodyRuns context place body)
      (Finset.Ico 0 (context.limits.iterations.toNat : Int) : Finset Int) := by
    intro started member
    obtain ⟨rest, step, reaches, -⟩ := exists_rest_of_mem_bodyRuns code isLoop member
    obtain ⟨-, same, zero⟩ := step.rest_of_loop code isLoop
    have bounds := reaches.round_bounds rfl same
    rw [zero] at bounds
    exact Finset.mem_coe.mpr (Finset.mem_Ico.mpr bounds)
  have injective : Set.InjOn number (bodyRuns context place body) := by
    intro started member other alsoMember same
    obtain ⟨rest, step, reaches, starts⟩ := exists_rest_of_mem_bodyRuns code isLoop member
    obtain ⟨_, stepAlso, alsoReaches, alsoStarts⟩ :=
      exists_rest_of_mem_bodyRuns code isLoop alsoMember
    obtain rfl := step.loop_unique stepAlso code isLoop
    obtain ⟨turns, places⟩ := reaches.eq_of_round_eq alsoReaches
      (step.rest_of_loop code isLoop).2.1 rfl rfl starts alsoStarts same
    exact Prod.ext turns places
  calc (bodyRuns context place body).encard
      ≤ ((Finset.Ico 0 (context.limits.iterations.toNat : Int) : Finset Int) : Set Int).encard :=
        Set.encard_le_encard_of_injOn bounded injective
    _ = context.limits.iterations.toNat := by
        rw [Set.encard_coe_eq_coe_finsetCard, Int.card_Ico, Int.sub_zero, Int.toNat_natCast]

end Loops

/-- The depth of calls is as before, unless there was a fault. -/
def Law.calling : Law where
  holds first ending second :=
    (∀ fault, ending ≠ .failed fault) → second.callDepth = first.callDepth
  stay _ _ := rfl
  chain before following sound :=
    (following sound).trans (before fun _ => Ending.noConfusion)
  caught _ held _ := held fun _ => Ending.noConfusion
  raised _ _ _ _ := rfl
  fatal _ _ := rfl
  faulted _ fault sound := absurd rfl (sound fault)
  counted _ _ := rfl
  marked _ _ _ := rfl
  assigned {name word first second result} ran _ := by
    have same := State.bookkeeping_setVariable name word first
    rw [after_eq_of_execute ran] at same
    exact congrArg Bookkeeping.callDepth same
  looped held sound := held sound
  conditioned held sound := held sound
  called {limits name source args line first inside second last frame ending result}
      opened held closed sound := by
    have closes := State.closesOne_closeFrame frame second
    rw [closed] at closes
    cases result with
    | error fault => exact absurd rfl (sound fault)
    | ok value =>
      have entered := (State.entered_of_openFrame opened).1
      have body := held sound
      have left : last.callDepth = second.callDepth - 1 := closes
      omega

section Depth

variable {κ σ : Type} {context : Context κ σ} {place last : Place κ σ}
  {enclosures : List (Enclosure κ σ)}

theorem Law.Begins.callDepth_le {limits : Limits} {first second : State}
    (begins : Law.calling.Begins limits first second)
    (within : first.callDepth ≤ limits.callDepth) :
    second.callDepth ≤ limits.callDepth := by
  cases begins with
  | onward held => rwa [held fun _ => Ending.noConfusion]
  | conditioned => exact within
  | looped => exact within
  | entered opened =>
    obtain ⟨deeper, allowed, -⟩ := State.entered_of_openFrame opened
    rwa [deeper]

/-- No place of a run is deeper in calls than the limit allows. -/
theorem Reaches.callDepth_le (leaves : ∀ leaf stdin, Law.calling.Obeys (context.host leaf stdin))
    (reaches : Reaches context place enclosures last)
    (within : place.machine.state.callDepth ≤ context.limits.callDepth) :
    last.machine.state.callDepth ≤ context.limits.callDepth := by
  induction reaches with
  | here => exact within
  | @step place next last _ _ step _ inductionHypothesis =>
    refine inductionHypothesis ?_
    cases whole : place.code.isExec with
    | false => exact (step.begins leaves whole).callDepth_le within
    | true =>
      cases step with
      | exec start =>
        subst start
        exact within
      | _ => exact Bool.noConfusion whole

end Depth

section Nested

variable {κ σ : Type} {context : Context κ σ} {place next last : Place κ σ}
  {enclosures : List (Enclosure κ σ)}

/-- The variable of a loop over words has a valid name. -/
def Code.HasName : Code κ → Prop
  | words name _ _ _ _ => Text.isName name.toList = true
  | _ => True

theorem Advance.hasName (step : Advance context place enclosures next)
    (named : place.code.HasName) : next.code.HasName := by
  cases step with
  | forEach _ valid => exact valid
  | nextWord => exact named
  | _ => trivial

theorem Reaches.hasName (reaches : Reaches context place enclosures last)
    (named : place.code.HasName) : last.code.HasName := by
  induction reaches with
  | here => exact named
  | step step _ inductionHypothesis => exact inductionHypothesis (step.hasName named)

theorem Words.not_endsWith_nestingTooDeep (words : Words) (machine : Machine (Function κ) σ) :
    ¬ EndsWith .nestingTooDeep (words.get : Run κ σ (List String)) machine := by
  cases words with
  | given words => exact not_endsWith_pure _ _
  | positional => exact not_endsWith_pure _ _
  | array name star =>
    intro ends
    have read : (execute (machine.state.expandArray name star none) machine.state.queries).1 =
        .error (.fault .nestingTooDeep) := ends
    rw [State.execute_expandArray] at read
    have shallow := State.isShallow_elements machine.state name
    cases found : machine.state.elements name with
    | error fault =>
      rw [found] at read
      exact shallow (found.trans (congrArg _ (Stop.fault.inj (Except.error.inj read))))
    | ok elements =>
      rw [found] at read
      cases read

theorem not_spell_nestingTooDeep (n : Int) : spell n ≠ .error .nestingTooDeep :=
  fun unspelled => nomatch (spell_eq_error_iff.mp unspelled).2

/-- Where no nameref holds a subscript, only a command of the host can be nested too deep, or a call
for which no depth is left. -/
theorem Stuck.command_of_nestingTooDeep (stuck : Stuck context place .nestingTooDeep)
    (named : place.code.HasName) (plain : place.machine.state.HasPlainNamerefs) :
    (∃ leaf, place.code = .statement (.command leaf) ∧
      EndsWith .nestingTooDeep (context.host leaf place.stdin) place.machine) ∨
      place.OutOfDepth := by
  cases stuck with
  | command failed => exact .inl ⟨_, rfl, failed⟩
  | words unread => exact absurd unread (Words.not_endsWith_nestingTooDeep _ _)
  | word _ refused => exact absurd refused (plain.isShallow_setVariable named _)
  | call _ _ refused => exact absurd refused (State.shallow_closeFrame _ _)
  | deep => exact .inr ⟨rfl, _, _, _, _, rfl⟩
  | failure _ _ _ _ unspelled => exact absurd unspelled (not_spell_nestingTooDeep _)
  | exit unspelled => exact absurd unspelled (not_spell_nestingTooDeep _)
  | define _ unspelled => exact absurd unspelled (not_spell_nestingTooDeep _)
  | commands _ _ unspelled => exact absurd unspelled (not_spell_nestingTooDeep _)
  | rounds _ unspelled => exact absurd unspelled (not_spell_nestingTooDeep _)
  | checks unspelled => exact absurd unspelled (not_spell_nestingTooDeep _)
  | refused _ _ unspelled => exact absurd unspelled (not_spell_nestingTooDeep _)

end Nested

/-- A script that is run as a whole ends within its limits. -/
structure Context.RunsWithin {κ σ : Type} (context : Context κ σ) (script : List (Statement κ))
    (machine : Machine (Function κ) σ) : Prop where
  /-- If the host's stack has room for as many calls as there may be commands, then what would
  happen in calls that are nested deeper is of no matter. -/
  ends (beyond : Function κ → String → Run κ σ Outcome) (depth : Nat) :
    context.limits.commands ≤ context.depth → context.limits.commands ≤ depth →
    execute (context.execBeyond beyond depth script) machine = execute (context.exec script) machine
  /-- References are nested too deep only for the host, or where a nameref holds a subscript. Calls
  are only if the host's stack has less room. -/
  shallow : EndsWith .nestingTooDeep (context.exec script) machine →
    ∃ enclosures place, Reaches context ⟨0, "", .exec script, machine⟩ enclosures place ∧
      ((∃ leaf, place.code = .statement (.command leaf) ∧
        EndsWith .nestingTooDeep (context.host leaf place.stdin) place.machine) ∨
        ¬ place.machine.state.HasPlainNamerefs ∨
        place.OutOfDepth ∧ context.depth < context.limits.commands)
  commands : (invocations context ⟨0, "", .exec script, machine⟩).encard ≤
    context.limits.commands.toNat
  iterations {enclosures : List (Enclosure κ σ)} {place : Place κ σ} {loop : Statement κ}
    {body : List (Statement κ)} :
    Reaches context ⟨0, "", .exec script, machine⟩ enclosures place →
    place.code = .statement loop → loop.body? = some body →
    (bodyRuns context place body).encard ≤ context.limits.iterations.toNat
  calls {enclosures : List (Enclosure κ σ)} {place : Place κ σ} :
    Reaches context ⟨0, "", .exec script, machine⟩ enclosures place →
    place.machine.state.callDepth ≤ context.limits.callDepth

/-- With commands that do not take the count of commands back and leave the depth of calls alone,
every script that is started outside calls ends within its limits. -/
theorem Context.exec_runsWithin {κ σ : Type} {context : Context κ σ}
    (counting : ∀ leaf stdin, Law.counting.Obeys (context.host leaf stdin))
    (calling : ∀ leaf stdin, Law.calling.Obeys (context.host leaf stdin))
    (natural : 0 ≤ context.limits.callDepth) (script : List (Statement κ))
    {machine : Machine (Function κ) σ} (outside : machine.state.callDepth = 0) :
    context.RunsWithin script machine where
  ends beyond _ roomy enough := execute_execBeyond counting roomy beyond enough script machine
  shallow faults := by
    obtain ⟨enclosures, place, reaches, stuck⟩ :=
      @Place.exists_stuck κ σ context _ ⟨0, "", .exec script, machine⟩ faults
    refine ⟨enclosures, place, reaches, ?_⟩
    by_cases plain : place.machine.state.HasPlainNamerefs
    · refine (stuck.command_of_nestingTooDeep (reaches.hasName trivial) plain).imp_right ?_
      exact fun deep => .inr ⟨deep, Int.not_le.mp fun roomy =>
        reaches.not_outOfDepth counting roomy deep⟩
    · exact .inr (.inl plain)
  commands := encard_invocations_exec_le counting 0 "" script machine
  iterations _ code isLoop := encard_bodyRuns_le code isLoop
  calls reaches := reaches.callDepth_le calling (outside ▸ natural)

theorem continuingOuter_runsWithin : idle.RunsWithin continuingOuter ⟨{}, ∅, ()⟩ :=
  Context.exec_runsWithin (fun _ _ _ => Int.le_refl _) (fun _ _ _ _ => rfl) (by decide)
    continuingOuter rfl

/-- A host whose command enters a call that nobody has opened, where none is allowed, and starts to
count commands again. -/
def unruly : Context Unit Unit :=
  ⟨{ callDepth := 0, commands := 1 }, 100, fun _ _ => do
    Action.changeState fun state => { state with callDepth := 1, commandCount := 0 }
    pure {}⟩

/-- After such a command there is one statement more than allowed, and deeper in calls. -/
theorem unruly_exceeds_limits :
    let start : Place Unit Unit := ⟨0, "", .exec [.command (), .command ()], ⟨{}, ∅, ()⟩⟩
    (∀ leaf stdin machine fault, ¬ EndsWith fault (unruly.host leaf stdin) machine) ∧
    ¬ (invocations unruly start).encard ≤ unruly.limits.commands.toNat ∧
    ∃ enclosures place, Reaches unruly start enclosures place ∧
      place.code = .statement (.command ()) ∧ place.machine.state.HasPlainNamerefs ∧
      ¬ place.machine.state.callDepth ≤ unruly.limits.callDepth := by
  intro start
  have first : Reaches unruly start _ _ := .step (.exec rfl) (.step (.firstOfScript rfl) (.here _))
  have second : Reaches unruly start _ _ := .step (.exec rfl) (.step (.laterInScript rfl
    fun _ => rfl) (.step (.firstOfScript rfl) (.here _)))
  refine ⟨fun _ _ _ _ => not_endsWith_pure _ _, ?_, _, _, second, rfl, ?_, by decide⟩
  · refine not_le.mpr (Set.one_lt_encard_iff.mpr ⟨(_, _), (_, _), ⟨first, rfl⟩, ⟨second, rfl⟩, ?_⟩)
    intro same
    cases (Prod.mk.inj same).1
  · intro name target held
    cases held

end Shell
