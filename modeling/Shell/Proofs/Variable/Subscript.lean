import Shell.Proofs.Running
import Shell.Variable.Write

/-!
# Reading through subscripts

A subscript may hold variables, so that reading an element reads others first. All
of it is put together from the readings of these variables. A relation between
readings that is kept when they are put together therefore passes from the variables
to the element. One such relation compares the depths to which subscripts may lead:
a deeper reading has the same result, unless the other one was nested too deep.
-/

namespace Shell

open Running

/-- A part of the reading of a subscript, by the way in which variables are read. -/
abbrev Draw.Query (α : Type) := (String → Draw String) → Draw α

/-- A property of queries that passes from their parts to the whole. The parts are variables that
are asked for, and actions that ask for none and end in no other faults than allowed. -/
structure Draw.Closure (Allowed : Fault → Prop) (Holds : ∀ {α : Type}, Query α → Prop) : Prop where
  own : ∀ {α : Type} (action : Draw α),
    (∀ queries fault last, execute action queries = (.error fault, last) → Allowed fault) →
      Holds fun _ => action
  ask : ∀ name, Holds fun read => read name
  bind : ∀ {α β : Type} {query : Query α} {next : α → Query β}, Holds query →
    (∀ value, Holds (next value)) → Holds fun read => query read >>= fun value => next value read

namespace Draw.Closure

variable {Allowed : Fault → Prop} {Holds : ∀ {α : Type}, Query α → Prop}
  (closure : Closure Allowed @Holds)

include closure

theorem answer {α : Type} (value : α) : Holds fun _ => pure value :=
  closure.own _ fun _ _ _ failed => nomatch (Prod.mk.inj failed).1

theorem expandAfter (skip : Nat) (text : List Char) :
    Holds fun read => Subscript.expandAfter read skip text := by
  induction text generalizing skip with
  | nil =>
    simp only [Subscript.expandAfter]
    exact closure.answer []
  | cons c rest inductionHypothesis =>
    cases skip with
    | succ skip => exact inductionHypothesis skip
    | zero =>
      simp only [Subscript.expandAfter]
      split
      · refine closure.bind (closure.ask _) fun _ => ?_
        exact closure.bind (inductionHypothesis _) fun _ => closure.answer _
      · exact closure.bind (inductionHypothesis 0) fun _ => closure.answer _

theorem key (subscript : String) : Holds fun read => Subscript.key read subscript :=
  closure.bind (closure.expandAfter 0 _) fun _ => closure.answer _

variable (lenient : ∀ fault : Fault, fault.isRecoverable = true → Allowed fault)

include lenient

theorem fault {α : Type} {fault : Fault} (recoverable : fault.isRecoverable = true) :
    Holds fun _ => (throw fault : Draw α) := by
  refine closure.own _ fun _ other _ failed => ?_
  cases failed
  exact lenient fault recoverable

theorem operand (token : Arithmetic.Token) : Holds fun read => Arithmetic.operand read token := by
  cases token with
  | number digits =>
    simp only [Arithmetic.operand]
    split
    · exact closure.answer _
    · exact closure.fault lenient rfl
  | name text => exact closure.bind (closure.ask _) fun _ => closure.answer _
  | sign c =>
    simp only [Arithmetic.operand]
    split
    · exact closure.fault lenient rfl
    · exact closure.fault lenient rfl

theorem divide (remainder : Bool) (a b : Int) : Holds fun _ => Arithmetic.divide remainder a b := by
  unfold Arithmetic.divide
  split
  · exact closure.fault lenient rfl
  · exact closure.answer _

/-- The five parts of an expression lead to each other, each time with less fuel. -/
theorem arithmetic (fuel : Nat) :
    (∀ tokens, Holds fun read => Arithmetic.sum read fuel tokens) ∧
    (∀ value tokens, Holds fun read => Arithmetic.sumAfter read fuel value tokens) ∧
    (∀ tokens, Holds fun read => Arithmetic.product read fuel tokens) ∧
    (∀ value tokens, Holds fun read => Arithmetic.productAfter read fuel value tokens) ∧
    ∀ tokens, Holds fun read => Arithmetic.factor read fuel tokens := by
  induction fuel with
  | zero =>
    unfold Arithmetic.sum Arithmetic.sumAfter Arithmetic.product Arithmetic.productAfter
      Arithmetic.factor
    exact ⟨fun _ => closure.fault lenient rfl, fun _ _ => closure.fault lenient rfl,
      fun _ => closure.fault lenient rfl, fun _ _ => closure.fault lenient rfl,
      fun _ => closure.fault lenient rfl⟩
  | succ fuel inductionHypothesis =>
    obtain ⟨sum, sumAfter, product, productAfter, factor⟩ := inductionHypothesis
    refine ⟨fun tokens => ?_, fun value tokens => ?_, fun tokens => ?_, fun value tokens => ?_,
      fun tokens => ?_⟩
    · simp only [Arithmetic.sum]
      exact closure.bind (product tokens) fun _ => sumAfter _ _
    · unfold Arithmetic.sumAfter
      dsimp only
      split
      · exact closure.bind (product _) fun _ => sumAfter _ _
      · exact closure.bind (product _) fun _ => sumAfter _ _
      · exact closure.answer _
    · simp only [Arithmetic.product]
      exact closure.bind (factor tokens) fun _ => productAfter _ _
    · unfold Arithmetic.productAfter
      dsimp only
      split
      · exact closure.bind (factor _) fun _ => productAfter _ _
      · refine closure.bind (factor _) fun _ => ?_
        exact closure.bind (closure.divide lenient _ _ _) fun _ => productAfter _ _
      · refine closure.bind (factor _) fun _ => ?_
        exact closure.bind (closure.divide lenient _ _ _) fun _ => productAfter _ _
      · exact closure.answer _
    · unfold Arithmetic.factor
      dsimp only
      split
      · exact closure.fault lenient rfl
      · exact closure.bind (factor _) fun _ => closure.answer _
      · exact factor _
      · refine closure.bind (sum _) fun (value, rest) => ?_
        dsimp only
        split
        · exact closure.fault lenient rfl
        · exact closure.answer _
        · exact closure.fault lenient rfl
      · exact closure.bind (closure.operand lenient _) fun _ => closure.answer _

theorem evaluate (subscript : String) :
    Holds fun read => Subscript.evaluate read subscript := by
  refine closure.bind (closure.expandAfter 0 _) fun expanded => ?_
  refine closure.bind ((closure.arithmetic lenient _).1 _) fun (value, rest) => ?_
  cases rest with
  | nil => exact closure.answer value
  | cons token rest => exact closure.fault lenient rfl

end Draw.Closure

/-- A relation between readings that is kept when they are put together. -/
structure Draw.Congruence (Related : ∀ {α : Type}, Draw α → Draw α → Prop) : Prop where
  refl : ∀ {α : Type} (read : Draw α), Related read read
  bind : ∀ {α β : Type} {first second : Draw α} {next other : α → Draw β},
    Related first second → (∀ value, Related (next value) (other value)) →
      Related (first >>= next) (second >>= other)
  recover : ∀ {α : Type} {first second : Draw α},
    Related first second → Related first.recover second.recover

namespace Draw.Congruence

variable {Related : ∀ {α : Type}, Draw α → Draw α → Prop} {first second : String → Draw String}
  (congruence : Congruence Related) (reads : ∀ name, Related (first name) (second name))

include congruence reads

/-- What is asked of two related ways to read variables has related answers. -/
theorem closure : Closure (fun _ => True) fun query => Related (query first) (query second) where
  own action _ := congruence.refl action
  ask := reads
  bind := congruence.bind

theorem key (subscript : String) :
    Related (Subscript.key first subscript) (Subscript.key second subscript) :=
  (congruence.closure reads).key subscript

theorem evaluate (subscript : String) :
    Related (Subscript.evaluate first subscript) (Subscript.evaluate second subscript) :=
  (congruence.closure reads).evaluate (fun _ _ => trivial) subscript

theorem subscriptIndex (state : State) (array subscript : String) :
    Related (state.subscriptIndex first array subscript)
      (state.subscriptIndex second array subscript) :=
  congruence.bind (congruence.evaluate reads subscript) fun _ => congruence.refl _

theorem element (state : State) (reference : Reference) :
    Related (state.element first reference) (state.element second reference) := by
  unfold State.element
  dsimp only
  split
  · refine congruence.bind (congruence.refl _) fun values => ?_
    split
    · exact congruence.refl _
    · exact congruence.bind (congruence.recover (congruence.evaluate reads _)) fun _ =>
        congruence.refl _
  · split
    · exact congruence.refl _
    · split
      · exact congruence.bind (congruence.key reads _) fun _ => congruence.refl _
      · exact congruence.bind (congruence.recover (congruence.subscriptIndex reads _ _ _)) fun _ =>
          congruence.refl _

end Draw.Congruence

/-- The second reading is the first one, unless the first was nested too deep. -/
def Draw.Deepens {α : Type} (first second : Draw α) : Prop :=
  ∀ queries, (execute first queries).1 = .error .nestingTooDeep ∨
    execute second queries = execute first queries

theorem execute_recover {α : Type} (read : Draw α) (queries : Queries) :
    execute read.recover queries =
      match execute read queries with
      | (.ok value, last) => (.ok (some value), last)
      | (.error fault, last) => (if fault.isRecoverable then .ok none else .error fault, last) := by
  unfold Draw.recover
  rw [execute_tryCatch, execute_map, after]
  rcases execute read queries with ⟨fault | value, last⟩
  · cases recoverable : fault.isRecoverable <;> simp [Except.map, recoverable]
  · rfl

theorem recover_error_iff {α : Type} {read : Draw α} {queries : Queries} {fault : Fault} :
    (execute read.recover queries).1 = .error fault ↔
      (execute read queries).1 = .error fault ∧ fault.isRecoverable = false := by
  rw [execute_recover]
  rcases execute read queries with ⟨other | value, last⟩
  · by_cases recoverable : other.isRecoverable = true
    · refine iff_of_false (by simp [recoverable]) ?_
      rintro ⟨same, unexpected⟩
      cases same
      rw [recoverable] at unexpected
      contradiction
    · simp only [recoverable, Bool.false_eq_true, if_false, Except.error.injEq]
      exact ⟨fun same => ⟨same, by simpa [← same] using recoverable⟩, And.left⟩
  · simp

theorem recover_some_iff {α : Type} {read : Draw α} {queries last : Queries} {value : α} :
    execute read.recover queries = (.ok (some value), last) ↔
      execute read queries = (.ok value, last) := by
  rw [execute_recover]
  rcases execute read queries with ⟨other | found, place⟩
  · by_cases recoverable : other.isRecoverable = true <;> simp [recoverable]
  · simp

theorem Draw.congruence_deepens : Draw.Congruence @Draw.Deepens where
  refl read queries := .inr rfl
  bind {α β first second next other} deepens rest queries := by
    rw [execute_bind, execute_bind]
    rcases deepens queries with deep | same
    · left
      generalize execute first queries = ran at deep
      obtain ⟨result, last⟩ := ran
      rw [show result = .error .nestingTooDeep from deep]
    · rw [same]
      rcases execute first queries with ⟨fault | value, last⟩
      · exact .inr rfl
      · exact rest value last
  recover {α first second} deepens queries := by
    rw [execute_recover, execute_recover]
    rcases deepens queries with deep | same
    · left
      generalize execute first queries = ran at deep
      obtain ⟨result, last⟩ := ran
      rw [show result = .error .nestingTooDeep from deep]
      rfl
    · exact .inr (by rw [same])

/-- Deeper subscripts do not change what was read before. -/
theorem State.deepens_valueWithin (state : State) (depth : Nat) (name : String) :
    Draw.Deepens (state.valueWithin depth name) (state.valueWithin (depth + 1) name) := by
  induction depth generalizing name with
  | zero => exact fun _ => .inl rfl
  | succ depth inductionHypothesis =>
    rw [valueWithin_succ, valueWithin_succ]
    split
    · exact Draw.congruence_deepens.element inductionHypothesis state _
    · exact Draw.congruence_deepens.refl _

/-- More room for subscripts does not change what was read with less. -/
theorem State.deepens_of_le (state : State) {fewer more : Nat} (roomier : fewer ≤ more)
    (name : String) :
    Draw.Deepens (state.valueWithin fewer name) (state.valueWithin more name) := by
  induction roomier with
  | refl => exact Draw.congruence_deepens.refl _
  | step _ inductionHypothesis =>
    intro queries
    rcases inductionHypothesis queries with deep | same
    · exact .inl deep
    · rw [← same]
      exact state.deepens_valueWithin _ name queries

end Shell
