import Shell.Proofs.Control.Refusal
import Shell.Proofs.Expansion.Quoting
import Shell.Proofs.Variable.Depth

/-!
# Where reading a variable fails

A subscript is read from left to right, and what goes wrong with a variable in it
goes wrong with the whole. So a reading that fails has come, from subscript to
subscript, to a variable that fails by itself: it is an array with an index that is
too long, a number or a line of the calls is too long to be written, the seconds
cannot be counted, or too little room is left for the subscripts that lead on. Faults
of an argument are forgotten where an index is evaluated, and no others.
-/

namespace Shell

open Running

namespace Draw

variable {α : Type}

/-- The second way to read variables has the answers of the first one. -/
def Answers (first second : String → Draw String) : Prop :=
  ∀ name queries text last, execute (first name) queries = (.ok text, last) →
    execute (second name) queries = (.ok text, last)

/-- The query comes to read the variable, when the world was asked what the place tells: what goes
wrong there goes wrong with the query, as long as the answers before are the same. -/
def ComesTo (query : Query α) (read : String → Draw String) (queries : Queries) (name : String)
    (place : Queries) : Prop :=
  ∀ other, Answers read other → ∀ fault last,
    execute (other name) place = (.error fault, last) →
      execute (query other) queries = (.error fault, last)

/-- The query needs no more than answers, and then ends in no other faults than allowed, or it comes
to a variable that cannot be read. -/
def Accountable (Allowed : Fault → Prop) (query : Query α) : Prop :=
  ∀ read queries,
    (∃ result last, (∀ other, Answers read other → execute (query other) queries = (result, last)) ∧
      ∀ fault, result = .error fault → Allowed fault) ∨
    ∃ name place fault last, execute (read name) place = (.error fault, last) ∧
      ComesTo query read queries name place

theorem answers_refl (read : String → Draw String) : Answers read read :=
  fun _ _ _ _ answered => answered

theorem closure_accountable (Allowed : Fault → Prop) :
    Closure Allowed fun query => Accountable Allowed query where
  own action allowed read queries := by
    cases ran : execute action queries with
    | mk result last =>
      refine .inl ⟨result, last, fun _ _ => ran, ?_⟩
      rintro fault rfl
      exact allowed queries fault last ran
  ask name read queries := by
    cases ran : execute (read name) queries with
    | mk result last =>
      cases result with
      | ok text =>
        refine .inl ⟨.ok text, last, fun other answers => answers name queries text last ran, ?_⟩
        exact fun _ failed => nomatch failed
      | error fault => exact .inr ⟨name, queries, fault, last, ran, fun _ _ _ _ failed => failed⟩
  bind {α β query next} first rest read queries := by
    rcases first read queries with ⟨result, middle, same, allowed⟩ |
      ⟨name, place, fault, last, failed, comes⟩
    · cases result with
      | error fault =>
        refine .inl ⟨.error fault, middle, fun other answers => ?_, ?_⟩
        · exact execute_bind_of_error (same other answers)
        · rintro other ⟨⟩
          exact allowed fault rfl
      | ok value =>
        have onward : ∀ other, Answers read other →
            execute (query other >>= fun value => next value other) queries =
              execute (next value other) middle := fun other answers =>
          execute_bind_of_ok (same other answers)
        rcases rest value read middle with ⟨result, last, same, allowed⟩ |
          ⟨name, place, fault, last, failed, comes⟩
        · exact .inl ⟨result, last, fun other answers =>
            (onward other answers).trans (same other answers), allowed⟩
        · refine .inr ⟨name, place, fault, last, failed, fun other answers fault last failed => ?_⟩
          exact (onward other answers).trans (comes other answers fault last failed)
    · refine .inr ⟨name, place, fault, last, failed, fun other answers fault last failed => ?_⟩
      exact execute_bind_of_error (comes other answers fault last failed)

/-- What is not allowed to go wrong in the query itself goes wrong with a variable. -/
theorem Accountable.error_iff {Allowed : Fault → Prop} {query : Query α}
    (accountable : Accountable Allowed query) {read : String → Draw String} {queries : Queries}
    {fault : Fault} (foreign : ¬ Allowed fault) :
    (execute (query read) queries).1 = .error fault ↔
      ∃ name place, ComesTo query read queries name place ∧
        (execute (read name) place).1 = .error fault := by
  constructor
  · intro failed
    rcases accountable read queries with ⟨result, last, same, allowed⟩ |
      ⟨name, place, other, last, unread, comes⟩
    · rw [same read (answers_refl read)] at failed
      exact absurd (allowed fault failed) foreign
    · have ran := comes read (answers_refl read) other last unread
      rw [ran] at failed
      obtain rfl : other = fault := Except.error.inj failed
      exact ⟨name, place, comes, by rw [unread]⟩
  · rintro ⟨name, place, comes, unread⟩
    cases ran : execute (read name) place with
    | mk result last =>
      rw [ran] at unread
      obtain rfl : result = .error fault := unread
      rw [comes read (answers_refl read) fault last ran]

end Draw

namespace State

variable {state : State} {name array : String} {fault : Fault}

section Own

/-- The indices of an array are refused for the digits of one of them. -/
theorem recoverable_of_indices (failed : state.indices array = .error fault) :
    fault.isRecoverable = true := by
  unfold indices at failed
  cases ran : ((state.suffixes array).filter fun suffix => Text.isIndex suffix.toList).mapM
      readIndex with
  | ok numbers =>
    rw [ran] at failed
    contradiction
  | error stop =>
    rw [ran] at failed
    cases failed
    obtain ⟨suffix, -, unread⟩ := exists_of_mapM_eq_error ran
    unfold readIndex at unread
    dsimp only at unread
    split at unread
    · contradiction
    · cases unread
      rfl

theorem isArray_eq_error_iff :
    state.isArray name = .error fault ↔
      state.isDeclaredArray name = false ∧ state.indices name = .error fault := by
  unfold isArray
  cases state.isDeclaredArray name with
  | true => simp
  | false => cases state.indices name <;> simp [Functor.map, Except.map]

/-- A name without a value is neither computed, nor that of the call stack, nor declared as an
array. -/
structure Missing (state : State) (name : String) : Prop where
  identifier : Text.isName name.toList = true
  ordinary : state.computed? name = none
  uncalled : state.callArray? name = none
  valueless : state.store.get? name = none
  undeclared : state.isDeclaredArray name = false

/-- The line of an open call has too many digits to be written. -/
def HasLongLine (state : State) : Prop :=
  ∃ line ∈ state.callLines, Text.numberLimit ≤ line.natAbs

/-- Of the call stack, only the lines of the calls may fail to be read. -/
theorem callArray?_eq_error_iff :
    state.callArray? name = some (.error fault) ↔
      name = "BASH_LINENO" ∧ state.HasLongLine ∧ fault = .numberTooLong := by
  have lines : state.callLines.mapM spell = .error fault ↔
      state.HasLongLine ∧ fault = .numberTooLong := by
    have unspelled : ∀ {other}, state.callLines.mapM spell = .error other →
        state.HasLongLine ∧ other = .numberTooLong := by
      intro other failed
      obtain ⟨line, called, unread⟩ := exists_of_mapM_eq_error failed
      obtain ⟨long, same⟩ := spell_eq_error_iff.mp unread
      exact ⟨⟨line, called, long⟩, same⟩
    refine ⟨unspelled, ?_⟩
    rintro ⟨⟨line, called, long⟩, rfl⟩
    cases ran : state.callLines.mapM spell with
    | error other => rw [(unspelled ran).2]
    | ok texts =>
      obtain ⟨text, -, read⟩ := exists_of_mapM_eq_ok ran called
      rw [spell_of_le long] at read
      contradiction
  unfold callArray?
  by_cases functions : name = "FUNCNAME"
  · simp [functions]
  · by_cases numbers : name = "BASH_LINENO"
    · simp [numbers, lines]
    · simp [functions, numbers]

theorem HasLongLine.callArray? (long : state.HasLongLine) (lines : name = "BASH_LINENO") :
    state.callArray? name = some (.error .numberTooLong) :=
  callArray?_eq_error_iff.mpr ⟨lines, long, rfl⟩

theorem stored_eq_error_iff (ordinary : state.computed? name = none) :
    state.stored name = .error fault ↔
      state.callArray? name = some (.error fault) ∨
        state.Missing name ∧ state.indices name = .error fault := by
  unfold stored
  constructor
  · intro failed
    cases called : state.callArray? name with
    | some values =>
      rw [called] at failed
      cases values with
      | error other =>
        cases failed
        exact .inl rfl
      | ok values => contradiction
    | none =>
      cases valued : state.store.get? name with
      | some value => simp [called, valued] at failed
      | none =>
        by_cases named : Text.isName name.toList = true
        · cases known : state.isArray name with
          | ok answer =>
            simp [called, valued, named, known, bind, Except.bind, pure, Except.pure] at failed
          | error other =>
            simp only [called, valued, named, known, if_true] at failed
            cases failed
            obtain ⟨undeclared, unread⟩ := isArray_eq_error_iff.mp known
            exact .inr ⟨⟨named, ordinary, called, valued, undeclared⟩, unread⟩
        · simp [called, valued, named] at failed
  · rintro (called | ⟨missing, unread⟩)
    · rw [called]
      rfl
    · rw [missing.uncalled, missing.valueless, missing.identifier,
        isArray_eq_error_iff.mpr ⟨missing.undeclared, unread⟩]
      rfl

/-- The number that the shell writes for a name, when this was asked before. -/
def shown? (state : State) (queries : Queries) (name : String) : Option Int :=
  match name with
  | "?" => some state.lastStatus
  | "$" | "BASHPID" => some state.processId
  | "!" => some state.backgroundId
  | "LINENO" => some state.line
  | "RANDOM" => some (state.sources.number queries)
  | _ => none

/-- Each name that a number is written for is that of a variable the shell computes. -/
theorem exists_computed?_of_shown? {queries : Queries} {number : Int}
    (shown : state.shown? queries name = some number) :
    ∃ read, state.computed? name = some read := by
  unfold shown? at shown
  split at shown
  case h_7 => contradiction
  all_goals exact ⟨_, rfl⟩

theorem parse?_of_shown? {queries : Queries} {number : Int}
    (shown : state.shown? queries name = some number) : Reference.parse? name = none := by
  unfold shown? at shown
  split at shown
  case h_7 => contradiction
  all_goals decide

/-- Of the variables that the shell computes, only the numbers it writes can fail, for their digits,
and the seconds. -/
theorem computed?_error_iff {read : Draw String} (found : state.computed? name = some read)
    (queries : Queries) :
    (execute read queries).1 = .error fault ↔
      (fault = .numberTooLong ∧
        ∃ number, state.shown? queries name = some number ∧ Text.numberLimit ≤ number.natAbs) ∨
      (name = "SECONDS" ∧ state.secondsText (state.sources.time queries) = .error fault) := by
  have spelled : ∀ (number : Int) (queries : Queries),
      (execute (MonadExcept.ofExcept (spell number) : Draw String) queries).1 = .error fault ↔
        fault = .numberTooLong ∧ Text.numberLimit ≤ number.natAbs := by
    intro number queries
    rw [execute_ofExcept]
    exact spell_eq_error_iff.trans and_comm
  unfold computed? at found
  split at found
  case h_4 =>
    cases found
    split
    · rename_i absent
      have short : ¬ Text.numberLimit ≤ 0 := Nat.not_le.mpr Text.numberLimit_pos
      simp [shown?, absent, short]
    · simpa [shown?] using spelled state.backgroundId queries
  case h_12 =>
    cases found
    have drawn : execute state.sources.drawNumber queries =
        (.ok (state.sources.number queries), .number :: queries) := rfl
    rw [execute_bind_of_ok drawn, spelled]
    simp [shown?]
  case h_13 =>
    cases found
    have drawn : execute state.sources.drawTime queries =
        (.ok (state.sources.time queries), .time :: queries) := rfl
    rw [execute_bind_of_ok drawn, execute_ofExcept]
    simp [shown?]
  case h_16 => contradiction
  all_goals
    cases found
    simp [shown?, spell_eq_error_iff, and_comm]

end Own

section Listing

/-- An index that is listed is that of an element. -/
theorem has_of_mem_indices (single : state.SingleLine) {numbers : List Nat}
    (read : state.indices array = .ok numbers) {index : Nat} (member : index ∈ numbers) :
    state.store.has (elementKey array (toString index)) = true := by
  obtain ⟨unordered, ran, rfl⟩ := indices_eq_ok_iff.mp read
  obtain ⟨suffix, listed, answered⟩ :=
    exists_item_of_mapM ran ((perm_ascending unordered).mem_iff.mp member)
  obtain ⟨present, isIndex⟩ := List.mem_filter.mp listed
  rw [mem_suffixes] at present
  obtain ⟨-, rfl⟩ := (readIndex_eq_ok_iff isIndex (single.suffix present)).mp answered
  exact present

/-- A chain of namerefs ends at a name that leads no further. -/
theorem resolved_of_follow? {rounds : Nat} {seen : List String} {last : String}
    (followed : state.follow? rounds seen name = some last) : state.resolved last = last := by
  induction rounds generalizing seen name with
  | zero => contradiction
  | succ rounds inductionHypothesis =>
    unfold follow? at followed
    split at followed
    · contradiction
    · split at followed
      · dsimp only at followed
        split at followed
        · exact inductionHypothesis followed
        · rename_i invalid
          cases followed
          exact resolved_of_not_isTarget (by simpa using invalid)
      · rename_i direct
        cases followed
        exact resolved_of_not_nameref (by simpa using direct)

theorem resolved_resolved (state : State) (name : String) :
    state.resolved (state.resolved name) = state.resolved name := by
  by_cases named : Text.isName name.toList = true
  · cases found : state.resolve? name with
    | none =>
      have stays : state.resolved name = name := by simp [resolved, found]
      rw [stays, stays]
    | some last =>
      have leads : state.resolved name = last := by simp [resolved, named, found]
      rw [leads]
      unfold resolve? resolveWithin? at found
      split at found
      · exact resolved_of_follow? found
      · rename_i direct
        cases found
        exact resolved_of_not_nameref (by simpa using direct)
  · simp [resolved, named]

/-- Without newlines in keys, the elements of an array can be listed if its indices can. -/
theorem elements_resolved_eq_error_iff (single : state.SingleLine)
    (uncalled : state.callArray? (state.resolved array) = none) :
    state.elements (state.resolved array) = .error fault ↔
      state.isAssociative (state.resolved array) = false ∧
        state.indices (state.resolved array) = .error fault := by
  unfold elements ownElements
  rw [uncalled, resolved_resolved]
  cases state.isAssociative (state.resolved array) with
  | true => simp
  | false =>
    cases read : state.indices (state.resolved array) with
    | error stop => simp [bind, Except.bind]
    | ok numbers =>
      refine iff_of_false (fun failed => ?_) (by simp)
      obtain ⟨index, member, missing⟩ := exists_of_mapM_eq_error failed
      have present := has_of_mem_indices single read member
      rw [Store.has_eq_isSome_get?] at present
      obtain ⟨value, held⟩ := Option.isSome_iff_exists.mp present
      rw [elementAt, held] at missing
      contradiction

end Listing

/-- Reading an element fails, when the variables in its subscript are read in one way and fail as
told. -/
inductive ElementFails (state : State) (read : String → Draw String)
    (fails : String → Queries → Fault → Prop) (reference : Reference) (queries : Queries) :
    Fault → Prop
  /-- The lines of the calls are read, and one is too long. -/
  | lines :
      state.resolved reference.array = "BASH_LINENO" → state.HasLongLine →
      ElementFails state read fails reference queries .numberTooLong
  /-- All elements are read, and an index is too long to be listed. -/
  | listing {fault : Fault} :
      isWhole reference.subscript = true →
      state.callArray? (state.resolved reference.array) = none →
      state.isAssociative (state.resolved reference.array) = false →
      state.indices (state.resolved reference.array) = .error fault →
      ElementFails state read fails reference queries fault
  /-- The subscript denotes an index that is too long to be written. -/
  | index {index : Nat} {last : Queries} :
      isWhole reference.subscript = false →
      state.callArray? (state.resolved reference.array) = none →
      state.isAssociative (state.resolved reference.array) = false →
      execute (state.subscriptIndex read (state.resolved reference.array) reference.subscript)
        queries = (.ok (some index), last) →
      Text.numberLimit ≤ index →
      ElementFails state read fails reference queries .numberTooLong
  /-- A variable in the key of an associative array cannot be read. -/
  | key {inner : String} {place : Queries} {fault : Fault} :
      isWhole reference.subscript = false →
      state.callArray? (state.resolved reference.array) = none →
      state.isAssociative (state.resolved reference.array) = true →
      Draw.ComesTo (fun read => Subscript.key read reference.subscript) read queries inner place →
      fails inner place fault →
      ElementFails state read fails reference queries fault
  /-- A variable in a subscript cannot be read, and that is not forgotten. -/
  | subscript {inner : String} {place : Queries} {fault : Fault} :
      isWhole reference.subscript = false →
      (∃ values, state.callArray? (state.resolved reference.array) = some (.ok values)) ∨
        state.callArray? (state.resolved reference.array) = none ∧
          state.isAssociative (state.resolved reference.array) = false →
      Draw.ComesTo (fun read => Subscript.evaluate read reference.subscript) read queries inner
        place →
      fails inner place fault → fault.isRecoverable = false →
      ElementFails state read fails reference queries fault

/-- Reading a name fails, when the variables in a subscript are read in one way and fail as told. -/
inductive NameFails (state : State) (read : String → Draw String)
    (fails : String → Queries → Fault → Prop) (name : String) (queries : Queries) : Fault → Prop
  /-- A number that the shell keeps or draws is too long to be written. -/
  | number {number : Int} : state.shown? queries (state.resolved name) = some number →
      Text.numberLimit ≤ number.natAbs →
      NameFails state read fails name queries .numberTooLong
  /-- The seconds cannot be counted or written. -/
  | seconds {fault : Fault} : state.resolved name = "SECONDS" →
      state.secondsText (state.sources.time queries) = .error fault →
      NameFails state read fails name queries fault
  /-- The line of a call is too long to be written. -/
  | lines : state.resolved name = "BASH_LINENO" → state.HasLongLine →
      NameFails state read fails name queries .numberTooLong
  /-- A name without a value may be that of an array, and an index is too long to tell. -/
  | missing {fault : Fault} : state.Missing (state.resolved name) →
      state.indices (state.resolved name) = .error fault →
      NameFails state read fails name queries fault
  | element {reference : Reference} {fault : Fault} :
      Reference.parse? (state.resolved name) = some reference →
      state.ElementFails read fails reference queries fault →
      NameFails state read fails name queries fault

/-- Reading a name fails, when subscripts may lead to others `depth` times. -/
def FailsWithin (state : State) : (depth : Nat) → String → Queries → Fault → Prop
  | 0 => fun _ _ fault => fault = .nestingTooDeep
  | depth + 1 => state.NameFails (state.valueWithin depth) (state.FailsWithin depth)

section Elements

variable {read : String → Draw String} {queries : Queries} {subscript : String}

theorem key_error_iff :
    (execute (Subscript.key read subscript) queries).1 = .error fault ↔
      ∃ inner place,
        Draw.ComesTo (fun read => Subscript.key read subscript) read queries inner place ∧
        (execute (read inner) place).1 = .error fault := by
  have accountable := (Draw.closure_accountable fun _ => False).key subscript
  exact accountable.error_iff not_false

/-- A subscript that is evaluated has no faults of its own that are not forgotten. -/
theorem evaluate_error_iff (unexpected : fault.isRecoverable = false) :
    (execute (Subscript.evaluate read subscript) queries).1 = .error fault ↔
      ∃ inner place,
        Draw.ComesTo (fun read => Subscript.evaluate read subscript) read queries inner place ∧
          (execute (read inner) place).1 = .error fault := by
  have accountable := (Draw.closure_accountable fun fault => fault.isRecoverable = true).evaluate
    (fun _ => id) subscript
  exact accountable.error_iff (by simp [unexpected])

theorem normalIndex?_recoverable {index : Int}
    (failed : state.normalIndex? array index = .error fault) : fault.isRecoverable = true := by
  unfold normalIndex? at failed
  split at failed
  · contradiction
  · cases listed : state.indices array with
    | error stop =>
      rw [listed] at failed
      cases failed
      exact recoverable_of_indices listed
    | ok numbers =>
      cases found : numbers.getLast? <;>
        simp [listed, found, bind, Except.bind, pure, Except.pure] at failed

theorem subscriptIndex_error_iff (unexpected : fault.isRecoverable = false) :
    (execute (state.subscriptIndex read array subscript) queries).1 = .error fault ↔
      (execute (Subscript.evaluate read subscript) queries).1 = .error fault := by
  rw [subscriptIndex, execute_bind]
  rcases execute (Subscript.evaluate read subscript) queries with ⟨other | index, last⟩
  · simp
  · refine iff_of_false (fun failed => ?_) (by simp)
    dsimp only at failed
    rw [execute_ofExcept] at failed
    simp [normalIndex?_recoverable failed] at unexpected

/-- An element of the call stack is not read if its index is not. -/
theorem element_error_iff_of_called {reference : Reference} {values : List String}
    (called : state.callArray? (state.resolved reference.array) = some (.ok values)) :
    (execute (state.element read reference) queries).1 = .error fault ↔
      isWhole reference.subscript = false ∧
        (execute (Subscript.evaluate read reference.subscript) queries).1 = .error fault ∧
          fault.isRecoverable = false := by
  unfold element
  simp only [called]
  change (execute (pure values >>= _) queries).1 = _ ↔ _
  rw [pure_bind]
  cases isWhole reference.subscript with
  | true => simp
  | false =>
    simp only [Bool.false_eq_true, if_false]
    rw [execute_bind_error_iff, recover_error_iff]
    simp

/-- No element of the call stack is read if a line is too long. -/
theorem element_error_iff_of_unread {reference : Reference} {other : Fault}
    (called : state.callArray? (state.resolved reference.array) = some (.error other)) :
    (execute (state.element read reference) queries).1 = .error fault ↔ other = fault := by
  unfold element
  simp only [called]
  exact Except.error.injEq other fault ▸ Iff.rfl

/-- The elements of an array are not read together if they cannot be listed. -/
theorem element_error_iff_of_whole (single : state.SingleLine) {reference : Reference}
    (uncalled : state.callArray? (state.resolved reference.array) = none)
    (whole : isWhole reference.subscript = true) :
    (execute (state.element read reference) queries).1 = .error fault ↔
      state.isAssociative (state.resolved reference.array) = false ∧
        state.indices (state.resolved reference.array) = .error fault := by
  rw [← elements_resolved_eq_error_iff single uncalled]
  unfold element readElements
  simp only [uncalled, whole, if_true]
  rw [execute_bind_error_iff, execute_ofExcept]
  refine or_iff_left ?_
  rintro ⟨elements, middle, -, failed⟩
  split at failed <;> simp at failed

/-- An element of an associative array is not read if its key is not. -/
theorem element_error_iff_of_associative {reference : Reference}
    (uncalled : state.callArray? (state.resolved reference.array) = none)
    (single : isWhole reference.subscript = false)
    (associative : state.isAssociative (state.resolved reference.array) = true) :
    (execute (state.element read reference) queries).1 = .error fault ↔
      (execute (Subscript.key read reference.subscript) queries).1 = .error fault := by
  unfold element
  simp only [uncalled, single, associative, Bool.false_eq_true, if_false, if_true]
  rw [execute_bind_error_iff]
  simp

/-- An element of an indexed array is not read if its index is not, or cannot be written. -/
theorem element_error_iff_of_indexed {reference : Reference}
    (uncalled : state.callArray? (state.resolved reference.array) = none)
    (single : isWhole reference.subscript = false)
    (indexed : state.isAssociative (state.resolved reference.array) = false) :
    (execute (state.element read reference) queries).1 = .error fault ↔
      (execute (Subscript.evaluate read reference.subscript) queries).1 = .error fault ∧
          fault.isRecoverable = false ∨
        fault = .numberTooLong ∧ ∃ index last,
          execute (state.subscriptIndex read (state.resolved reference.array) reference.subscript)
            queries = (.ok (some index), last) ∧ Text.numberLimit ≤ index := by
  unfold element
  simp only [uncalled, single, indexed, Bool.false_eq_true, if_false]
  rw [execute_bind_error_iff, recover_error_iff]
  refine or_congr ⟨?_, ?_⟩ ?_
  · rintro ⟨failed, unexpected⟩
    exact ⟨(subscriptIndex_error_iff unexpected).mp failed, unexpected⟩
  · rintro ⟨failed, unexpected⟩
    exact ⟨(subscriptIndex_error_iff unexpected).mpr failed, unexpected⟩
  · constructor
    · rintro ⟨denoted, middle, ran, failed⟩
      split at failed
      · simp at failed
      · rename_i index joined
        obtain rfl := Option.join_eq_some_iff.mp joined
        have read := recover_some_iff.mp ran
        rcases Nat.lt_or_ge index Text.numberLimit with short | long
        · simp only [indexKey_of_lt short, execute_bind, execute_ofExcept] at failed
          split at failed <;> simp at failed
        · simp only [indexKey_of_le long, execute_bind, execute_ofExcept] at failed
          cases failed
          exact ⟨rfl, index, middle, read, long⟩
    · rintro ⟨rfl, index, last, ran, long⟩
      refine ⟨some (some index), last, recover_some_iff.mpr ran, ?_⟩
      simp [execute_bind, indexKey_of_le long]

theorem ElementFails.error (single : state.SingleLine) {reference : Reference}
    (fails : state.ElementFails read
      (fun inner place fault => (execute (read inner) place).1 = .error fault)
      reference queries fault) :
    (execute (state.element read reference) queries).1 = .error fault := by
  cases fails with
  | lines lined long => exact (element_error_iff_of_unread (long.callArray? lined)).mpr rfl
  | listing whole uncalled indexed unlisted =>
    exact (element_error_iff_of_whole single uncalled whole).mpr ⟨indexed, unlisted⟩
  | index one uncalled indexed denoted long =>
    exact (element_error_iff_of_indexed uncalled one indexed).mpr
      (.inr ⟨rfl, _, _, denoted, long⟩)
  | key one uncalled associative comes unread =>
    rw [element_error_iff_of_associative uncalled one associative, key_error_iff]
    exact ⟨_, _, comes, unread⟩
  | subscript one kind comes unread unexpected =>
    have failed := (evaluate_error_iff unexpected).mpr ⟨_, _, comes, unread⟩
    rcases kind with ⟨values, called⟩ | ⟨uncalled, indexed⟩
    · exact (element_error_iff_of_called called).mpr ⟨one, failed, unexpected⟩
    · exact (element_error_iff_of_indexed uncalled one indexed).mpr (.inl ⟨failed, unexpected⟩)

theorem elementFails_of_error (single : state.SingleLine) {reference : Reference}
    (failed : (execute (state.element read reference) queries).1 = .error fault) :
    state.ElementFails read
      (fun inner place fault => (execute (read inner) place).1 = .error fault)
      reference queries fault := by
  cases called : state.callArray? (state.resolved reference.array) with
  | some answer =>
    cases answer with
    | error other =>
      obtain rfl := (element_error_iff_of_unread called).mp failed
      obtain ⟨lined, long, rfl⟩ := callArray?_eq_error_iff.mp called
      exact .lines lined long
    | ok values =>
      obtain ⟨one, unread, unexpected⟩ := (element_error_iff_of_called called).mp failed
      obtain ⟨inner, place, comes, fails⟩ := (evaluate_error_iff unexpected).mp unread
      exact .subscript one (.inl ⟨values, called⟩) comes fails unexpected
  | none =>
    cases whole : isWhole reference.subscript with
    | true =>
      obtain ⟨indexed, unlisted⟩ := (element_error_iff_of_whole single called whole).mp failed
      exact .listing whole called indexed unlisted
    | false =>
      cases associative : state.isAssociative (state.resolved reference.array) with
      | true =>
        rw [element_error_iff_of_associative called whole associative, key_error_iff] at failed
        obtain ⟨inner, place, comes, fails⟩ := failed
        exact .key whole called associative comes fails
      | false =>
        rcases (element_error_iff_of_indexed called whole associative).mp failed with
          ⟨unread, unexpected⟩ | ⟨rfl, index, last, denoted, long⟩
        · obtain ⟨inner, place, comes, fails⟩ := (evaluate_error_iff unexpected).mp unread
          exact .subscript whole (.inr ⟨called, associative⟩) comes fails unexpected
        · exact .index whole called associative denoted long

end Elements

section Levels

variable {depth : Nat} {queries : Queries}

theorem valueWithin_of_parse? {reference : Reference}
    (parsed : Reference.parse? (state.resolved name) = some reference) :
    state.valueWithin (depth + 1) name = state.element (state.valueWithin depth) reference := by
  rw [valueWithin_succ, parsed]

theorem valueWithin_of_computed? {read : Draw String}
    (plain : Reference.parse? (state.resolved name) = none)
    (found : state.computed? (state.resolved name) = some read) :
    state.valueWithin (depth + 1) name = read := by
  rw [valueWithin_succ, plain, found]
  rfl

theorem valueWithin_of_stored (plain : Reference.parse? (state.resolved name) = none)
    (ordinary : state.computed? (state.resolved name) = none) :
    (execute (state.valueWithin (depth + 1) name) queries).1 =
      state.stored (state.resolved name) := by
  rw [valueWithin_succ, plain, ordinary]
  exact congrArg Prod.fst (execute_ofExcept _ _)

theorem NameFails.error (single : state.SingleLine)
    (fails : state.NameFails (state.valueWithin depth)
      (fun inner place fault => (execute (state.valueWithin depth inner) place).1 = .error fault)
      name queries fault) :
    (execute (state.valueWithin (depth + 1) name) queries).1 = .error fault := by
  cases fails with
  | number shown long =>
    obtain ⟨read, found⟩ := exists_computed?_of_shown? shown
    rw [valueWithin_of_computed? (parse?_of_shown? shown) found, computed?_error_iff found]
    exact .inl ⟨rfl, _, shown, long⟩
  | seconds seconds uncounted =>
    have plain : Reference.parse? "SECONDS" = none := by decide
    obtain ⟨read, found⟩ : ∃ read, state.computed? "SECONDS" = some read := ⟨_, rfl⟩
    rw [← seconds] at plain found
    rw [valueWithin_of_computed? plain found, computed?_error_iff found]
    exact .inr ⟨seconds, uncounted⟩
  | lines lined long =>
    have plain : Reference.parse? "BASH_LINENO" = none := by decide
    have ordinary : state.computed? "BASH_LINENO" = none := rfl
    rw [← lined] at plain ordinary
    rw [valueWithin_of_stored plain ordinary, stored_eq_error_iff ordinary]
    exact .inl (long.callArray? lined)
  | missing missing unread =>
    have plain := Reference.parse?_of_isName missing.identifier
    rw [valueWithin_of_stored plain missing.ordinary, stored_eq_error_iff missing.ordinary]
    exact .inr ⟨missing, unread⟩
  | element parsed fails =>
    rw [valueWithin_of_parse? parsed]
    exact fails.error single

theorem nameFails_of_error (single : state.SingleLine)
    (failed : (execute (state.valueWithin (depth + 1) name) queries).1 = .error fault) :
    state.NameFails (state.valueWithin depth)
      (fun inner place fault => (execute (state.valueWithin depth inner) place).1 = .error fault)
      name queries fault := by
  cases parsed : Reference.parse? (state.resolved name) with
  | some reference =>
    rw [valueWithin_of_parse? parsed] at failed
    exact .element parsed (elementFails_of_error single failed)
  | none =>
    cases found : state.computed? (state.resolved name) with
    | some read =>
      rw [valueWithin_of_computed? parsed found, computed?_error_iff found] at failed
      rcases failed with ⟨rfl, number, shown, long⟩ | ⟨seconds, uncounted⟩
      · exact .number shown long
      · exact .seconds seconds uncounted
    | none =>
      rw [valueWithin_of_stored parsed found, stored_eq_error_iff found] at failed
      rcases failed with unread | ⟨missing, unread⟩
      · obtain ⟨lined, long, rfl⟩ := callArray?_eq_error_iff.mp unread
        exact .lines lined long
      · exact .missing missing unread

/-- Reading a name ends in a fault exactly if it fails in one of these ways. -/
theorem valueWithin_error_iff (single : state.SingleLine) (depth : Nat) (name : String)
    (queries : Queries) (fault : Fault) :
    (execute (state.valueWithin depth name) queries).1 = .error fault ↔
      state.FailsWithin depth name queries fault := by
  induction depth generalizing name queries fault with
  | zero => exact ⟨fun failed => (Except.error.inj failed).symm, fun same => congrArg _ same.symm⟩
  | succ depth inductionHypothesis =>
    have inner : (fun inner place fault =>
        (execute (state.valueWithin depth inner) place).1 = .error fault) =
        state.FailsWithin depth := by
      funext inner place fault
      exact propext (inductionHypothesis inner place fault)
    rw [FailsWithin, ← inner]
    exact ⟨nameFails_of_error single, NameFails.error single⟩

end Levels

theorem execute_value_error_iff (single : state.SingleLine) (queries : Queries) :
    (∃ last, execute (state.value name) queries = (.error fault, last)) ↔
      state.FailsWithin (state.nesting + 1) name queries fault := by
  rw [← valueWithin_error_iff single, value]
  constructor
  · rintro ⟨last, ran⟩
    rw [ran]
  · intro failed
    exact ⟨_, Prod.ext failed rfl⟩

theorem execute_value_ok_iff (single : state.SingleLine) (name : String) (queries : Queries) :
    (∃ text last, execute (state.value name) queries = (.ok text, last)) ↔
      ∀ fault, ¬ state.FailsWithin (state.nesting + 1) name queries fault := by
  simp only [← execute_value_error_iff single]
  rcases execute (state.value name) queries with ⟨fault | text, last⟩ <;> simp

theorem Readable.indices_ne_error (readable : state.Readable array)
    (indexed : state.isAssociative array = false) : state.indices array ≠ .error fault := by
  intro failed
  obtain ⟨keys, listed, -⟩ := elementKeys_of_readable readable
  rw [elementKeys, indexed, failed] at listed
  contradiction

/-- A state in which no name without a subscript fails: no nameref holds a subscript, no index is
too long, nor any number that the shell writes, and the seconds can be counted. -/
structure Legible (state : State) : Prop where
  namerefs : state.HasPlainNamerefs
  readable : ∀ array, state.Readable array
  numbers : ∀ queries name number, state.shown? queries name = some number →
    number.natAbs < Text.numberLimit
  seconds : ∀ queries, ∃ text, state.secondsText (state.sources.time queries) = .ok text
  lines : ¬ state.HasLongLine

theorem Legible.execute_value (legible : state.Legible) (single : state.SingleLine)
    (unsubscripted : Reference.parse? name = none) (queries : Queries) :
    ∃ text last, execute (state.value name) queries = (.ok text, last) := by
  rw [execute_value_ok_iff single]
  intro fault fails
  cases fails with
  | number shown long => exact absurd (legible.numbers _ _ _ shown) (by omega)
  | seconds _ uncounted =>
    obtain ⟨text, counted⟩ := legible.seconds queries
    simp [counted] at uncounted
  | lines _ long => exact legible.lines long
  | missing missing unread =>
    have indexed : state.isAssociative (state.resolved name) = false := by
      have undeclared := missing.undeclared
      unfold isDeclaredArray at undeclared
      simp_all
    exact (legible.readable _).indices_ne_error indexed unread
  | element parsed => simp [legible.namerefs.parse?_resolved unsubscripted] at parsed

/-- A name reads as a text unless it fails in one of the ways told. With more room for subscripts it
reads the same, unless there was too little; and there is enough for three levels, where no nameref
holds a subscript. If besides no index and no number is too long and the seconds can be counted,
each name without a subscript reads as a text. -/
theorem reads_text_iff (state : State) (single : state.SingleLine) :
    (∀ name queries, (∃ text last, execute (state.value name) queries = (.ok text, last)) ↔
      ∀ fault, ¬ state.FailsWithin (state.nesting + 1) name queries fault) ∧
    (∀ name queries depth, state.nesting < depth →
      (execute (state.value name) queries).1 = .error .nestingTooDeep ∨
        execute (state.valueWithin depth name) queries = execute (state.value name) queries) ∧
    (state.HasPlainNamerefs → 2 ≤ state.nesting → ∀ name queries,
      (execute (state.value name) queries).1 ≠ .error .nestingTooDeep) ∧
    (state.Legible → ∀ name queries, Reference.parse? name = none →
      ∃ text last, execute (state.value name) queries = (.ok text, last)) := by
  refine ⟨execute_value_ok_iff single, fun name queries depth more => ?_,
    fun plain roomy name queries => ?_, fun legible name queries unsubscripted => ?_⟩
  · exact state.deepens_of_le more name queries
  · obtain ⟨further, levels⟩ := Nat.exists_eq_add_of_le' roomy
    have enough := @HasPlainNamerefs.yields_valueWithin state plain further name
    rw [value, levels]
    exact (enough queries).1
  · exact legible.execute_value single unsubscripted queries

/-- An array `a` of one element, and a nameref `r` that leads to it. -/
def legibleState : State :=
  { store := (({} : Store).put (elementKey "a" "0") "v").putNameref "r" "a" }

theorem get?_legibleState {key value : String} (held : legibleState.store.get? key = some value) :
    key = "r" ∧ value = "a" ∨ key = elementKey "a" "0" ∧ value = "v" := by
  simp only [legibleState, Store.putNameref, Store.get?_put, Store.get?_addAttribute] at held
  split at held
  · simp_all
  · split at held
    · simp_all
    · contradiction

theorem singleLine_legibleState : legibleState.SingleLine := singleLine_of_keys (by decide)

theorem legible_legibleState : legibleState.Legible where
  namerefs := by
    intro name target held
    unfold namerefTarget? at held
    split at held
    · rcases get?_legibleState held with ⟨-, rfl⟩ | ⟨-, rfl⟩ <;> decide
    · contradiction
  readable := by
    intro array _ suffix present _
    rw [Store.has_eq_isSome_get?] at present
    obtain ⟨value, held⟩ := Option.isSome_iff_exists.mp present
    rcases get?_legibleState held with ⟨same, -⟩ | ⟨same, -⟩
    · have texts := congrArg String.toList same
      rw [toList_elementKey] at texts
      rcases letters : array.toList with _ | ⟨first, rest⟩ <;> simp [letters] at texts
    · have texts := congrArg String.toList same
      rw [toList_elementKey, toList_elementKey] at texts
      rcases letters : array.toList with _ | ⟨first, _ | ⟨second, _ | ⟨third, rest⟩⟩⟩ <;>
        simp [letters] at texts
      exact ⟨0, Text.numberLimit_pos, String.toList_inj.mp texts.2⟩
  numbers := by
    intro queries name number shown
    unfold shown? at shown
    split at shown
    case h_6 =>
      obtain rfl := Option.some.inj shown
      have small : legibleState.sources.number queries < 32768 := Int.emod_lt_of_pos _ (by decide)
      have positive : 0 ≤ legibleState.sources.number queries := Int.emod_nonneg _ (by decide)
      have power : Nat.pow 10 5 = 100000 := rfl
      exact Text.lt_numberLimit 5 (by decide) (by omega)
    case h_7 => contradiction
    all_goals
      obtain rfl := Option.some.inj shown
      exact Text.lt_numberLimit 1 (by decide) (by decide)
  seconds := by
    intro queries
    have counted : (legibleState.secondsText .zero).toOption = some "0" := by decide +kernel
    change ∃ text, legibleState.secondsText .zero = .ok text
    cases ran : legibleState.secondsText .zero with
    | ok text => exact ⟨text, rfl⟩
    | error fault => simp [ran, Except.toOption] at counted
  lines := by
    rintro ⟨line, called, -⟩
    exact absurd called List.not_mem_nil

theorem legibleState_reads_text :
    legibleState.SingleLine ∧ legibleState.Legible ∧ Reference.parse? "r" = none ∧
      2 ≤ legibleState.nesting ∧ legibleState.nesting < 2000 ∧
      (∃ text last, execute (legibleState.value "r") {} = (.ok text, last)) ∧
      (∀ fault, ¬ legibleState.FailsWithin (legibleState.nesting + 1) "r" {} fault) ∧
      execute (legibleState.valueWithin 2000 "r") {} = execute (legibleState.value "r") {} := by
  obtain ⟨exact, roomier, shallow, reads⟩ := reads_text_iff legibleState singleLine_legibleState
  have plain : Reference.parse? "r" = none := by decide
  have roomy : 2 ≤ legibleState.nesting := by decide
  have less : legibleState.nesting < 2000 := by decide
  have text := reads legible_legibleState "r" {} plain
  have fine := shallow legible_legibleState.namerefs roomy "r" {}
  exact ⟨singleLine_legibleState, legible_legibleState, plain, roomy, less, text,
    (exact "r" {}).mp text, (roomier "r" {} 2000 less).resolve_left fine⟩

/-- A nameref that leads to an element whose index is the nameref itself. -/
def circularState : State := { store := ({} : Store).putNameref "r" "a[r]" }

theorem fails_circularState (depth : Nat) (queries : Queries) :
    circularState.FailsWithin depth "r" queries .nestingTooDeep := by
  induction depth with
  | zero => rfl
  | succ depth inductionHypothesis =>
    have leads : circularState.resolved "r" = "a[r]" := by decide +kernel
    have parsed : Reference.parse? (circularState.resolved "r") = some ⟨"a", "r"⟩ := by
      rw [leads]
      decide
    refine .element parsed
      (.subscript (by decide) (.inr (by decide +kernel)) ?_ inductionHypothesis rfl)
    intro other answers fault last failed
    have factor : execute (Arithmetic.factor other 6 [.name ['r']]) queries =
        (.error fault, last) := by
      simp only [Arithmetic.factor, Arithmetic.operand]
      exact execute_bind_of_error (execute_bind_of_error failed)
    have product : execute (Arithmetic.product other 7 [.name ['r']]) queries =
        (.error fault, last) := by
      simp only [Arithmetic.product]
      exact execute_bind_of_error factor
    have sum : execute (Arithmetic.sum other 8 [.name ['r']]) queries = (.error fault, last) := by
      simp only [Arithmetic.sum]
      exact execute_bind_of_error product
    have expanded : execute (Subscript.expandAfter other 0 (Text.strip "r".toList)) queries =
        (.ok ['r'], queries) := rfl
    have scanned : Arithmetic.tokens ['r'] = [.name ['r']] := by decide
    refine (execute_bind_of_ok expanded).trans ?_
    rw [scanned]
    exact execute_bind_of_error sum

theorem singleLine_circularState : circularState.SingleLine := singleLine_of_keys (by decide)

theorem singleLine_unreadableState : unreadableState.SingleLine := by
  intro key present
  rw [unreadableState, Store.has_eq_isSome_get?, Store.get?_put] at present
  split at present
  · rename_i same
    rw [← same, toList_elementKey]
    simpa using Text.newline_notMem_longIndex
  · contradiction

/-- A name that is not set cannot be read, where another looks like an element of it at an index
that is too long; and a nameref cannot be read whose own value is needed to read it. -/
theorem names_without_text :
    unreadableState.SingleLine ∧
      (∃ fault last, execute (unreadableState.value "x") {} = (.error fault, last)) ∧
    circularState.SingleLine ∧
      ∃ last, execute (circularState.value "r") {} = (.error .nestingTooDeep, last) := by
  refine ⟨singleLine_unreadableState, ?_, singleLine_circularState, ?_⟩
  · obtain ⟨fault, unread⟩ := value_unreadableState
    exact ⟨fault, {}, by rw [unread, execute_throw]⟩
  · exact (execute_value_error_iff singleLine_circularState {}).mpr (fails_circularState _ {})

end State

end Shell
