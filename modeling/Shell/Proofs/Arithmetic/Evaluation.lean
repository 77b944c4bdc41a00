import Shell.Proofs.Arithmetic.Grammar
import Shell.Proofs.Running
import Shell.Variable.Read

/-!
# Evaluating a written expression

The evaluator goes down three levels and keeps the rest of the tokens. On every level it reads the
longest chain of operands and operators of that level and goes on with the value so far. The
operands of an expression are therefore read from left to right, and each operator is performed once
both of its sides are there.
-/

namespace Shell.Arithmetic

open Running Text

/-- Perform an operator. -/
def Operator.perform : Operator → Int → Int → Draw Int
  | add, a, b => pure (a + b)
  | subtract, a, b => pure (a - b)
  | multiply, a, b => pure (a * b)
  | divide, a, b => Arithmetic.divide false a b
  | remainder, a, b => Arithmetic.divide true a b

/-- Evaluate a tree: the operands from left to right, each operator behind its operands. -/
def Expression.evaluate (read : String → Draw String) : Expression Leaf → Draw Int
  | operand leaf => Arithmetic.operand read leaf.token
  | positive inner => inner.evaluate read
  | negative inner => (- ·) <$> inner.evaluate read
  | binary operator left right => do
    let first ← left.evaluate read
    let second ← right.evaluate read
    operator.perform first second

section Parsing

variable (read : String → Draw String)

/-- Evaluate the longest part of a level at the head of the tokens. -/
def start : Level → (fuel : Nat) → List Token → Draw (Int × List Token)
  | .factor => factor read
  | .product => product read
  | .sum => sum read

/-- Go on with a part of a level after its first operands. -/
def goOn : Level → (fuel : Nat) → Int → List Token → Draw (Int × List Token)
  | .factor => fun _ value rest => pure (value, rest)
  | .product => productAfter read
  | .sum => sumAfter read

/-- How many levels are tighter. -/
def Level.height : Level → Nat
  | factor => 0
  | product => 1
  | sum => 2

/-- The tokens do not begin with an operator that binds more tightly than the level. -/
def Follows (level : Level) (rest : List Token) : Prop :=
  ∀ operator : Operator, operator.level = level.tighter → rest.head? ≠ some (.sign operator.sign)

/-- Where the tokens of an expression of a level come first, the expression is evaluated and the
level is gone on with behind them. One round of a level takes some of the fuel. -/
structure Parses (level : Level) (e : Expression Leaf) (found : List Token) : Prop where
  nonempty : 0 < found.length
  continues : ∀ fuel rest, 4 * found.length + level.height ≤ fuel → Follows level rest →
    ∃ left, fuel ≤ left + found.length ∧
      start read level fuel (found ++ rest) =
        e.evaluate read >>= fun value => goOn read level left value rest

variable {read} {level : Level} {e : Expression Leaf} {found : List Token}

theorem follows_tighter (rest : List Token) : Follows level.tighter rest := by
  intro operator same
  cases level <;> cases operator <;> contradiction

theorem follows_sign {c : Char}
    (other : ∀ operator : Operator, operator.level = level.tighter → operator.sign ≠ c)
    (rest : List Token) : Follows level (.sign c :: rest) := by
  intro operator same
  simpa [eq_comm] using other operator same

theorem follows_operator (operator : Operator) (rest : List Token) :
    Follows operator.level (.sign operator.sign :: rest) := by
  apply follows_sign
  intro other same
  cases operator <;> cases other <;> first | contradiction | decide

theorem goOn_of_follows {rest : List Token} (follows : Follows level rest) (fuel : Nat)
    (value : Int) : goOn read level.tighter (fuel + 1) value rest = pure (value, rest) := by
  cases level with
  | factor => rfl
  | product => rfl
  | sum =>
    change productAfter read (fuel + 1) value rest = _
    unfold productAfter
    dsimp only
    split
    · exact absurd rfl (follows .multiply rfl)
    · exact absurd rfl (follows .divide rfl)
    · exact absurd rfl (follows .remainder rfl)
    · rfl

theorem goOn_operator (operator : Operator) (fuel : Nat) (value : Int) (rest : List Token) :
    goOn read operator.level (fuel + 1) value (.sign operator.sign :: rest) =
      start read operator.level.tighter fuel rest >>= fun next =>
        operator.perform value next.1 >>= fun value =>
          goOn read operator.level fuel value next.2 := by
  cases operator with
  | add =>
    simp [goOn, Operator.level, Operator.sign, sumAfter, start, Level.tighter, Operator.perform]
  | subtract =>
    simp [goOn, Operator.level, Operator.sign, sumAfter, start, Level.tighter, Operator.perform]
  | multiply =>
    simp [goOn, Operator.level, Operator.sign, productAfter, start, Level.tighter, Operator.perform]
  | divide => rfl
  | remainder => rfl

theorem start_succ (loose : level ≠ .factor) (fuel : Nat) (tokens : List Token) :
    start read level (fuel + 1) tokens =
      start read level.tighter fuel tokens >>= fun next =>
        goOn read level fuel next.1 next.2 := by
  cases level with
  | factor => contradiction
  | product => rfl
  | sum => rfl

theorem parses_operand (leaf : Leaf) : Parses read .factor (.operand leaf) [leaf.token] := by
  refine ⟨by simp, fun fuel rest enough _ => ?_⟩
  simp only [List.length_singleton, Level.height] at enough
  obtain ⟨fuel, rfl⟩ : ∃ less, fuel = less + 1 := Nat.exists_eq_add_of_le' (by omega)
  refine ⟨fuel, by simp, ?_⟩
  cases leaf <;> rfl

/-- Between parentheses stands a sum, and behind it the closing one. -/
theorem exists_close (read : String → Draw String) (fuel : Nat) :
    ∃ close : Int × List Token → Draw (Int × List Token),
      (∀ tokens, start read .factor (fuel + 1) (.sign '(' :: tokens) =
        start read .sum fuel tokens >>= close) ∧
      ∀ value rest, close (value, .sign ')' :: rest) = pure (value, rest) :=
  ⟨_, fun _ => rfl, fun _ _ => rfl⟩

theorem Parses.parenthesized (parses : Parses read .sum e found) :
    Parses read .factor e (.sign '(' :: (found ++ [.sign ')'])) := by
  refine ⟨by simp, fun fuel rest enough _ => ?_⟩
  simp only [List.length_cons, List.length_append, List.length_nil, Level.height] at enough
  obtain ⟨fuel, rfl⟩ : ∃ less, fuel = less + 1 := Nat.exists_eq_add_of_le' (by omega)
  have closes : Follows .sum (.sign ')' :: rest) := by
    apply follows_sign
    intro operator _
    cases operator <;> decide
  obtain ⟨left, used, ran⟩ := parses.continues fuel (.sign ')' :: rest)
    (by simp only [Level.height]; omega) closes
  obtain ⟨left, rfl⟩ : ∃ less, left = less + 1 := Nat.exists_eq_add_of_le' (by omega)
  refine ⟨fuel, by simp, ?_⟩
  obtain ⟨close, opens, closed⟩ := exists_close read fuel
  rw [List.cons_append, List.append_assoc, opens, List.singleton_append, ran, bind_assoc]
  exact bind_congr fun value => closed value rest

theorem Parses.positive (parses : Parses read .factor e found) :
    Parses read .factor (.positive e) (.sign '+' :: found) := by
  refine ⟨by simp, fun fuel rest enough _ => ?_⟩
  simp only [List.length_cons, Level.height] at enough
  obtain ⟨fuel, rfl⟩ : ∃ less, fuel = less + 1 := Nat.exists_eq_add_of_le' (by omega)
  obtain ⟨left, used, ran⟩ := parses.continues fuel rest (by simp only [Level.height]; omega)
    (@follows_tighter .factor rest)
  exact ⟨left, by simp only [List.length_cons]; omega, ran⟩

theorem Parses.negative (parses : Parses read .factor e found) :
    Parses read .factor (.negative e) (.sign '-' :: found) := by
  refine ⟨by simp, fun fuel rest enough _ => ?_⟩
  simp only [List.length_cons, Level.height] at enough
  obtain ⟨fuel, rfl⟩ : ∃ less, fuel = less + 1 := Nat.exists_eq_add_of_le' (by omega)
  obtain ⟨left, used, ran⟩ := parses.continues fuel rest (by simp only [Level.height]; omega)
    (@follows_tighter .factor rest)
  refine ⟨left, by simp only [List.length_cons]; omega, ?_⟩
  have opened : start read .factor (fuel + 1) (.sign '-' :: found ++ rest) =
      start read .factor fuel (found ++ rest) >>= fun next => pure (-next.1, next.2) := by
    simp [start, factor]
  rw [opened, ran, Expression.evaluate, bind_assoc, bind_map_left]
  rfl

theorem Parses.loosen (parses : Parses read level.tighter e found) : Parses read level e found := by
  by_cases tight : level = .factor
  · subst tight
    exact parses
  refine ⟨parses.nonempty, fun fuel rest enough follows => ?_⟩
  have nonempty := parses.nonempty
  have lower : level.tighter.height < level.height := by
    cases level <;> first | contradiction | decide
  obtain ⟨fuel, rfl⟩ : ∃ less, fuel = less + 1 := Nat.exists_eq_add_of_le' (by omega)
  obtain ⟨left, used, ran⟩ := parses.continues fuel rest (by omega) (follows_tighter rest)
  obtain ⟨left, rfl⟩ : ∃ less, left = less + 1 := Nat.exists_eq_add_of_le' (by omega)
  refine ⟨fuel, by omega, ?_⟩
  simp [start_succ tight, ran, goOn_of_follows follows]

theorem Parses.binary {operator : Operator} {left right : Expression Leaf}
    {first second : List Token} (parses : Parses read operator.level left first)
    (next : Parses read operator.level.tighter right second) :
    Parses read operator.level (.binary operator left right)
      (first ++ .sign operator.sign :: second) := by
  refine ⟨by simp only [List.length_append, List.length_cons]; omega,
    fun fuel rest enough follows => ?_⟩
  have lower : operator.level.tighter.height < operator.level.height := by
    cases operator <;> decide
  simp only [List.length_append, List.length_cons] at enough ⊢
  obtain ⟨rounds, used, ran⟩ := parses.continues fuel (.sign operator.sign :: (second ++ rest))
    (by omega) (follows_operator operator _)
  obtain ⟨rounds, rfl⟩ : ∃ less, rounds = less + 1 := Nat.exists_eq_add_of_le' (by omega)
  obtain ⟨inner, further, ranNext⟩ := next.continues rounds rest (by omega) (follows_tighter rest)
  obtain ⟨inner, rfl⟩ : ∃ less, inner = less + 1 := Nat.exists_eq_add_of_le' (by omega)
  refine ⟨rounds, by omega, ?_⟩
  rw [List.append_assoc, List.cons_append, ran]
  simp [Expression.evaluate, goOn_operator, ranNext, goOn_of_follows follows]

/-- A written expression is cut into tokens that are parsed as the expression. -/
theorem Written.exists_tokens {text : List Char} (written : Written level e text) :
    ∃ found, Lexes text found ∧ Parses read level e found := by
  induction written with
  | operand leaf => exact ⟨_, lexes_operand leaf, parses_operand leaf⟩
  | parenthesized _ inductionHypothesis =>
    obtain ⟨found, lexes, parses⟩ := inductionHypothesis
    have close : IsSign ')' := by decide
    have closed : Lexes [')'] [.sign ')'] := fun rest _ => tokens_sign close rest
    refine ⟨_, Lexes.sign (by decide) (lexes.append ?_ closed), parses.parenthesized⟩
    exact fun rest _ => ends_cons close.2.1 close.2.2 rest
  | positive _ inductionHypothesis =>
    obtain ⟨found, lexes, parses⟩ := inductionHypothesis
    exact ⟨_, lexes.sign (by decide), parses.positive⟩
  | negative _ inductionHypothesis =>
    obtain ⟨found, lexes, parses⟩ := inductionHypothesis
    exact ⟨_, lexes.sign (by decide), parses.negative⟩
  | loosen _ inductionHypothesis =>
    obtain ⟨found, lexes, parses⟩ := inductionHypothesis
    exact ⟨found, lexes, parses.loosen⟩
  | @binary operator left right first second _ _ leftHypothesis rightHypothesis =>
    obtain ⟨found, lexes, parses⟩ := leftHypothesis
    obtain ⟨further, next, parsesNext⟩ := rightHypothesis
    have sign : IsSign operator.sign := by cases operator <;> decide
    refine ⟨_, lexes.append ?_ (next.sign sign), parses.binary parsesNext⟩
    exact fun rest _ => ends_cons sign.2.1 sign.2.2 _
  | blankBefore blank _ inductionHypothesis =>
    obtain ⟨found, lexes, parses⟩ := inductionHypothesis
    refine ⟨found, fun rest ends => ?_, parses⟩
    rw [List.cons_append, tokens_blank blank, lexes rest ends]
  | blankAfter blank _ inductionHypothesis =>
    obtain ⟨found, lexes, parses⟩ := inductionHypothesis
    refine ⟨found, fun rest ends => ?_, parses⟩
    rw [List.append_assoc, List.singleton_append, lexes _ (ends_of_isBlank blank rest),
      tokens_blank blank]

theorem Parses.value (parses : Parses read .sum e found) : value read found = e.evaluate read := by
  obtain ⟨left, used, ran⟩ := parses.continues (4 * found.length + 4) [] (by simp [Level.height])
    (by simp [Follows])
  obtain ⟨left, rfl⟩ : ∃ less, left = less + 1 := Nat.exists_eq_add_of_le' (by omega)
  have whole : sum read (4 * found.length + 4) found =
      e.evaluate read >>= fun value => pure (value, []) := by
    rw [List.append_nil] at ran
    exact ran
  simp [Arithmetic.value, whole]

/-- Evaluating a text that writes an expression is evaluating the expression. -/
theorem Written.evaluate {text : List Char} (written : Written .sum e text) :
    Subscript.evaluate read (String.ofList text) = e.evaluate read := by
  obtain ⟨found, lexes, parses⟩ : ∃ found, Lexes text found ∧ Parses read .sum e found :=
    written.exists_tokens
  have plain : '$' ∉ strip text := fun member => written.dollar_notMem (mem_of_mem_strip member)
  have scanned : tokens text = found := by
    have all := lexes [] ends_nil
    rwa [List.append_nil, show tokens [] = [] from rfl, List.append_nil] at all
  rw [Subscript.evaluate, String.toList_ofList, Subscript.expandAfter_of_notMem read plain,
    pure_bind, tokens_strip, scanned, parses.value]

end Parsing

section Meaning

variable {read : String → Draw String}

/-- An operand is evaluated to what it stands for, unless it is a numeral that is too long. -/
theorem execute_operand_eq_ok {leaf : Leaf} {queries last : Queries} {number : Int} :
    execute (operand read leaf.token) queries = (.ok number, last) ↔
      leaf.IsShort ∧ execute (leaf.value read) queries = (.ok number, last) := by
  cases leaf with
  | number digits nonempty decimal =>
    by_cases short : digits.length ≤ digitLimit <;>
      simp [Leaf.token, operand, readNat?_of_isDecimal nonempty decimal, Leaf.IsShort, Leaf.value,
        short]
  | name text identifier =>
    simp only [Leaf.token, operand, Leaf.IsShort, Leaf.value, bind_pure_comp, true_and]

theorem execute_perform_eq_ok {operator : Operator} {a b number : Int} {queries last : Queries} :
    execute (operator.perform a b) queries = (.ok number, last) ↔
      ¬ (operator.divides = true ∧ b = 0) ∧ operator.apply a b = number ∧ queries = last := by
  by_cases zero : b = 0 <;> cases operator <;>
    simp [Operator.perform, Operator.divides, Operator.apply, divide, zero]

/-- A tree is evaluated to its value once all its operands are read, if all numerals are short and
nothing is divided by zero. -/
theorem execute_evaluate_eq_ok {e : Expression Leaf} {queries last : Queries} {number : Int} :
    execute (e.evaluate read) queries = (.ok number, last) ↔
      e.All Leaf.IsShort ∧ ∃ valued,
        execute (e.mapM (Leaf.value read)) queries = (.ok valued, last) ∧
          ¬ valued.DividesByZero ∧ valued.value = number := by
  induction e generalizing queries last number with
  | operand leaf =>
    simp only [Expression.evaluate, execute_operand_eq_ok, Expression.All, Expression.mapM,
      execute_map_eq_ok]
    apply and_congr_right
    intro _
    constructor
    · intro ran
      exact ⟨_, ⟨number, ran, rfl⟩, not_false, rfl⟩
    · rintro ⟨_, ⟨_, ran, rfl⟩, -, rfl⟩
      exact ran
  | positive inner inductionHypothesis =>
    simp only [Expression.evaluate, inductionHypothesis, Expression.All, Expression.mapM,
      execute_map_eq_ok]
    apply and_congr_right
    intro _
    constructor
    · rintro ⟨valued, ran, defined, rfl⟩
      exact ⟨_, ⟨valued, ran, rfl⟩, defined, rfl⟩
    · rintro ⟨_, ⟨valued, ran, rfl⟩, defined, rfl⟩
      exact ⟨valued, ran, defined, rfl⟩
  | negative inner inductionHypothesis =>
    simp only [Expression.evaluate, execute_map_eq_ok, inductionHypothesis, Expression.All,
      Expression.mapM]
    constructor
    · rintro ⟨_, ⟨short, valued, ran, defined, rfl⟩, rfl⟩
      exact ⟨short, _, ⟨valued, ran, rfl⟩, defined, rfl⟩
    · rintro ⟨short, _, ⟨valued, ran, rfl⟩, defined, rfl⟩
      exact ⟨_, ⟨short, valued, ran, defined, rfl⟩, rfl⟩
  | binary operator left right leftHypothesis rightHypothesis =>
    simp only [Expression.evaluate, execute_bind_eq_ok, leftHypothesis, rightHypothesis,
      execute_perform_eq_ok, Expression.All, Expression.mapM]
    constructor
    · rintro ⟨_, _, ⟨short, first, ranFirst, definedFirst, rfl⟩, _, _,
        ⟨shortToo, second, ranSecond, definedSecond, rfl⟩, defined, rfl, rfl⟩
      refine ⟨⟨short, shortToo⟩, .binary operator first second,
        ⟨first, _, ranFirst, second, _, ranSecond, rfl⟩, ?_, rfl⟩
      simp only [Expression.DividesByZero]
      tauto
    · rintro ⟨⟨short, shortToo⟩, _, ⟨first, middle, ranFirst, second, place, ranSecond, same⟩,
        defined, rfl⟩
      obtain ⟨rfl, rfl⟩ : Expression.binary operator first second = _ ∧ place = last := by
        simpa using same
      simp only [Expression.DividesByZero] at defined
      exact ⟨first.value, middle, ⟨short, first, ranFirst, by tauto, rfl⟩, second.value, place,
        ⟨shortToo, second, ranSecond, by tauto, rfl⟩, by tauto, rfl, rfl⟩

/-- If every operand can be read, the evaluation fails in a way that callers deal with or not at
all. -/
theorem isRecoverable_of_read {e : Expression Leaf} {queries last : Queries}
    {valued : Expression Int}
    (ran : execute (e.mapM (Leaf.value read)) queries = (.ok valued, last)) {fault : Fault}
    (failed : (execute (e.evaluate read) queries).1 = .error fault) :
    fault.isRecoverable = true := by
  induction e generalizing queries last valued with
  | operand leaf =>
    obtain ⟨number, drawn, -⟩ := execute_map_eq_ok.mp ran
    cases leaf with
    | number digits nonempty decimal =>
      by_cases short : digits.length ≤ digitLimit <;>
        simp [Expression.evaluate, Leaf.token, operand, readNat?_of_isDecimal nonempty decimal,
          short] at failed
      rw [← failed]
      rfl
    | name text identifier =>
      have same : (Leaf.name text identifier).value read =
          Expression.evaluate read (.operand (.name text identifier)) := (bind_pure_comp _ _).symm
      rw [← same, drawn] at failed
      contradiction
  | positive inner inductionHypothesis =>
    obtain ⟨_, ranInner, -⟩ := execute_map_eq_ok.mp ran
    exact inductionHypothesis ranInner failed
  | negative inner inductionHypothesis =>
    obtain ⟨_, ranInner, -⟩ := execute_map_eq_ok.mp ran
    have inner := execute_map_eq_error.mp (Prod.ext failed rfl)
    exact inductionHypothesis ranInner (congrArg Prod.fst inner)
  | binary operator left right leftHypothesis rightHypothesis =>
    obtain ⟨first, middle, ranFirst, more⟩ := execute_bind_eq_ok.mp ran
    obtain ⟨second, place, ranSecond, -⟩ := execute_bind_eq_ok.mp more
    rcases execute_bind_error_iff.mp failed with inLeft | ⟨a, reached, ranLeft, later⟩
    · exact leftHypothesis ranFirst inLeft
    -- What was read on the left leaves the same source of numbers to the right.
    obtain ⟨-, _, again, -⟩ := execute_evaluate_eq_ok.mp ranLeft
    obtain ⟨-, rfl⟩ := Prod.mk.inj (ranFirst.symm.trans again)
    rcases execute_bind_error_iff.mp later with inRight | ⟨b, _, -, undefined⟩
    · exact rightHypothesis ranSecond inRight
    · cases operator <;> simp [Operator.perform, divide] at undefined
      all_goals
        split at undefined
        · cases undefined
          rfl
        · contradiction

end Meaning

end Shell.Arithmetic

namespace Shell.State

open Running Arithmetic

/-- A subscript that writes an expression over numerals and variables is evaluated to the value of
the expression, where its variables are read from left to right, exactly if its numerals are not too
long and nothing in it is divided by zero. If all variables can be read, it fails for these two
reasons only, in a way that callers deal with. -/
theorem writtenExpression_evaluates_iff (state : State) {e : Expression Leaf} {text : List Char}
    (written : Written .sum e text) (queries : Queries) :
    (∀ number last,
      execute (Subscript.evaluate state.value (String.ofList text)) queries = (.ok number, last) ↔
        e.All Leaf.IsShort ∧ ∃ valued,
          execute (e.mapM (Leaf.value state.value)) queries = (.ok valued, last) ∧
            ¬ valued.DividesByZero ∧ valued.value = number) ∧
    ∀ valued last, execute (e.mapM (Leaf.value state.value)) queries = (.ok valued, last) →
      ((∃ fault, fault.isRecoverable = true ∧
          (execute (Subscript.evaluate state.value (String.ofList text)) queries).1 =
            .error fault) ↔
        ¬ e.All Leaf.IsShort ∨ valued.DividesByZero) := by
  rw [written.evaluate]
  refine ⟨fun number last => execute_evaluate_eq_ok, fun valued last ran => ?_⟩
  constructor
  · rintro ⟨fault, -, failed⟩
    by_contra fine
    obtain ⟨short, defined⟩ := not_or.mp fine
    have succeeded := execute_evaluate_eq_ok.mpr ⟨not_not.mp short, valued, ran, defined, rfl⟩
    rw [succeeded] at failed
    contradiction
  · intro stuck
    rcases evaluated : execute (e.evaluate state.value) queries with ⟨fault | number, place⟩
    · exact ⟨fault, isRecoverable_of_read ran (by rw [evaluated]), rfl⟩
    · obtain ⟨short, other, again, defined, -⟩ := execute_evaluate_eq_ok.mp evaluated
      obtain ⟨same, -⟩ := Prod.mk.inj (ran.symm.trans again)
      obtain rfl := Except.ok.inj same
      exact absurd stuck (by tauto)

section Examples

/-- A number, and a text that reads as none. -/
def countingState : State := { store := (({} : Store).put "x" "7").put "y" "w" }

def leafX : Leaf := .name ['x'] (by decide)

def leafY : Leaf := .name ['y'] (by decide)

def leafTwo : Leaf := .number ['2'] (by decide) (List.forall_mem_singleton.mpr (by decide))

def leafFive : Leaf := .number ['5'] (by decide) (List.forall_mem_singleton.mpr (by decide))

/-- The expression `- (x+2) % 5 - y/ 2`, whose first part is a remainder of a negative number. -/
def signedTree : Expression Leaf :=
  .binary .subtract
    (.binary .remainder (.negative (.binary .add (.operand leafX) (.operand leafTwo)))
      (.operand leafFive))
    (.binary .divide (.operand leafY) (.operand leafTwo))

def signedText : List Char :=
  ['-', ' ', '(', 'x', '+', '2', ')', ' ', '%', ' ', '5', ' ', '-', ' ', 'y', '/', ' ', '2']

theorem written_signedTree : Written .sum signedTree signedText := by
  have inner : Written .sum _ ['x', '+', '2'] :=
    @Written.binary .add _ _ _ _ (.loosen (.loosen (.operand leafX))) (.loosen (.operand leafTwo))
  have factor : Written .factor _ ['-', ' ', '(', 'x', '+', '2', ')'] :=
    .negative (.blankBefore (by decide) (.parenthesized inner))
  have first : Written .product _ ['-', ' ', '(', 'x', '+', '2', ')', ' ', '%', ' ', '5'] :=
    @Written.binary .remainder _ _ _ _ (.blankAfter (by decide) (.loosen factor))
      (.blankBefore (by decide) (.operand leafFive))
  have second : Written .product _ ['y', '/', ' ', '2'] :=
    @Written.binary .divide _ _ _ _ (.loosen (.operand leafY))
      (.blankBefore (by decide) (.operand leafTwo))
  exact @Written.binary .subtract _ _ _ _ (.blankAfter (by decide) (.loosen first))
    (.blankBefore (by decide) second)

theorem signedTree_evaluates :
    Written .sum signedTree signedText ∧
      execute (Subscript.evaluate countingState.value (String.ofList signedText)) [] =
        (.ok (-4), []) ∧
      ∃ fault, fault.isRecoverable = true ∧
        (execute (Subscript.evaluate countingState.value (String.ofList ['2', '/', 'y'])) []).1 =
          .error fault := by
  have undefined : Written .sum _ ['2', '/', 'y'] :=
    .loosen (@Written.binary .divide _ _ _ _ (.loosen (.operand leafTwo)) (.operand leafY))
  refine ⟨written_signedTree, ?_, ?_⟩
  · have evaluates := (writtenExpression_evaluates_iff countingState written_signedTree []).1
    refine (evaluates _ _).mpr ⟨?_, _, rfl, by decide +kernel, by decide +kernel⟩
    simp [signedTree, leafX, leafY, leafTwo, leafFive, Expression.All, Leaf.IsShort,
      Text.digitLimit]
  · have fails := (writtenExpression_evaluates_iff countingState undefined []).2
    exact (fails _ _ rfl).mpr (.inr (by decide +kernel))

/-- Zero, with one digit more than numerals may have. -/
def longZero : Leaf :=
  .number (List.replicate (Text.digitLimit + 1) '0') (by simp) fun c member => by
    rw [List.eq_of_mem_replicate member]
    decide

theorem spelledNumber_zeros (count : Nat) : spelledNumber (List.replicate count '0') = 0 := by
  unfold spelledNumber
  induction count with
  | zero => rfl
  | succ count inductionHypothesis =>
    rw [List.replicate_succ, List.foldl_cons]
    exact inductionHypothesis

/-- Nothing is divided, and the number is small, but it is not read. -/
theorem longZero_is_refused :
    Written .sum (.operand longZero) longZero.text ∧
      execute (longZero.value (State.value {})) [] = (.ok 0, []) ∧
      execute (Subscript.evaluate (State.value {}) (String.ofList longZero.text)) [] =
        (.error (.numeralTooLong (Text.digitLimit + 1)), []) := by
  have written : Written .sum (.operand longZero) longZero.text := .loosen (.loosen (.operand _))
  have unread : Text.readNat? (List.replicate (Text.digitLimit + 1) '0') = none := by
    rw [readNat?_of_isDecimal (by simp) fun c member => by
      rw [List.eq_of_mem_replicate member]
      decide]
    simp
  refine ⟨written, ?_, ?_⟩
  · simp [longZero, Leaf.value, spelledNumber_zeros]
  · rw [written.evaluate, Expression.evaluate, longZero, Leaf.token, operand, unread]
    simp

end Examples

end Shell.State
