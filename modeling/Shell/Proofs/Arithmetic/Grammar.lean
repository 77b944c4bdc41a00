import Shell.Proofs.Text.Reference
import Shell.Proofs.Variable.Constant

/-!
# Arithmetic expressions and how they are written

An expression is a tree over numbers and names. A text writes it if it has its operands and
operators in order, parentheses wherever an operand binds more loosely than its place demands, and
any blanks between the tokens. A text is cut into its tokens piece by piece: what follows a piece
matters only if it would make the last numeral or name of the piece longer.
-/

namespace Shell.Arithmetic

open Text

/-- The strength with which the parts of an expression are bound. -/
inductive Level
  | factor
  | product
  | sum
deriving DecidableEq, Repr

namespace Level

/-- The level of the operands on the right, and of those that need no operator. -/
def tighter : Level → Level
  | factor | product => factor
  | sum => product

end Level

/-- A binary operator. -/
inductive Operator
  | add
  | subtract
  | multiply
  | divide
  | remainder
deriving DecidableEq, Repr

namespace Operator

def sign : Operator → Char
  | add => '+'
  | subtract => '-'
  | multiply => '*'
  | divide => '/'
  | remainder => '%'

def level : Operator → Level
  | add | subtract => .sum
  | multiply | divide | remainder => .product

/-- The result for two numbers. Quotients are truncated towards zero, and remainders belong to
them. -/
def apply : Operator → Int → Int → Int
  | add, a, b => a + b
  | subtract, a, b => a - b
  | multiply, a, b => a * b
  | divide, a, b => a.tdiv b
  | remainder, a, b => a.tmod b

/-- The operator has no result if its right operand is zero. -/
def divides : Operator → Bool
  | divide | remainder => true
  | _ => false

end Operator

/-- An expression with signs and binary operators over some kind of operands. -/
inductive Expression (α : Type)
  | operand (leaf : α)
  | positive (inner : Expression α)
  | negative (inner : Expression α)
  | binary (operator : Operator) (left right : Expression α)
deriving DecidableEq, Repr

/-- An operand that is written in an expression: a numeral with digits of any script, or the name of
a variable. -/
inductive Leaf
  | number (digits : List Char) (nonempty : digits ≠ [])
      (decimal : ∀ c ∈ digits, isDecimal c = true)
  | name (text : List Char) (identifier : isIdentifier text = true)

namespace Expression

variable {α β : Type}

/-- The value of an expression over numbers, if nothing in it is divided by zero. -/
def value : Expression Int → Int
  | operand number => number
  | positive inner => inner.value
  | negative inner => -inner.value
  | binary operator left right => operator.apply left.value right.value

/-- A right operand of a division is zero. -/
def DividesByZero : Expression Int → Prop
  | operand _ => False
  | positive inner | negative inner => inner.DividesByZero
  | binary operator left right =>
    left.DividesByZero ∨ right.DividesByZero ∨ (operator.divides = true ∧ right.value = 0)

def decidableDividesByZero : (e : Expression Int) → Decidable e.DividesByZero
  | operand _ => .isFalse id
  | positive inner | negative inner => decidableDividesByZero inner
  | binary operator left right =>
    have := decidableDividesByZero left
    have := decidableDividesByZero right
    inferInstanceAs (Decidable (_ ∨ _ ∨ (operator.divides = true ∧ right.value = 0)))

instance : DecidablePred DividesByZero := decidableDividesByZero

/-- Replace the operands, from left to right. -/
def mapM {m : Type → Type} [Monad m] (replace : α → m β) : Expression α → m (Expression β)
  | operand leaf => operand <$> replace leaf
  | positive inner => positive <$> inner.mapM replace
  | negative inner => negative <$> inner.mapM replace
  | binary operator left right => do
    let first ← left.mapM replace
    let second ← right.mapM replace
    pure (binary operator first second)

/-- Something holds of all operands. -/
def All (condition : α → Prop) : Expression α → Prop
  | operand leaf => condition leaf
  | positive inner | negative inner => inner.All condition
  | binary _ left right => left.All condition ∧ right.All condition

end Expression

/-- The number that decimal digits stand for. -/
def spelledNumber (digits : List Char) : Nat :=
  digits.foldl (fun number c => 10 * number + (digitValue? c).getD 0) 0

namespace Leaf

def text : Leaf → List Char
  | number digits _ _ => digits
  | name text _ => text

def token : Leaf → Token
  | number digits _ _ => .number digits
  | name text _ => .name text

/-- The number that an operand stands for, when variables are read in this way. -/
def value (read : String → Draw String) : Leaf → Draw Int
  | number digits _ _ => pure (spelledNumber digits)
  | name text _ => (fun value => intValue value.toList) <$> read (String.ofList text)

/-- A numeral has no more digits than numerals may have. -/
def IsShort : Leaf → Prop
  | number digits _ _ => digits.length ≤ digitLimit
  | name _ _ => True

end Leaf

/-- The texts that write an expression at the place of an operand of a level. -/
inductive Written : Level → Expression Leaf → List Char → Prop
  | operand (leaf : Leaf) : Written .factor (.operand leaf) leaf.text
  | parenthesized {e : Expression Leaf} {text : List Char} : Written .sum e text →
      Written .factor e ('(' :: (text ++ [')']))
  | positive {e : Expression Leaf} {text : List Char} : Written .factor e text →
      Written .factor (.positive e) ('+' :: text)
  | negative {e : Expression Leaf} {text : List Char} : Written .factor e text →
      Written .factor (.negative e) ('-' :: text)
  | loosen {level : Level} {e : Expression Leaf} {text : List Char} :
      Written level.tighter e text → Written level e text
  | binary {operator : Operator} {left right : Expression Leaf} {first second : List Char} :
      Written operator.level left first → Written operator.level.tighter right second →
      Written operator.level (.binary operator left right) (first ++ operator.sign :: second)
  | blankBefore {level : Level} {e : Expression Leaf} {c : Char} {text : List Char} :
      isBlank c = true → Written level e text → Written level e (c :: text)
  | blankAfter {level : Level} {e : Expression Leaf} {c : Char} {text : List Char} :
      isBlank c = true → Written level e text → Written level e (text ++ [c])

section Characters

theorem isBlank_of_isDecimal {c : Char} (decimal : isDecimal c = true) : isBlank c = false := by
  by_cases ascii : c.toNat < 128
  · apply isBlank_of_isDigit
    simpa [isDecimal, digitValue?, ascii] using decimal
  · obtain ⟨start, known, low, high⟩ : ∃ start ∈ zeros, start ≤ c.toNat ∧ c.toNat < start + 10 := by
      simpa [isDecimal, digitValue?, ascii] using decimal
    have apart : ∀ start ∈ zeros, ∀ range ∈ blankRanges,
        range.2 < start ∨ start + 10 ≤ range.1 := by decide +kernel
    rw [Bool.eq_false_iff]
    intro blank
    obtain ⟨range, member, first, last⟩ := Ranges.has_iff.mp blank
    have := apart start known range member
    omega

theorem isBlank_of_isNameChar {c : Char} (named : isNameChar c = true) : isBlank c = false := by
  have each : ∀ code < 128, isNameChar (Char.ofNat code) = true →
      isBlank (Char.ofNat code) = false := by decide +kernel
  simpa using each c.toNat (toNat_lt_of_isNameChar named) (by simpa using named)

theorem isDecimal_of_isNameStart {c : Char} (start : isNameStart c = true) :
    isDecimal c = false := by
  have each : ∀ code < 128, isNameStart (Char.ofNat code) = true →
      isDecimal (Char.ofNat code) = false := by decide +kernel
  have ascii := toNat_lt_of_isNameChar (isNameChar_of_isNameStart start)
  simpa using each c.toNat ascii (by simpa using start)

/-- No numeral and no name goes on behind this. -/
def Ends (rest : List Char) : Prop :=
  ∀ c, rest.head? = some c → isDecimal c = false ∧ isNameChar c = false

theorem ends_nil : Ends [] := by simp [Ends]

theorem ends_cons {c : Char} (decimal : isDecimal c = false) (named : isNameChar c = false)
    (rest : List Char) : Ends (c :: rest) := by
  simp [Ends, decimal, named]

theorem ends_of_isBlank {c : Char} (blank : isBlank c = true) (rest : List Char) :
    Ends (c :: rest) := by
  apply ends_cons
  · rw [Bool.eq_false_iff]
    intro decimal
    simp [isBlank_of_isDecimal decimal] at blank
  · rw [Bool.eq_false_iff]
    intro named
    simp [isBlank_of_isNameChar named] at blank

theorem Ends.takeWhile {rest : List Char} (ends : Ends rest) :
    rest.takeWhile isDecimal = [] ∧ rest.takeWhile isNameChar = [] := by
  cases rest with
  | nil => simp
  | cons c rest => simp [ends c rfl]

/-- Digits that are read in a row are read as one numeral. -/
theorem digitsAfter?_of_isDecimal {digits : List Char} (decimal : ∀ c ∈ digits, isDecimal c = true)
    (number : Nat) :
    digitsAfter? number digits =
      some (digits.foldl (fun number c => 10 * number + (digitValue? c).getD 0) number) := by
  induction digits generalizing number with
  | nil => rfl
  | cons c digits inductionHypothesis =>
    have first := decimal c List.mem_cons_self
    obtain ⟨digit, value⟩ := Option.isSome_iff_exists.mp first
    rw [digitsAfter?, value, Option.bind_some, List.foldl_cons, value, Option.getD_some]
    · exact inductionHypothesis (fun d member => decimal d (List.mem_cons_of_mem _ member)) _
    · rintro _ _ rfl
      contradiction

/-- A numeral is read exactly if it is not too long. -/
theorem readNat?_of_isDecimal {digits : List Char} (nonempty : digits ≠ [])
    (decimal : ∀ c ∈ digits, isDecimal c = true) :
    readNat? digits =
      if digits.length ≤ digitLimit then some (spelledNumber digits) else none := by
  have count : digitCount digits = digits.length := by
    apply List.countP_eq_length.mpr
    intro c member
    apply decide_eq_true
    rintro rfl
    exact absurd (decimal _ member) (by decide)
  cases digits with
  | nil => contradiction
  | cons c digits =>
    obtain ⟨digit, value⟩ := Option.isSome_iff_exists.mp (decimal c List.mem_cons_self)
    rw [readNat?, count, value, Option.bind_some,
      digitsAfter?_of_isDecimal fun d member => decimal d (List.mem_cons_of_mem _ member)]
    by_cases short : (c :: digits).length ≤ digitLimit
    · rw [if_neg (Nat.not_lt.mpr short), if_pos short]
      simp [spelledNumber, value]
    · rw [if_pos (Nat.not_le.mp short), if_neg short]

end Characters

section Lexing

/-- The text is cut into these tokens, whatever ends it. -/
def Lexes (text : List Char) (found : List Token) : Prop :=
  ∀ rest, Ends rest → tokens (text ++ rest) = found ++ tokens rest

theorem tokensAfter_eq_drop (skip : Nat) (text : List Char) :
    tokensAfter skip text = tokens (text.drop skip) := by
  induction text generalizing skip with
  | nil => cases skip <;> rfl
  | cons c rest inductionHypothesis =>
    cases skip with
    | zero => rfl
    | succ skip => simpa [tokensAfter] using inductionHypothesis skip

theorem tokens_blank {c : Char} (blank : isBlank c = true) (rest : List Char) :
    tokens (c :: rest) = tokens rest := by
  rw [tokens, tokensAfter, if_pos blank, tokens]

theorem tokens_cons {c : Char} (solid : isBlank c = false) (rest : List Char) :
    tokens (c :: rest) =
      headToken c rest :: tokens (rest.drop ((headToken c rest).text.length - 1)) := by
  rw [tokens, tokensAfter, if_neg (by simp [solid])]
  dsimp only
  rw [tokensAfter_eq_drop]

theorem lexes_operand (leaf : Leaf) : Lexes leaf.text [leaf.token] := by
  intro rest ends
  cases leaf with
  | number digits nonempty decimal =>
    cases digits with
    | nil => contradiction
    | cons c digits =>
      have first := decimal c List.mem_cons_self
      have whole : (digits ++ rest).takeWhile isDecimal = digits := by
        rw [List.takeWhile_append_of_pos, ends.takeWhile.1, List.append_nil]
        intro d member
        exact decimal d (List.mem_cons_of_mem _ member)
      have head : headToken c (digits ++ rest) = .number (c :: digits) := by
        rw [headToken, if_pos first, whole]
      rw [Leaf.text, List.cons_append, tokens_cons (isBlank_of_isDecimal first), head]
      simp [Token.text, Leaf.token]
  | name text identifier =>
    cases text with
    | nil => contradiction
    | cons c text =>
      have start : isNameStart c = true := by
        rw [isIdentifier, Bool.and_eq_true] at identifier
        exact identifier.1
      have whole : (text ++ rest).takeWhile isNameChar = text := by
        rw [List.takeWhile_append_of_pos, ends.takeWhile.2, List.append_nil]
        intro d member
        exact isNameChar_of_mem identifier (List.mem_cons_of_mem _ member)
      have head : headToken c (text ++ rest) = .name (c :: text) := by
        rw [headToken, if_neg (by simp [isDecimal_of_isNameStart start]), if_pos start, whole]
      rw [Leaf.text, List.cons_append,
        tokens_cons (isBlank_of_isNameChar (isNameChar_of_isNameStart start)), head]
      simp [Token.text, Leaf.token]

/-- Characters that are tokens by themselves. -/
def IsSign (c : Char) : Prop :=
  isBlank c = false ∧ isDecimal c = false ∧ isNameChar c = false

instance (c : Char) : Decidable (IsSign c) := inferInstanceAs (Decidable (_ ∧ _ ∧ _))

theorem tokens_sign {c : Char} (sign : IsSign c) (rest : List Char) :
    tokens (c :: rest) = .sign c :: tokens rest := by
  obtain ⟨solid, decimal, named⟩ := sign
  have start : isNameStart c = false := by
    rw [Bool.eq_false_iff]
    intro start
    simp [isNameChar_of_isNameStart start] at named
  have head : headToken c rest = .sign c := by simp [headToken, decimal, start]
  rw [tokens_cons solid, head]
  rfl

theorem Lexes.append {first second : List Char} {found further : List Token}
    (lexes : Lexes first found) (ends : ∀ rest, Ends rest → Ends (second ++ rest))
    (next : Lexes second further) : Lexes (first ++ second) (found ++ further) := by
  intro rest ended
  rw [List.append_assoc, lexes _ (ends rest ended), next rest ended, List.append_assoc]

theorem Lexes.sign {c : Char} (sign : IsSign c) {text : List Char} {found : List Token}
    (lexes : Lexes text found) : Lexes (c :: text) (.sign c :: found) := by
  intro rest ends
  rw [List.cons_append, tokens_sign sign, lexes rest ends]
  rfl

/-- A numeral or a name that ends the text is not made longer by a character that is neither. -/
theorem takeWhile_concat {test : Char → Bool} {c : Char} (stops : test c = false)
    (text : List Char) : (text ++ [c]).takeWhile test = text.takeWhile test := by
  induction text with
  | nil => simp [stops]
  | cons d text inductionHypothesis => simp [List.takeWhile_cons, inductionHypothesis]

theorem tokensAfter_concat {c : Char} (blank : isBlank c = true) (skip : Nat) (text : List Char) :
    tokensAfter skip (text ++ [c]) = tokensAfter skip text := by
  induction text generalizing skip with
  | nil =>
    cases skip with
    | zero => simp [tokensAfter, blank]
    | succ skip => simp [tokensAfter]
  | cons d text inductionHypothesis =>
    cases skip with
    | succ skip => exact inductionHypothesis skip
    | zero =>
      obtain ⟨decimal, named⟩ := ends_of_isBlank blank [] c rfl
      have head : headToken d (text ++ [c]) = headToken d text := by
        simp only [headToken, takeWhile_concat decimal, takeWhile_concat named]
      simp only [List.cons_append, tokensAfter, head, inductionHypothesis]

/-- Blanks at the ends are no tokens. -/
theorem tokens_strip (text : List Char) : tokens (strip text) = tokens text := by
  have front : ∀ text : List Char, tokens (text.dropWhile isBlank) = tokens text := by
    intro text
    induction text with
    | nil => rfl
    | cons c text inductionHypothesis =>
      by_cases blank : isBlank c = true
      · rw [List.dropWhile_cons_of_pos blank, tokens_blank blank, inductionHypothesis]
      · rw [List.dropWhile_cons_of_neg blank]
  have back : ∀ text : List Char,
      tokens (text.dropWhile isBlank).reverse = tokens text.reverse := by
    intro text
    induction text with
    | nil => rfl
    | cons c text inductionHypothesis =>
      by_cases blank : isBlank c = true
      · rw [List.dropWhile_cons_of_pos blank, List.reverse_cons, tokens, tokens,
          tokensAfter_concat blank, ← tokens, inductionHypothesis, tokens]
      · rw [List.dropWhile_cons_of_neg blank]
  rw [strip, trim, back, List.reverse_reverse, front]

end Lexing

section Dollars

theorem mem_of_mem_strip {c : Char} {text : List Char} (member : c ∈ strip text) : c ∈ text := by
  rw [strip, trim, List.mem_reverse] at member
  have inside := (List.dropWhile_sublist _).subset member
  rw [List.mem_reverse] at inside
  exact (List.dropWhile_sublist _).subset inside

theorem Written.dollar_notMem {level : Level} {e : Expression Leaf} {text : List Char}
    (written : Written level e text) : '$' ∉ text := by
  induction written with
  | operand leaf =>
    cases leaf with
    | number digits nonempty decimal => exact fun member => absurd (decimal _ member) (by decide)
    | name text identifier =>
      exact fun member => absurd (isNameChar_of_mem identifier member) (by decide)
  | parenthesized _ inductionHypothesis => simpa using inductionHypothesis
  | positive _ inductionHypothesis => simpa using inductionHypothesis
  | negative _ inductionHypothesis => simpa using inductionHypothesis
  | loosen _ inductionHypothesis => exact inductionHypothesis
  | @binary operator left right first second _ _ leftClean rightClean =>
    have other : '$' ≠ operator.sign := by cases operator <;> decide
    simp [leftClean, rightClean, other]
  | @blankBefore level e c text blank _ inductionHypothesis =>
    have other : '$' ≠ c := by
      rintro rfl
      contradiction
    simp [inductionHypothesis, other]
  | @blankAfter level e c text blank _ inductionHypothesis =>
    have other : '$' ≠ c := by
      rintro rfl
      contradiction
    simp [inductionHypothesis, other]

end Dollars

end Shell.Arithmetic
