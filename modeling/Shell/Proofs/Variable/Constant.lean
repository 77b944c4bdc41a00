import Shell.Proofs.Variable.Elements

/-!
# Subscripts that ask for no variable

A subscript without a dollar sign is taken as it stands. The decimal text of a
number, with or without a minus sign in front, is evaluated to that number unless it
has too many digits.
-/

namespace Shell

open Text

namespace Text

theorem isDecimal_of_isDigit {c : Char} (digit : c.isDigit = true) : isDecimal c = true := by
  obtain ⟨d, small, rfl⟩ := exists_digitChar digit
  rw [isDecimal, digitValue?_digitChar small]
  rfl

theorem isBlank_of_isDigit {c : Char} (digit : c.isDigit = true) : isBlank c = false := by
  obtain ⟨d, small, rfl⟩ := exists_digitChar digit
  revert d
  decide

theorem dollar_ne_of_isDigit {c : Char} (digit : c.isDigit = true) : c ≠ '$' := by
  rintro rfl
  contradiction

/-- A text without blanks is kept when blanks are dropped. -/
theorem strip_of_forall {text : List Char} (solid : ∀ c ∈ text, isBlank c = false) :
    strip text = text := by
  have keeps : ∀ {characters : List Char}, (∀ c ∈ characters, isBlank c = false) →
      characters.dropWhile isBlank = characters := by
    intro characters each
    cases characters with
    | nil => rfl
    | cons c rest => rw [List.dropWhile_cons_of_neg (by simp [each c List.mem_cons_self])]
  rw [strip, trim, keeps solid, keeps fun c member => solid c (List.mem_reverse.mp member),
    List.reverse_reverse]

end Text

namespace Arithmetic

variable {digits : List Char}

theorem tokensAfter_length (text : List Char) : tokensAfter text.length text = [] := by
  induction text with
  | nil => rfl
  | cons c rest inductionHypothesis => exact inductionHypothesis

theorem tokensAfter_digits (nonempty : digits ≠ []) (each : ∀ c ∈ digits, c.isDigit = true) :
    tokensAfter 0 digits = [.number digits] := by
  cases digits with
  | nil => exact absurd rfl nonempty
  | cons c rest =>
    have first : c.isDigit = true := each c List.mem_cons_self
    have whole : rest.takeWhile isDecimal = rest := by
      have all : ∀ d ∈ rest, isDecimal d = true := fun d member =>
        isDecimal_of_isDigit (each d (List.mem_cons_of_mem _ member))
      rw [← List.append_nil rest, List.takeWhile_append_of_pos all, List.takeWhile_nil]
    have token : headToken c rest = .number (c :: rest) := by
      rw [headToken, if_pos (isDecimal_of_isDigit first), whole]
    have last : tokensAfter ((c :: rest).length - 1) rest = [] := tokensAfter_length rest
    rw [tokensAfter, if_neg (by simp [isBlank_of_isDigit first]), token]
    exact congrArg _ last

variable (read : String → Draw String)

/-- An expression that is a single factor. -/
theorem value_of_factor {tokens : List Token} {answer : Draw Int}
    (alone : ∀ fuel, factor read (fuel + 2) tokens = (·, []) <$> answer) :
    value read tokens = answer := by
  have product : ∀ fuel, product read (fuel + 3) tokens = (·, []) <$> answer := by
    intro fuel
    rw [Arithmetic.product, alone, bind_map_left]
    exact (map_eq_pure_bind _ _).symm
  have sum : ∀ fuel, sum read (fuel + 4) tokens = (·, []) <$> answer := by
    intro fuel
    rw [Arithmetic.sum, product, bind_map_left]
    exact (map_eq_pure_bind _ _).symm
  rw [value, sum, bind_map_left]
  exact bind_pure answer

theorem factor_number (fuel : Nat) :
    factor read (fuel + 1) [.number digits] = (·, []) <$> operand read (.number digits) :=
  (map_eq_pure_bind _ _).symm

theorem value_number : value read [.number digits] = operand read (.number digits) :=
  value_of_factor read fun fuel => factor_number read (fuel + 1)

theorem value_negative :
    value read [.sign '-', .number digits] = (- ·) <$> operand read (.number digits) := by
  refine value_of_factor read fun fuel => ?_
  rw [factor, factor_number, bind_map_left, Functor.map_map]
  exact (map_eq_pure_bind _ _).symm

end Arithmetic

namespace Subscript

variable (read : String → Draw String)

theorem expandAfter_of_notMem {text : List Char} (plain : '$' ∉ text) :
    expandAfter read 0 text = pure text := by
  induction text with
  | nil => rfl
  | cons c rest inductionHypothesis =>
    rw [List.mem_cons, not_or] at plain
    simp only [expandAfter, if_neg (Ne.symm plain.1), inductionHypothesis plain.2, pure_bind]

/-- The number that is read from decimal digits. -/
def numeral (n : Nat) : Draw Int :=
  if n < numberLimit then pure n else throw (.numeralTooLong (Nat.toDigits 10 n).length)

theorem operand_toDigits (n : Nat) :
    Arithmetic.operand read (.number (Nat.toDigits 10 n)) = numeral n := by
  rw [Arithmetic.operand, readNat?_toDigits, numeral]
  by_cases short : n < numberLimit
  · rw [if_pos short, if_pos short]
  · rw [if_neg short, if_neg short]

/-- A subscript without blanks and dollar signs is evaluated as it stands. -/
theorem evaluate_of_forall {subscript : String}
    (solid : ∀ c ∈ subscript.toList, isBlank c = false) (plain : '$' ∉ subscript.toList) :
    evaluate read subscript = Arithmetic.value read (Arithmetic.tokens subscript.toList) := by
  rw [evaluate, strip_of_forall solid, expandAfter_of_notMem read plain, pure_bind]

theorem evaluate_toString (n : Nat) : evaluate read (toString n) = numeral n := by
  have spelled : (toString n).toList = Nat.toDigits 10 n := toString_eq_iff.mp rfl
  have digits : ∀ c ∈ Nat.toDigits 10 n, c.isDigit = true := fun _ => isDigit_of_mem_toDigits
  have solid : ∀ c ∈ Nat.toDigits 10 n, isBlank c = false := fun c member =>
    isBlank_of_isDigit (digits c member)
  have plain : '$' ∉ Nat.toDigits 10 n := fun member =>
    dollar_ne_of_isDigit (digits _ member) rfl
  rw [evaluate_of_forall read (spelled ▸ solid) (spelled ▸ plain), spelled, Arithmetic.tokens,
    Arithmetic.tokensAfter_digits Nat.toDigits_ne_nil digits, Arithmetic.value_number,
    operand_toDigits]

theorem evaluate_negative (n : Nat) :
    evaluate read ("-" ++ toString n) = (- ·) <$> numeral n := by
  have signed : ("-" ++ toString n).toList = '-' :: Nat.toDigits 10 n := by
    rw [String.toList_append, toString_eq_iff.mp rfl]
    rfl
  have solid : ∀ c ∈ '-' :: Nat.toDigits 10 n, isBlank c = false := by
    intro c member
    rcases List.mem_cons.mp member with rfl | digit
    · decide
    · exact isBlank_of_isDigit (isDigit_of_mem_toDigits digit)
  have plain : '$' ∉ '-' :: Nat.toDigits 10 n := by
    intro member
    rcases List.mem_cons.mp member with equality | digit
    · contradiction
    · exact dollar_ne_of_isDigit (isDigit_of_mem_toDigits digit) rfl
  have tokens : Arithmetic.tokens ('-' :: Nat.toDigits 10 n) =
      [.sign '-', .number (Nat.toDigits 10 n)] :=
    congrArg (Arithmetic.Token.sign '-' :: ·)
      (Arithmetic.tokensAfter_digits Nat.toDigits_ne_nil fun _ => isDigit_of_mem_toDigits)
  rw [evaluate_of_forall read (signed ▸ solid) (signed ▸ plain), signed, tokens,
    Arithmetic.value_negative, operand_toDigits]

/-- Only two texts stand for all elements, and they are told apart from others by how they begin. -/
theorem isWhole_of_head {subscript : String} {c : Char} {rest : List Char}
    (spelled : subscript.toList = c :: rest) (other : c ≠ '@' ∧ c ≠ '*') :
    State.isWhole subscript = false := by
  have apart : ∀ known : Char, c ≠ known → subscript ≠ String.ofList [known] := by
    rintro known different rfl
    rw [String.toList_ofList] at spelled
    exact different (List.cons.inj spelled).1.symm
  simp [State.isWhole, apart '@' other.1, apart '*' other.2]

theorem ne_empty_of_head {subscript : String} {c : Char} {rest : List Char}
    (spelled : subscript.toList = c :: rest) : subscript ≠ "" := by
  rintro rfl
  contradiction

/-- A key between single quotation marks. -/
def quotedKey (key : String) : String := String.ofList ('\x27' :: key.toList ++ ['\x27'])

theorem toList_quotedKey (text : String) :
    (quotedKey text).toList = '\x27' :: (text.toList ++ ['\x27']) :=
  String.toList_ofList

/-- Whatever stands between the marks, quotation marks among it, is the key. -/
theorem key_quotedKey {text : String} (plain : '$' ∉ text.toList) :
    key read (quotedKey text) = pure text := by
  have unquoted : unquote (quotedKey text).toList = text.toList := by
    rw [toList_quotedKey, unquote]
    simp
  rw [key, unquoted, String.ofList_toList, expand, expandAfter_of_notMem read plain, pure_bind,
    String.ofList_toList]

end Subscript

end Shell
