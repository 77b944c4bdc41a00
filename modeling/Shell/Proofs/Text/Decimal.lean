import Shell.Fault

/-!
# Indices and their decimal texts

The texts that spell an index are exactly the decimal texts of numbers. Reading
such a text gives the number back, unless it has more digits than numerals may
have; then it cannot be read at all. Nor can a number with so many digits be spelled.
-/

namespace Shell.Text

theorem digitValue?_digitChar {d : Nat} (small : d < 10) :
    digitValue? d.digitChar = some d := by
  have digit : d.digitChar.isDigit = true := by
    rw [Nat.isDigit_digitChar]
    exact decide_eq_true small
  have code := Nat.toNat_digitChar_of_lt_ten small
  have ascii : d.digitChar.toNat < 128 := by omega
  rw [digitValue?, if_pos ascii, if_pos digit, code]
  congr 1
  omega

theorem digitChar_ne_underscore {d : Nat} (small : d < 10) : d.digitChar ≠ '_' := by
  intro equality
  have code := Nat.toNat_digitChar_of_lt_ten small
  rw [equality] at code
  have : '_'.toNat = 95 := rfl
  omega

/-- An ASCII digit is the digit of a number below ten. -/
theorem exists_digitChar {c : Char} (digit : c.isDigit = true) :
    ∃ d < 10, c = d.digitChar := by
  simp only [Char.isDigit, Bool.and_eq_true, decide_eq_true_eq] at digit
  have lower : 48 ≤ c.toNat := UInt32.le_iff_toNat_le.mp digit.1
  have upper : c.toNat ≤ 57 := UInt32.le_iff_toNat_le.mp digit.2
  refine ⟨c.toNat - 48, by omega, ?_⟩
  apply Char.toNat_inj.mp
  rw [Nat.toNat_digitChar_of_lt_ten (by omega)]
  omega

theorem digitsAfter?_cons {acc d : Nat} {rest : List Char} (small : d < 10) :
    digitsAfter? acc (d.digitChar :: rest) = digitsAfter? (10 * acc + d) rest := by
  have step : digitsAfter? acc (d.digitChar :: rest) =
      (digitValue? d.digitChar).bind fun value => digitsAfter? (10 * acc + value) rest := by
    rw [digitsAfter?]
    intro _ _ underscore
    exact absurd underscore (digitChar_ne_underscore small)
  rw [step, digitValue?_digitChar small, Option.bind_some]

/-- Digits that are read in a row are read as one numeral. -/
theorem digitsAfter?_eq_ofDigitChars {acc : Nat} {text : List Char}
    (digits : ∀ c ∈ text, c.isDigit = true) :
    digitsAfter? acc text = some (Nat.ofDigitChars 10 text acc) := by
  induction text generalizing acc with
  | nil => simp [digitsAfter?]
  | cons c rest inductionHypothesis =>
    obtain ⟨d, small, rfl⟩ := exists_digitChar (digits c (by simp))
    rw [digitsAfter?_cons small, Nat.ofDigitChars_cons_digitChar_of_lt_ten small]
    exact inductionHypothesis fun c member => digits c (List.mem_cons_of_mem _ member)

theorem digitCount_of_digits {text : List Char} (digits : ∀ c ∈ text, c.isDigit = true) :
    digitCount text = text.length := by
  apply List.countP_eq_length.mpr
  intro c member
  obtain ⟨d, small, rfl⟩ := exists_digitChar (digits c member)
  exact decide_eq_true (digitChar_ne_underscore small)

/-- Reading digits fails exactly if there are too many of them. -/
theorem readNat?_of_digits {text : List Char} (nonempty : text ≠ [])
    (digits : ∀ c ∈ text, c.isDigit = true) :
    readNat? text =
      if text.length ≤ digitLimit then some (Nat.ofDigitChars 10 text 0) else none := by
  have count := digitCount_of_digits digits
  cases text with
  | nil => exact absurd rfl nonempty
  | cons c rest =>
    have tail : ∀ d ∈ rest, d.isDigit = true := fun d member =>
      digits d (List.mem_cons_of_mem _ member)
    obtain ⟨d, small, rfl⟩ := exists_digitChar (digits c (by simp))
    rw [readNat?, count, digitValue?_digitChar small, Option.bind_some,
      digitsAfter?_eq_ofDigitChars tail, Nat.ofDigitChars_cons_digitChar_of_lt_ten small]
    by_cases short : (d.digitChar :: rest).length ≤ digitLimit
    · rw [if_neg (Nat.not_lt.mpr short), if_pos short]
      simp
    · rw [if_pos (Nat.not_le.mp short), if_neg short]

theorem isDigit_of_mem_toDigits {n : Nat} {c : Char} (member : c ∈ Nat.toDigits 10 n) :
    c.isDigit = true :=
  Nat.isDigit_of_mem_toDigits (by omega) (by omega) member

theorem isCanonical_cons_iff {c : Char} {rest : List Char} :
    isCanonical (c :: rest) = true ↔
      (c = '0' ∧ rest = []) ∨ (c ≠ '0' ∧ ∀ d ∈ c :: rest, d.isDigit = true) := by
  by_cases zero : c = '0'
  · subst zero
    cases rest <;> simp [isCanonical]
  · have unfolded : isCanonical (c :: rest) =
        (c != '0' && c.isDigit && rest.all Char.isDigit) := by
      rw [isCanonical]
      intro equality
      exact absurd equality zero
    simp [unfolded, zero]

/-- The leading digit of a number that is not zero is not zero. -/
theorem head?_toDigits_ne_zero {n : Nat} (positive : 0 < n) :
    (Nat.toDigits 10 n).head? ≠ some '0' := by
  induction n using Nat.strongRecOn with
  | ind n inductionHypothesis =>
    rw [Nat.toDigits_eq_if (by omega)]
    split
    · simp only [List.head?_cons, ne_eq, Option.some.injEq, Nat.digitChar_eq_zero]
      omega
    · have shorter := inductionHypothesis (n / 10) (by omega) (by omega)
      cases digits : Nat.toDigits 10 (n / 10) with
      | nil => exact absurd digits Nat.toDigits_ne_nil
      | cons c rest => simpa [digits] using shorter

theorem isCanonical_toDigits (n : Nat) : isCanonical (Nat.toDigits 10 n) = true := by
  rcases Nat.eq_zero_or_pos n with rfl | positive
  · rw [Nat.toDigits_zero]
    rfl
  · have leading := head?_toDigits_ne_zero positive
    cases digits : Nat.toDigits 10 n with
    | nil => exact absurd digits Nat.toDigits_ne_nil
    | cons c rest =>
      rw [digits] at leading
      refine isCanonical_cons_iff.mpr (Or.inr ⟨by simpa using leading, ?_⟩)
      intro d member
      exact isDigit_of_mem_toDigits (digits ▸ member)

/-- Digits after those of a number spell, together with them, the number that is read. -/
theorem toDigits_ofDigitChars {text : List Char} {acc : Nat} (positive : 0 < acc)
    (digits : ∀ c ∈ text, c.isDigit = true) :
    Nat.toDigits 10 (Nat.ofDigitChars 10 text acc) = Nat.toDigits 10 acc ++ text := by
  induction text generalizing acc with
  | nil => simp
  | cons c rest inductionHypothesis =>
    obtain ⟨d, small, rfl⟩ := exists_digitChar (digits c (by simp))
    have tail : ∀ e ∈ rest, e.isDigit = true := fun e member =>
      digits e (List.mem_cons_of_mem _ member)
    rw [Nat.ofDigitChars_cons_digitChar_of_lt_ten small, inductionHypothesis (by omega) tail,
      ← Nat.toDigits_append_toDigits (by omega) positive small, Nat.toDigits_of_lt_base small,
      List.append_assoc]
    rfl

theorem isCanonical_iff {text : List Char} :
    isCanonical text = true ↔ ∃ n, text = Nat.toDigits 10 n := by
  constructor
  · intro canonical
    cases text with
    | nil => simp [isCanonical] at canonical
    | cons c rest =>
      rcases isCanonical_cons_iff.mp canonical with ⟨rfl, rfl⟩ | ⟨leading, digits⟩
      · exact ⟨0, rfl⟩
      · obtain ⟨d, small, rfl⟩ := exists_digitChar (digits c (by simp))
        have positive : 0 < d := Nat.pos_of_ne_zero (mt Nat.digitChar_eq_zero.mpr leading)
        have tail : ∀ e ∈ rest, e.isDigit = true := fun e member =>
          digits e (List.mem_cons_of_mem _ member)
        refine ⟨Nat.ofDigitChars 10 rest d, ?_⟩
        rw [toDigits_ofDigitChars positive tail, Nat.toDigits_of_lt_base small]
        rfl
  · rintro ⟨n, rfl⟩
    exact isCanonical_toDigits n

/-- The decimal text of a number is read back exactly if it is not too long. -/
theorem readNat?_toDigits (n : Nat) :
    readNat? (Nat.toDigits 10 n) = if n < numberLimit then some n else none := by
  rw [readNat?_of_digits Nat.toDigits_ne_nil fun _ => isDigit_of_mem_toDigits,
    Nat.ofDigitChars_ten_toDigits]
  have short : (Nat.toDigits 10 n).length ≤ digitLimit ↔ n < numberLimit := by
    have positive : 0 < digitLimit := by decide
    unfold numberLimit
    -- The power itself is far too large to be evaluated.
    generalize digitLimit = limit at positive ⊢
    exact Nat.length_toDigits_le_iff (by omega) positive
  simp only [short]

/-- A number of a few digits is below the limit. -/
theorem lt_numberLimit {n : Nat} (digits : Nat) (few : digits ≤ digitLimit)
    (small : n < Nat.pow 10 digits) : n < numberLimit := by
  unfold numberLimit
  generalize digitLimit = limit at few
  exact Nat.lt_of_lt_of_le small (Nat.pow_le_pow_right (by omega) few)

theorem numberLimit_pos : 0 < numberLimit := lt_numberLimit 0 (by decide) (by decide)

theorem newline_notMem_toDigits (n : Nat) : '\n' ∉ Nat.toDigits 10 n := by
  intro member
  have digit := isDigit_of_mem_toDigits member
  simp [Char.isDigit] at digit

theorem chopNewline_of_notMem {text : List Char} (single : '\n' ∉ text) :
    chopNewline text = text := by
  unfold chopNewline
  split
  · rename_i last
    exact absurd (List.mem_of_getLast? last) single
  · rfl

theorem chopNewline_append {text rest : List Char} (nonempty : rest ≠ []) :
    chopNewline (text ++ rest) = text ++ chopNewline rest := by
  unfold chopNewline
  rw [List.getLast?_append, List.getLast?_eq_some_getLast nonempty, Option.some_or]
  split
  · exact List.dropLast_append_of_ne_nil nonempty
  · rfl

/-- Without newlines a suffix spells an index exactly if it is a decimal text. -/
theorem isIndex_iff {text : List Char} (single : '\n' ∉ text) :
    isIndex text = true ↔ ∃ n, text = Nat.toDigits 10 n := by
  rw [isIndex, chopNewline_of_notMem single, isCanonical_iff]

theorem underscore_notMem_of_isIndex {text : List Char} (index : isIndex text = true) :
    '_' ∉ text := by
  obtain ⟨n, digits⟩ := isCanonical_iff.mp index
  have spelled : '_' ∉ chopNewline text := by
    rw [digits]
    intro member
    exact absurd (isDigit_of_mem_toDigits member) (by decide)
  unfold chopNewline at spelled
  split at spelled
  · rename_i last
    obtain ⟨initial, rfl⟩ := List.getLast?_eq_some_iff.mp last
    simpa using spelled
  · exact spelled

/-- The shortest kind of index that cannot be read. -/
def longIndex : String := String.ofList (List.replicate (digitLimit + 1) '1')

theorem toList_longIndex : longIndex.toList = '1' :: List.replicate digitLimit '1' := by
  rw [longIndex, String.toList_ofList, List.replicate_succ]

theorem isDigit_of_mem_longIndex {c : Char} (member : c ∈ longIndex.toList) :
    c.isDigit = true := by
  rw [longIndex, String.toList_ofList] at member
  rw [List.eq_of_mem_replicate member]
  rfl

theorem newline_notMem_longIndex : '\n' ∉ longIndex.toList := by
  intro member
  exact absurd (isDigit_of_mem_longIndex member) (by decide)

theorem isIndex_longIndex : isIndex longIndex.toList = true := by
  rw [isIndex, chopNewline_of_notMem newline_notMem_longIndex, toList_longIndex]
  refine isCanonical_cons_iff.mpr (Or.inr ⟨by decide, ?_⟩)
  rw [← toList_longIndex]
  exact fun c => isDigit_of_mem_longIndex

theorem readNat?_longIndex : readNat? longIndex.toList = none := by
  have nonempty : longIndex.toList ≠ [] := by
    rw [toList_longIndex]
    simp
  have tooLong : ¬ longIndex.toList.length ≤ digitLimit := by
    rw [toList_longIndex, List.length_cons, List.length_replicate]
    omega
  rw [readNat?_of_digits nonempty fun c => isDigit_of_mem_longIndex, if_neg tooLong]

/-- No number that can be written has it as its decimal text. -/
theorem longIndex_ne_toDigits {n : Nat} (short : n < numberLimit) :
    longIndex.toList ≠ Nat.toDigits 10 n := by
  intro equality
  have read := readNat?_toDigits n
  rw [if_pos short, ← equality, readNat?_longIndex] at read
  exact nomatch read

end Shell.Text

namespace Shell

theorem spell_of_lt {n : Int} (short : n.natAbs < Text.numberLimit) :
    spell n = .ok (toString n) := by
  rw [spell, Text.decimal?, if_pos short]

theorem spell_of_le {n : Int} (long : Text.numberLimit ≤ n.natAbs) :
    spell n = .error .numberTooLong := by
  rw [spell, Text.decimal?, if_neg (by omega)]

/-- A number cannot be spelled exactly if it has too many digits. -/
theorem spell_eq_error_iff {n : Int} {fault : Fault} :
    spell n = .error fault ↔ Text.numberLimit ≤ n.natAbs ∧ fault = .numberTooLong := by
  rcases Nat.lt_or_ge n.natAbs Text.numberLimit with short | long
  · rw [spell_of_lt short]
    exact iff_of_false nofun fun spelled => absurd spelled.1 (by omega)
  · rw [spell_of_le long, and_iff_right long]
    exact ⟨fun same => (Except.error.inj same).symm, congrArg Except.error ∘ Eq.symm⟩

end Shell
