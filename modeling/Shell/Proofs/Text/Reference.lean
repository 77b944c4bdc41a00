import Shell.Text.Name

/-!
# The texts of references

A name with a subscript behind it in brackets is read as the reference to that
element. It is never a name itself, and a name is never read as a reference.
-/

namespace Shell

namespace Text

theorem isNameChar_of_isNameStart {c : Char} (start : isNameStart c = true) :
    isNameChar c = true := by
  simp only [isNameStart, isNameChar, Char.isAlphanum, Bool.or_eq_true] at start ⊢
  rcases start with letter | underscore
  · exact Or.inl (Or.inl letter)
  · exact Or.inr underscore

theorem toNat_lt_of_isAlphanum {c : Char} (plain : c.isAlphanum = true) : c.toNat < 128 := by
  delta Char.isAlphanum Char.isAlpha Char.isUpper Char.isLower Char.isDigit at plain
  simp only [Bool.or_eq_true, Bool.and_eq_true, decide_eq_true_eq, ge_iff_le,
    UInt32.le_iff_toNat_le] at plain
  have capital : 'Z'.val.toNat = 90 := rfl
  have small : 'z'.val.toNat = 122 := rfl
  have digit : '9'.val.toNat = 57 := rfl
  have same : c.val.toNat = c.toNat := rfl
  omega

theorem toNat_lt_of_isNameChar {c : Char} (named : isNameChar c = true) : c.toNat < 128 := by
  unfold isNameChar at named
  rcases Bool.or_eq_true_iff.mp named with plain | underscore
  · exact toNat_lt_of_isAlphanum plain
  · rw [of_decide_eq_true underscore]
    decide

/-- Every character of an identifier may continue a name. -/
theorem isNameChar_of_mem {text : List Char} (identifier : isIdentifier text = true) {c : Char}
    (member : c ∈ text) : isNameChar c = true := by
  cases text with
  | nil => exact absurd member List.not_mem_nil
  | cons first rest =>
    rw [isIdentifier, Bool.and_eq_true, List.all_eq_true] at identifier
    rcases List.mem_cons.mp member with rfl | inRest
    · exact isNameChar_of_isNameStart identifier.1
    · exact identifier.2 c inRest

/-- Texts that may continue a name can be appended to an identifier, and no others. -/
theorem isIdentifier_append_iff {text rest : List Char} (nonempty : text ≠ []) :
    isIdentifier (text ++ rest) = true ↔
      isIdentifier text = true ∧ ∀ c ∈ rest, isNameChar c = true := by
  cases text with
  | nil => contradiction
  | cons first text => simp [isIdentifier, and_assoc]

theorem newline_notMem_of_isIdentifier {text : List Char} (identifier : isIdentifier text = true) :
    '\n' ∉ text := by
  intro newline
  exact absurd (isNameChar_of_mem identifier newline) (by decide)

theorem chopNewline_of_isIdentifier {text : List Char} (identifier : isIdentifier text = true) :
    chopNewline text = text := by
  have single : text.getLast? ≠ some '\n' := by
    intro last
    exact newline_notMem_of_isIdentifier identifier (List.mem_of_getLast? last)
  rw [chopNewline, if_neg single]

theorem isName_of_isIdentifier {text : List Char} (identifier : isIdentifier text = true) :
    isName text = true := by
  rw [isName, chopNewline_of_isIdentifier identifier]
  exact identifier

/-- Dividing a text where the characters of a name end. -/
theorem span_identifier {text : List Char} (identifier : isIdentifier text = true) {c : Char}
    (other : isNameChar c = false) (rest : List Char) :
    (text ++ c :: rest).takeWhile isNameChar = text ∧
      (text ++ c :: rest).dropWhile isNameChar = c :: rest := by
  have all : ∀ d ∈ text, isNameChar d = true := fun d => isNameChar_of_mem identifier
  constructor
  · rw [List.takeWhile_append_of_pos all, List.takeWhile_cons, other]
    simp
  · rw [List.dropWhile_append_of_pos all, List.dropWhile_cons, other]
    simp

end Text

namespace Reference

open Text

/-- The text of a reference. -/
def text (reference : Reference) : String :=
  reference.array ++ "[" ++ reference.subscript ++ "]"

@[simp]
theorem toList_text (reference : Reference) :
    reference.text.toList =
      reference.array.toList ++ '[' :: (reference.subscript.toList ++ [']']) := by
  simp [text]

/-- A text of which every character may continue a name is no reference. -/
theorem parse?_of_forall {name : String} (all : ∀ c ∈ name.toList, isNameChar c = true) :
    parse? name = none := by
  have rest : name.toList.dropWhile isNameChar = [] := by
    rw [← List.append_nil name.toList, List.dropWhile_append_of_pos all, List.dropWhile_nil]
  rw [parse?, rest]

theorem parse?_of_isIdentifier {name : String} (identifier : isIdentifier name.toList = true) :
    parse? name = none :=
  parse?_of_forall fun _ => isNameChar_of_mem identifier

/-- The array that a reference is to is named by an identifier. -/
theorem isIdentifier_of_parse? {name : String} {reference : Reference}
    (parsed : parse? name = some reference) : isIdentifier reference.array.toList = true := by
  unfold parse? at parsed
  dsimp only at parsed
  split at parsed
  · split at parsed
    · rename_i identifier
      obtain ⟨subscript, -, rfl⟩ := Option.map_eq_some_iff.mp parsed
      simpa using identifier
    · contradiction
  · contradiction

/-- Everything between the brackets is the subscript, whatever it holds. -/
theorem subscript?_append {subscript : List Char} (nonempty : subscript ≠ []) :
    subscript? (subscript ++ [']']) = some subscript := by
  have whole : chopNewline (subscript ++ [']']) = subscript ++ [']'] := by
    simp [chopNewline]
  rw [subscript?, whole]
  simp [nonempty]

theorem parse?_text {reference : Reference}
    (identifier : isIdentifier reference.array.toList = true)
    (nonempty : reference.subscript ≠ "") : parse? reference.text = some reference := by
  obtain ⟨base, rest⟩ := span_identifier identifier (show isNameChar '[' = false by decide)
    (reference.subscript.toList ++ [']'])
  have some : reference.subscript.toList ≠ [] := by
    intro empty
    exact nonempty (String.toList_inj.mp empty)
  unfold parse?
  rw [toList_text, base, rest]
  change (if isIdentifier reference.array.toList = true then _ else none) = _
  rw [if_pos identifier, subscript?_append some, Option.map_some]
  simp

theorem isName_text (reference : Reference) : isName reference.text.toList = false := by
  have last : reference.text.toList.getLast? = .some ']' := by
    rw [toList_text, ← List.cons_append, ← List.append_assoc, List.getLast?_concat]
  have whole : chopNewline reference.text.toList = reference.text.toList := by
    rw [chopNewline, last, if_neg (by decide)]
  rw [isName, whole, Bool.eq_false_iff]
  intro identifier
  have bracket : ']' ∈ reference.text.toList := List.mem_of_getLast? last
  exact absurd (isNameChar_of_mem identifier bracket) (by decide)

end Reference

end Shell
