import Shell.Proofs.Regex.Sets

/-!
# Sets that are written member by member

A set is written as code points and ranges, one after the other. A code point is spelled by
its character or behind a backslash. Reading the text gives back the members, because none of
them begins with what would end the set, or make a range of the member before it.
-/

namespace Shell.Regex

/-- A code point as it is spelled in a set, at any place but behind the opening bracket. -/
structure Spelling where
  text : List Char
  code : Nat
  reads : ∀ rest, item? (text ++ rest) = some (.code code, rest)
  begins : ∃ first tail, text = first :: tail ∧ first ≠ ']' ∧ first ≠ '-'

namespace Spelling

/-- A character that stands for itself. -/
def ofChar (c : Char) (plain : c ≠ '\\' ∧ c ≠ ']' ∧ c ≠ '-') : Spelling where
  text := [c]
  code := c.toNat
  reads rest := by
    change item? (c :: rest) = _
    unfold item?
    split <;> simp_all
  begins := ⟨c, [], rfl, plain.2⟩

/-- A code point behind a backslash. -/
def escaped (c : Char) (digits : List Char) (code : Nat)
    (reads : ∀ rest, escape? c (digits ++ rest) = some (.code code, rest)) : Spelling where
  text := '\\' :: c :: digits
  code := code
  reads := reads
  begins := ⟨'\\', c :: digits, rfl, by decide⟩

theorem begins_append (spelling : Spelling) (rest : List Char) :
    ∃ first tail, spelling.text ++ rest = first :: tail ∧ first ≠ ']' ∧ first ≠ '-' := by
  obtain ⟨first, tail, text, ordinary⟩ := spelling.begins
  exact ⟨first, tail ++ rest, by rw [text, List.cons_append], ordinary⟩

end Spelling

/-- A member as it is written in a set: a code point, or two with a hyphen between them. -/
inductive Part
  | one (spelling : Spelling)
  | range (low high : Spelling) (ascending : low.code ≤ high.code)

namespace Part

def text : Part → List Char
  | one spelling => spelling.text
  | range low high _ => low.text ++ '-' :: high.text

def item : Part → Item
  | one spelling => .code spelling.code
  | range low high _ => .range low.code high.code

/-- What a member begins with. -/
def first : Part → Spelling
  | one spelling => spelling
  | range low _ _ => low

theorem text_eq (part : Part) : ∃ rest, part.text = part.first.text ++ rest := by
  cases part with
  | one spelling => exact ⟨[], (List.append_nil _).symm⟩
  | range low high ascending => exact ⟨'-' :: high.text, rfl⟩

theorem begins (part : Part) :
    ∃ first tail, part.text = first :: tail ∧ first ≠ ']' ∧ first ≠ '-' := by
  obtain ⟨rest, text⟩ := part.text_eq
  rw [text]
  exact part.first.begins_append rest

end Part

/-- The text of several members. -/
def partsText (parts : List Part) : List Char := parts.flatMap Part.text

theorem partsText_cons (part : Part) (parts : List Part) :
    partsText (part :: parts) = part.text ++ partsText parts := List.flatMap_cons

theorem partsText_append (first second : List Part) :
    partsText (first ++ second) = partsText first ++ partsText second := List.flatMap_append

theorem partsText_eq_nil_iff {parts : List Part} : partsText parts = [] ↔ parts = [] := by
  cases parts with
  | nil => exact iff_of_true rfl rfl
  | cons part parts =>
    obtain ⟨first, tail, text, -⟩ := part.begins
    simp [partsText_cons, text]

theorem length_le_partsText (parts : List Part) : parts.length ≤ (partsText parts).length := by
  induction parts with
  | nil => exact Nat.le_refl 0
  | cons part parts inductionHypothesis =>
    obtain ⟨first, tail, text, -⟩ := part.begins
    rw [partsText_cons, text, List.length_append, List.length_cons, List.length_cons]
    omega

/-- Behind a member comes another, or the bracket that closes the set. -/
theorem partsText_head (parts : List Part) (rest : List Char) :
    (partsText parts ++ ']' :: rest).head? ≠ some '-' := by
  cases parts with
  | nil => simp [partsText]
  | cons part parts =>
    obtain ⟨first, tail, text, -, ordinary⟩ := part.begins
    simpa [partsText_cons, text] using ordinary

section Reading

variable {fuel : Nat} {items : List Item} {rest : List Char}

theorem closes_part (part : Part) : closes items (part.text ++ rest) = false := by
  obtain ⟨first, tail, text, ordinary, -⟩ := part.begins
  simp [closes, text, ordinary]

/-- One member is read, wherever no hyphen follows it. -/
theorem items?_part (part : Part) (apart : rest.head? ≠ some '-') :
    items? (fuel + 1) items (part.text ++ rest) = items? fuel (items ++ [part.item]) rest := by
  have unclosed : closes items (part.text ++ rest) = false := closes_part part
  cases part with
  | one spelling => exact items?_eq_of_item unclosed (spelling.reads rest) apart
  | range low high ascending =>
    have inner : (high.text ++ rest).head? ≠ some ']' := by
      obtain ⟨first, tail, text, ordinary, -⟩ := high.begins_append rest
      simpa [text] using ordinary
    rw [Part.text, List.append_assoc, List.cons_append] at unclosed ⊢
    rw [items?_eq_of_range unclosed (low.reads _) inner, high.reads, Option.bind_some]
    simp only [range?, ascending, if_true, Option.bind_some]
    rfl

theorem items?_parts {parts : List Part} (rest : List Char) (enough : parts.length < fuel)
    (some : items ≠ [] ∨ parts ≠ []) :
    items? fuel items (partsText parts ++ ']' :: rest) =
      .some (items ++ parts.map Part.item, rest) := by
  induction parts generalizing fuel items with
  | nil =>
    obtain ⟨fuel, rfl⟩ : ∃ less, fuel = less + 1 := ⟨fuel - 1, by omega⟩
    have nonempty : items ≠ [] := by simpa using some
    simp [items?, closes, nonempty, partsText]
  | cons part parts inductionHypothesis =>
    obtain ⟨fuel, rfl⟩ : ∃ less, fuel = less + 1 := ⟨fuel - 1, by omega⟩
    rw [List.length_cons] at enough
    rw [partsText_cons, List.append_assoc, items?_part part (partsText_head parts rest),
      inductionHypothesis (by omega) (.inl (by simp)), List.append_assoc]
    rfl

/-- The members of a set are read up to its closing bracket. Without the mark of the complement in
front, they must not begin with it. -/
theorem bracket?_parts {parts : List Part} (nonempty : parts ≠ []) {negated : Bool}
    (unmarked : negated = false → (partsText parts).head? ≠ some '^') (rest : List Char) :
    bracket? ((if negated then ['^'] else []) ++ (partsText parts ++ ']' :: rest)) =
      some (ofItems negated (parts.map Part.item).eraseDups, rest) := by
  have whole : items? ((partsText parts ++ ']' :: rest).length + 1) []
      (partsText parts ++ ']' :: rest) = some (parts.map Part.item, rest) := by
    have most := length_le_partsText parts
    refine items?_parts rest ?_ (.inr nonempty)
    rw [List.length_append]
    omega
  unfold bracket?
  cases negated with
  | true =>
    simp only [if_true, List.singleton_append, List.head?_cons, List.tail_cons, beq_self_eq_true]
    rw [whole]
    rfl
  | false =>
    have head : ((partsText parts ++ ']' :: rest).head? == some '^') = false := by
      obtain ⟨first, tail, text⟩ :=
        List.exists_cons_of_ne_nil (mt partsText_eq_nil_iff.mp nonempty)
      have ordinary := unmarked rfl
      rw [text] at ordinary ⊢
      simpa using ordinary
    simp only [Bool.false_eq_true, if_false, List.nil_append, head]
    rw [whole]
    rfl

end Reading

end Shell.Regex
