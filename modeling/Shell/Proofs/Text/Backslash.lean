import Shell.Word.Command

/-!
# Backslashes and the characters they protect

Scanners read a backslash together with the character behind it. A text that ends in
a backslash with nothing behind it is open: what follows it is read differently.
-/

namespace Shell.Text

/-- The text ends in a backslash that no other backslash protects. -/
def endsOpen : List Char → Bool
  | [] => false
  | ['\\'] => true
  | '\\' :: _ :: rest => endsOpen rest
  | _ :: rest => endsOpen rest

@[simp]
theorem endsOpen_escape (c : Char) (rest : List Char) :
    endsOpen ('\\' :: c :: rest) = endsOpen rest := rfl

theorem endsOpen_cons {c : Char} (plain : c ≠ '\\') (rest : List Char) :
    endsOpen (c :: rest) = endsOpen rest := by
  rw [endsOpen]
  · intro same
    exact absurd same plain
  · intro _ _ same
    exact absurd same plain

/-- Induction over a text whose scanner takes a backslash with the character behind it, and from any
other character on as much as it likes. -/
@[elab_as_elim]
theorem headInduction {motive : List Char → Prop} (nil : motive []) (lone : motive ['\\'])
    (escape : ∀ c rest, motive rest → motive ('\\' :: c :: rest))
    (plain : ∀ c rest, c ≠ '\\' → (∀ taken tail, rest = taken ++ tail → motive tail) →
      motive (c :: rest))
    (text : List Char) : motive text := by
  induction size : text.length using Nat.strongRecOn generalizing text with
  | ind size shorter =>
    cases text with
    | nil => exact nil
    | cons c rest =>
      by_cases backslash : c = '\\'
      · subst backslash
        cases rest with
        | nil => exact lone
        | cons d rest =>
          refine escape d rest (shorter _ ?_ rest rfl)
          simp only [← size, List.length_cons]
          omega
      · refine plain c rest backslash fun taken tail same => shorter _ ?_ tail rfl
        simp only [← size, same, List.length_cons, List.length_append]
        omega

/-- Induction over a text whose scanner takes single characters and those behind a backslash. -/
@[elab_as_elim]
theorem scanInduction {motive : List Char → Prop} (nil : motive []) (lone : motive ['\\'])
    (escape : ∀ c rest, motive rest → motive ('\\' :: c :: rest))
    (plain : ∀ c rest, c ≠ '\\' → motive rest → motive (c :: rest))
    (text : List Char) : motive text := by
  induction text using headInduction with
  | nil => exact nil
  | lone => exact lone
  | escape c rest inductionHypothesis => exact escape c rest inductionHypothesis
  | plain c rest backslash inductionHypothesis =>
    exact plain c rest backslash (inductionHypothesis [] rest rfl)

theorem endsOpen_of_not_mem {text : List Char} (absent : '\\' ∉ text) : endsOpen text = false := by
  induction text with
  | nil => rfl
  | cons c rest inductionHypothesis =>
    rw [List.mem_cons, not_or] at absent
    rw [endsOpen_cons (Ne.symm absent.1), inductionHypothesis absent.2]

/-- Behind a text that is not open, the next one is read from its beginning. -/
theorem endsOpen_append {first : List Char} (closed : endsOpen first = false)
    (second : List Char) : endsOpen (first ++ second) = endsOpen second := by
  induction first using scanInduction with
  | nil => rfl
  | lone => exact absurd closed (by decide)
  | escape c rest inductionHypothesis => exact inductionHypothesis closed
  | plain c rest backslash inductionHypothesis =>
    rw [endsOpen_cons backslash] at closed
    rw [List.cons_append, endsOpen_cons backslash, inductionHypothesis closed]

theorem endsOpen_append_of_plain {c : Char} (plain : c ≠ '\\') (first second : List Char) :
    endsOpen (first ++ c :: second) = endsOpen second := by
  induction first using scanInduction with
  | nil => exact endsOpen_cons plain second
  | lone => rfl
  | escape d rest inductionHypothesis => exact inductionHypothesis
  | plain d rest other inductionHypothesis =>
    rw [List.cons_append, endsOpen_cons other, inductionHypothesis]

/-- A text that is open has one backslash behind a text that is not. -/
theorem exists_of_endsOpen {text : List Char} (isOpen : endsOpen text = true) :
    ∃ front, text = front ++ ['\\'] ∧ endsOpen front = false := by
  induction text using scanInduction with
  | nil => contradiction
  | lone => exact ⟨[], rfl, rfl⟩
  | escape c rest inductionHypothesis =>
    obtain ⟨front, rfl, closed⟩ := inductionHypothesis isOpen
    exact ⟨'\\' :: c :: front, rfl, closed⟩
  | plain c rest plain inductionHypothesis =>
    rw [endsOpen_cons plain] at isOpen
    obtain ⟨front, rfl, closed⟩ := inductionHypothesis isOpen
    exact ⟨c :: front, rfl, by rw [endsOpen_cons plain, closed]⟩

end Shell.Text
