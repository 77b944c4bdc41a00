import Mathlib.Data.List.Basic
import Shell.Proofs.Field.Layout

/-!
# What is known of the end of a text that was split

Whoever joins fields to neighbouring text asks whether a separator ends the text that was split.
The answer is about the text behind the division that opens it. So it is right for every text
but one that this division takes up as a whole, with its mark.
-/

namespace Shell.Field

variable {ifs text : List Char}

section Opening

theorem dropDivision_eq_of_text (division : Division ifs) :
    dropDivision ifs division.text = [] := by
  have gone : ∀ {blanks : List Char}, (∀ c ∈ blanks, isBlankSeparator ifs c = true) →
      dropBlanks ifs blanks = [] := fun blank => List.dropWhile_eq_nil_iff.mpr blank
  cases marked : division.mark with
  | none =>
    rw [division.text_of_unmarked marked, dropDivision, gone division.blank_before]
    rfl
  | some mark =>
    have isMark := division.isMark_mark mark marked
    have front : dropBlanks ifs division.text = mark :: division.after := by
      rw [division.text_of_marked marked, dropBlanks,
        List.dropWhile_append_of_pos division.blank_before]
      exact dropBlanks_cons (by simp [isBlankSeparator_of_mark isMark])
    rw [dropDivision, front, dropMark, if_pos isMark, gone division.blank_after]

/-- A text is the division that opens it, and what is left behind that. -/
theorem exists_division (ifs text : List Char) :
    ∃ division : Division ifs, text = division.text ++ dropDivision ifs text := by
  induction text with
  | nil => exact ⟨.empty ifs, rfl⟩
  | cons c rest inductionHypothesis =>
    by_cases blank : isBlankSeparator ifs c = true
    · obtain ⟨division, whole⟩ := inductionHypothesis
      refine ⟨division.cons blank, ?_⟩
      rw [dropDivision_cons_blank blank]
      exact congrArg (List.cons c) whole
    · by_cases mark : isMark ifs c = true
      · have blanks : ∀ d ∈ rest.takeWhile (isBlankSeparator ifs), isBlankSeparator ifs d = true :=
          fun _ => List.mem_takeWhile_imp
        refine ⟨.ofMark mark blanks, ?_⟩
        rw [dropDivision_cons_mark mark]
        exact congrArg (List.cons c) List.takeWhile_append_dropWhile.symm
      · refine ⟨.empty ifs, ?_⟩
        rw [dropDivision_cons_plain blank mark]
        rfl

theorem dropDivision_eq_nil_iff :
    dropDivision ifs text = [] ↔ ∃ division : Division ifs, text = division.text := by
  constructor
  · intro none
    obtain ⟨division, whole⟩ := exists_division ifs text
    rw [none, List.append_nil] at whole
    exact ⟨division, whole⟩
  · rintro ⟨division, rfl⟩
    exact dropDivision_eq_of_text division

/-- Where something is left behind the division that opens a text, it ends as the text does. -/
theorem getLast?_dropDivision (left : dropDivision ifs text ≠ []) :
    (dropDivision ifs text).getLast? = text.getLast? := by
  obtain ⟨division, whole⟩ := exists_division ifs text
  calc (dropDivision ifs text).getLast?
      = (division.text ++ dropDivision ifs text).getLast? :=
        (List.getLast?_append_of_ne_nil _ left).symm
    _ = text.getLast? := by rw [← whole]

theorem afterOpening_eq_dropDivision (ifs text : List Char) :
    afterOpening ifs text = dropDivision ifs text := by
  unfold afterOpening dropDivision
  rw [← dropBlanks]
  cases behind : dropBlanks ifs text with
  | nil => rfl
  | cons c rest =>
    have first : isBlankSeparator ifs c = false := by
      have head := List.head?_dropWhile_not (isBlankSeparator ifs) text
      rw [← dropBlanks, behind] at head
      simpa using head
    dsimp only
    rw [dropMark]
    split
    · rfl
    · exact (dropBlanks_cons (by simp [first])).symm

end Opening

/-- The text is one mark, with nothing but blanks around it. -/
def IsLoneMark (ifs text : List Char) : Prop :=
  ∃ division : Division ifs, division.mark.isSome = true ∧ text = division.text

/-- The last character of the text separates fields. -/
def EndsInSeparator (ifs text : List Char) : Prop := ∃ last ∈ text.getLast?, last ∈ ifs

theorem endsInSeparator_iff :
    EndsInSeparator ifs text ↔ text.getLast?.any ifs.contains = true := by
  simp [EndsInSeparator, Option.any_eq_true]

theorem endsInSeparator_text {division : Division ifs} (nonempty : division.text ≠ []) :
    EndsInSeparator ifs division.text :=
  ⟨_, List.getLast?_eq_some_getLast nonempty, division.mem_ifs (List.getLast_mem nonempty)⟩

/-- A text with a mark is not all blanks. -/
theorem not_all_blank_of_marked {division : Division ifs} {mark : Char}
    (marked : division.mark = some mark) : division.text.all (isBlankSeparator ifs) = false := by
  have other := isBlankSeparator_of_mark (division.isMark_mark mark marked)
  exact List.all_eq_false.mpr ⟨mark, by simp [division.text_of_marked marked], by simp [other]⟩

theorem IsLoneMark.endsInSeparator (lone : IsLoneMark ifs text) : EndsInSeparator ifs text := by
  obtain ⟨division, isMarked, rfl⟩ := lone
  obtain ⟨mark, marked⟩ := Option.isSome_iff_exists.mp isMarked
  exact endsInSeparator_text (by simp [division.text_of_marked marked])

/-- A text is said to close with a division if it ends in a separator and is no lone mark. -/
theorem closesWithDivision_iff :
    closesWithDivision ifs text = true ↔ EndsInSeparator ifs text ∧ ¬ IsLoneMark ifs text := by
  unfold closesWithDivision
  rw [afterOpening_eq_dropDivision]
  by_cases whole : dropDivision ifs text = []
  · obtain ⟨division, rfl⟩ := dropDivision_eq_nil_iff.mp whole
    rw [whole, List.getLast?_nil, Option.any_none, Bool.or_false]
    cases marked : division.mark with
    | none =>
      have blank : division.text.all (isBlankSeparator ifs) = true := by
        rw [division.text_of_unmarked marked]
        exact List.all_eq_true.mpr division.blank_before
      have unmarked : ¬ IsLoneMark ifs division.text := by
        rintro ⟨other, isMarked, same⟩
        obtain ⟨mark, marked⟩ := Option.isSome_iff_exists.mp isMarked
        rw [same, not_all_blank_of_marked marked] at blank
        contradiction
      rw [blank, Bool.and_true, and_iff_left unmarked]
      by_cases nonempty : division.text = []
      · simp [nonempty, EndsInSeparator]
      · exact iff_of_true (by simpa using nonempty) (endsInSeparator_text nonempty)
    | some mark =>
      have lone : IsLoneMark ifs division.text := ⟨division, by simp [marked], rfl⟩
      rw [not_all_blank_of_marked marked, Bool.and_false]
      exact iff_of_false Bool.false_ne_true fun claimed => claimed.2 lone
  · have left : ¬ IsLoneMark ifs text := by
      rintro ⟨division, -, same⟩
      exact whole (dropDivision_eq_nil_iff.mpr ⟨division, same⟩)
    have some : text.all (isBlankSeparator ifs) = false := by
      by_contra all
      have blank : ∀ c ∈ text, isBlankSeparator ifs c = true := by simpa using all
      have gone : dropBlanks ifs text = [] := List.dropWhile_eq_nil_iff.mpr blank
      exact whole (by rw [dropDivision, gone]; rfl)
    rw [some, Bool.and_false, Bool.false_or, getLast?_dropDivision whole, ← endsInSeparator_iff,
      and_iff_left left]

/-- The hint about the end of a text is right, whether a separator ends the text or not, unless the
text is one mark, with nothing but blanks around it. -/
theorem trailing_exact_iff (ifs value : List Char) :
    ((splitEdges ifs value).trailing = true ↔ ∃ last ∈ value.getLast?, last ∈ ifs) ↔
      ¬ IsLoneMark ifs value := by
  change (closesWithDivision ifs value = true ↔ EndsInSeparator ifs value) ↔ _
  rw [closesWithDivision_iff, and_iff_left_iff_imp]
  exact ⟨fun right lone => right lone.endsInSeparator lone, fun other _ => other⟩

/-- A mark alone separates an empty field from what follows, and no hint says so. -/
theorem lone_mark_has_no_hint :
    splitEdges [':'] [':'] = ⟨[[]], false, false⟩ ∧
      ¬ ∀ ifs value : List Char, ifs ≠ [] → value ≠ [] →
        ((splitEdges ifs value).trailing = true ↔ ∃ last ∈ value.getLast?, last ∈ ifs) := by
  refine ⟨by decide, fun right => ?_⟩
  have hint := (right [':'] [':'] (by decide) (by decide)).mpr ⟨':', rfl, by decide⟩
  exact absurd hint (by decide)

end Shell.Field
