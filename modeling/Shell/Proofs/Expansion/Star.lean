import Shell.Expansion.Field

/-!
# All elements as one text, and each on its own

For a star, the elements of an unquoted array are joined and the whole is split; otherwise each
is split on its own. Where all separators are blanks, a blank in a text divides it into two that
are split on their own, so the joiner adds no field and hides none, and both ways come to the
same fields.
-/

namespace Shell

namespace Field

variable {ifs : List Char} (blankOnly : ∀ c ∈ ifs, isLayout c = true)

include blankOnly

theorem isMark_of_blankOnly (c : Char) : isMark ifs c = false := by
  by_cases separates : c ∈ ifs
  · simp [isMark, blankOnly c separates]
  · simp [isMark, separates]

/-- Without marks there is nothing that a division still waits for. -/
theorem fieldsFrom_gap (text : List Char) :
    fieldsFrom ifs .gap text = fieldsFrom ifs .fresh text := by
  induction text with
  | nil => rfl
  | cons c rest inductionHypothesis =>
    simp only [fieldsFrom, isMark_of_blankOnly blankOnly c, inductionHypothesis, Bool.false_eq_true,
      if_false]

/-- Wherever the pass stands, a blank ends what it has begun, and what follows is split anew. -/
theorem fieldsFrom_append_blank {blank : Char} (separates : blank ∈ ifs) (place : Place)
    (text rest : List Char) :
    fieldsFrom ifs place (text ++ blank :: rest) =
      fieldsFrom ifs place text ++ fieldsFrom ifs .fresh rest := by
  have isBlank : isBlankSeparator ifs blank = true := by
    simp [isBlankSeparator, separates, blankOnly blank separates]
  induction text generalizing place with
  | nil =>
    cases place <;> simp [fieldsFrom, isBlank, fieldsFrom_gap blankOnly]
  | cons c text inductionHypothesis =>
    cases place <;> cases blank : isBlankSeparator ifs c <;>
      simp [fieldsFrom, blank, isMark_of_blankOnly blankOnly c, inductionHypothesis]

theorem split_append_blank {blank : Char} (separates : blank ∈ ifs) (text rest : List Char) :
    split ifs (text ++ blank :: rest) = split ifs text ++ split ifs rest := by
  have some : ifs.isEmpty = false := by
    rw [List.isEmpty_eq_false_iff]
    exact List.ne_nil_of_mem separates
  simp only [split, some, Bool.false_eq_true, if_false]
  exact fieldsFrom_append_blank blankOnly separates .fresh text rest

/-- Texts with a blank between each two have the fields of each of them. -/
theorem split_intercalate {blank : Char} (separates : blank ∈ ifs) {texts : List (List Char)}
    (nonempty : texts ≠ []) :
    split ifs ([blank].intercalate texts) = texts.flatMap (split ifs) := by
  induction texts with
  | nil => exact absurd rfl nonempty
  | cons text texts inductionHypothesis =>
    cases texts with
    | nil => simp
    | cons next texts =>
      rw [List.intercalate_cons_cons, List.append_assoc, List.singleton_append,
        split_append_blank blankOnly separates, List.flatMap_cons,
        inductionHypothesis (List.cons_ne_nil _ _)]

end Field

namespace State

variable {state : State}

/-- What joins the elements for a star is one of the separators. -/
theorem exists_joiner (enabled : Field.isDisabled state.separatorSetting = false) :
    ∃ blank ∈ (Field.separators state.separatorSetting).toList,
      (Field.joiner state.separatorSetting).toList = [blank] := by
  cases setting : state.separatorSetting with
  | none => exact ⟨' ', by decide, by decide⟩
  | some ifs =>
    have nonempty : ifs.toList ≠ [] := by simpa [setting, Field.isDisabled] using enabled
    obtain ⟨first, rest, chars⟩ := List.exists_cons_of_ne_nil nonempty
    exact ⟨first, by simp [Field.separators, chars], by simp [Field.joiner, chars]⟩

/-- Splitting the elements as one text, or each on its own. -/
theorem splitValues_star (blankOnly : Field.isBlankOnly state.separatorSetting = true)
    (enabled : Field.isDisabled state.separatorSetting = false) (values : List String) :
    state.splitValues true values = state.splitValues false values := by
  by_cases none : values = []
  · rw [none]
    rfl
  have blankOnly : ∀ c ∈ (Field.separators state.separatorSetting).toList,
      Field.isLayout c = true :=
    List.all_eq_true.mp blankOnly
  obtain ⟨blank, separates, joiner⟩ := exists_joiner enabled
  have some : values.isEmpty = false := List.isEmpty_eq_false_iff.mpr none
  simp only [splitValues, some, Bool.false_eq_true, if_false, if_true]
  calc state.splitValue ((Field.joiner state.separatorSetting).intercalate values)
      = (Field.split (Field.separators state.separatorSetting).toList
          ([blank].intercalate (values.map String.toList))).map String.ofList := by
        rw [splitValue, Field.splitText, String.toList_intercalate, joiner]
    _ = ((values.map String.toList).flatMap
          (Field.split (Field.separators state.separatorSetting).toList)).map String.ofList := by
        rw [Field.split_intercalate blankOnly separates (by simpa using none)]
    _ = values.flatMap state.splitValue := by
        rw [List.flatMap_map, List.map_flatMap]
        rfl

/-- Where the separators are unset or are blanks, of which there is at least one, a star expands an
array, the positional parameters, the keys of an array and the names with a head to the fields that
they expand to without one, or to the same error. -/
theorem star_expands_alike (blankOnly : state.separatorSetting = none ∨
      ∃ ifs, state.separatorSetting = some ifs ∧ ifs ≠ "" ∧
        ∀ c ∈ ifs.toList, c = ' ' ∨ c = '\t' ∨ c = '\n') :
    (∀ name operation, state.expandArray name true operation =
        state.expandArray name false operation) ∧
      (∀ operation, state.expandPositional true operation =
        state.expandPositional false operation) ∧
      (∀ name, state.expandKeys name true = state.expandKeys name false) ∧
      ∀ head, state.expandNames head true = state.expandNames head false := by
  have blanks : Field.isBlankOnly state.separatorSetting = true ∧
      Field.isDisabled state.separatorSetting = false := by
    rcases blankOnly with unset | ⟨ifs, set, nonempty, blank⟩
    · rw [unset]
      exact ⟨by decide, by decide⟩
    · rw [set]
      refine ⟨List.all_eq_true.mpr fun c member => ?_, by simpa [Field.isDisabled] using nonempty⟩
      simpa [Field.isLayout, or_assoc] using blank c member
  have alike : ∀ values, state.splitValues true values = state.splitValues false values :=
    splitValues_star blanks.1 blanks.2
  refine ⟨fun name operation => ?_, fun operation => ?_, fun name => ?_, fun head => ?_⟩
  · simp only [expandArray, alike]
  · simp only [expandPositional, alike]
  · simp only [expandKeys, alike]
  · have same : state.splitValues true = state.splitValues false := funext alike
    simp only [expandNames, same]

/-- Separators other than those in force when none are set, and elements that begin or end with one,
or with a layout character that is none. -/
def tabbedArray : State :=
  { store := (((({} : Store).put "IFS" "\t ").put "x_0" "a\t").put "x_3" "").put "x_7" " b\nc d" }

theorem tabbedArray_expands_alike :
    tabbedArray.separatorSetting = some "\t " ∧
      tabbedArray.readElements "x" =
        pure [(.index 0, "a\t"), (.index 3, ""), (.index 7, " b\nc d")] ∧
      tabbedArray.splitValues true ["a\t", "", " b\nc d"] = ["a", "b\nc", "d"] ∧
      ∀ operation, tabbedArray.expandArray "x" true operation =
        tabbedArray.expandArray "x" false operation := by
  have setting : tabbedArray.separatorSetting = some "\t " := rfl
  exact ⟨setting, rfl, by decide,
    (star_expands_alike (.inr ⟨_, setting, by decide, by simp⟩)).1 "x"⟩

end State

end Shell
