import Mathlib.Data.List.TakeWhile
import Shell.Field.Split

/-!
# The grammar of fields

A text is blanks, and then fields with a division behind each: a division is blanks,
at most one mark, and blanks again. The pass over the text keeps to this one rule at
its beginning, at its end and where divisions stand side by side, so that the fields
hold every character of the text but the separators.
-/

namespace Shell.Field

variable {ifs : List Char}

/-- The character belongs to a field. -/
def isPlain (ifs : List Char) (c : Char) : Bool := !ifs.contains c

/-- The text behind the blanks that it begins with. -/
def dropBlanks (ifs text : List Char) : List Char := text.dropWhile (isBlankSeparator ifs)

/-- The text behind the mark that it begins with, if it begins with one. -/
def dropMark (ifs : List Char) : List Char → List Char
  | [] => []
  | c :: rest => if isMark ifs c then rest else c :: rest

/-- The text behind the division that it begins with: blanks, at most one mark, and blanks. -/
def dropDivision (ifs text : List Char) : List Char :=
  dropBlanks ifs (dropMark ifs (dropBlanks ifs text))

section Kinds

variable {c : Char}

theorem isPlain_iff : isPlain ifs c = true ↔ c ∉ ifs := by
  simp [isPlain]

theorem isPlain_of_blank (blank : isBlankSeparator ifs c = true) : isPlain ifs c = false := by
  simp_all [isPlain, isBlankSeparator]

theorem isPlain_of_mark (mark : isMark ifs c = true) : isPlain ifs c = false := by
  simp_all [isPlain, isMark]

theorem isBlankSeparator_of_mark (mark : isMark ifs c = true) : isBlankSeparator ifs c = false := by
  simp_all [isMark, isBlankSeparator]

/-- What is no separator of either kind belongs to a field. -/
theorem isPlain_of_neither (blank : ¬ isBlankSeparator ifs c = true)
    (mark : ¬ isMark ifs c = true) :
    isPlain ifs c = true := by
  rw [isPlain_iff, ← List.contains_iff_mem, contains_iff_blank_or_mark]
  exact not_or.mpr ⟨blank, mark⟩

end Kinds

section Dropping

variable {c : Char} {rest : List Char}

theorem dropBlanks_cons_blank (blank : isBlankSeparator ifs c = true) :
    dropBlanks ifs (c :: rest) = dropBlanks ifs rest :=
  List.dropWhile_cons_of_pos blank

theorem dropBlanks_cons (other : ¬ isBlankSeparator ifs c = true) :
    dropBlanks ifs (c :: rest) = c :: rest :=
  List.dropWhile_cons_of_neg other

theorem dropDivision_nil : dropDivision ifs [] = [] := rfl

theorem dropDivision_cons_blank (blank : isBlankSeparator ifs c = true) :
    dropDivision ifs (c :: rest) = dropDivision ifs rest := by
  rw [dropDivision, dropBlanks_cons_blank blank, dropDivision]

theorem dropDivision_cons_mark (mark : isMark ifs c = true) :
    dropDivision ifs (c :: rest) = dropBlanks ifs rest := by
  have other : ¬ isBlankSeparator ifs c = true := by
    rw [isBlankSeparator_of_mark mark]
    decide
  rw [dropDivision, dropBlanks_cons other, dropMark, if_pos mark]

theorem dropDivision_cons_plain (blank : ¬ isBlankSeparator ifs c = true)
    (mark : ¬ isMark ifs c = true) : dropDivision ifs (c :: rest) = c :: rest := by
  rw [dropDivision, dropBlanks_cons blank, dropMark, if_neg mark, dropBlanks_cons blank]

theorem dropMark_sublist (text : List Char) : (dropMark ifs text).Sublist text := by
  cases text with
  | nil => exact List.Sublist.refl _
  | cons c rest =>
    rw [dropMark]
    split
    · exact List.sublist_cons_self c rest
    · exact List.Sublist.refl _

theorem dropDivision_sublist (text : List Char) : (dropDivision ifs text).Sublist text :=
  (List.dropWhile_sublist _).trans ((dropMark_sublist _).trans (List.dropWhile_sublist _))

/-- A separator at the beginning is dropped. -/
theorem length_dropDivision_lt (separator : isPlain ifs c = false) :
    (dropDivision ifs (c :: rest)).length < (c :: rest).length := by
  by_cases blank : isBlankSeparator ifs c = true
  · rw [dropDivision_cons_blank blank, List.length_cons]
    exact Nat.lt_succ_of_le (dropDivision_sublist rest).length_le
  · by_cases mark : isMark ifs c = true
    · rw [dropDivision_cons_mark mark, List.length_cons]
      exact Nat.lt_succ_of_le (List.dropWhile_sublist _).length_le
    · rw [isPlain_of_neither blank mark] at separator
      contradiction

theorem filter_dropBlanks (text : List Char) :
    (dropBlanks ifs text).filter (isPlain ifs) = text.filter (isPlain ifs) := by
  induction text with
  | nil => rfl
  | cons c rest inductionHypothesis =>
    by_cases blank : isBlankSeparator ifs c = true
    · rw [dropBlanks_cons_blank blank, inductionHypothesis,
        List.filter_cons_of_neg (by simp [isPlain_of_blank blank])]
    · rw [dropBlanks_cons blank]

theorem filter_dropMark (text : List Char) :
    (dropMark ifs text).filter (isPlain ifs) = text.filter (isPlain ifs) := by
  cases text with
  | nil => rfl
  | cons c rest =>
    rw [dropMark]
    split
    · rename_i mark
      rw [List.filter_cons_of_neg (by simp [isPlain_of_mark mark])]
    · rfl

/-- A division holds nothing but separators. -/
theorem filter_dropDivision (text : List Char) :
    (dropDivision ifs text).filter (isPlain ifs) = text.filter (isPlain ifs) := by
  rw [dropDivision, filter_dropBlanks, filter_dropMark, filter_dropBlanks]

end Dropping

section Grammar

/-- Behind a field and its division there is less of a text. -/
theorem length_behind_field_lt (c : Char) (rest : List Char) :
    (dropDivision ifs ((c :: rest).dropWhile (isPlain ifs))).length < (c :: rest).length := by
  by_cases plain : isPlain ifs c = true
  · rw [List.dropWhile_cons_of_pos plain, List.length_cons]
    have inside : (dropDivision ifs (rest.dropWhile (isPlain ifs))).Sublist rest :=
      (dropDivision_sublist _).trans (List.dropWhile_sublist _)
    exact Nat.lt_succ_of_le inside.length_le
  · rw [List.dropWhile_cons_of_neg plain]
    exact length_dropDivision_lt (by simpa using plain)

/-- The fields of a text that begins with one: as long as there is text, a field, which may be
empty, and a division. -/
def fieldsOf (ifs : List Char) : List Char → List (List Char)
  | [] => []
  | c :: rest =>
    (c :: rest).takeWhile (isPlain ifs) ::
      fieldsOf ifs (dropDivision ifs ((c :: rest).dropWhile (isPlain ifs)))
termination_by text => text.length
decreasing_by exact length_behind_field_lt c rest

/-- What is still to come of the fields, where a pass over the text stands. -/
def Place.fieldsAhead (ifs : List Char) : Place → List Char → List (List Char)
  | fresh, text => fieldsOf ifs (dropBlanks ifs text)
  | gap, text => fieldsOf ifs (dropDivision ifs text)
  | field chars, text =>
    (chars.reverse ++ text.takeWhile (isPlain ifs)) ::
      fieldsOf ifs (dropDivision ifs (text.dropWhile (isPlain ifs)))

variable {c : Char}

/-- A character of a field begins one. -/
theorem fieldsOf_cons_plain (plain : isPlain ifs c = true) (rest : List Char) :
    fieldsOf ifs (c :: rest) = (Place.field [c]).fieldsAhead ifs rest := by
  rw [fieldsOf, List.takeWhile_cons_of_pos plain, List.dropWhile_cons_of_pos plain,
    Place.fieldsAhead]
  rfl

/-- A mark in front closes an empty field. -/
theorem fieldsOf_cons_mark (mark : isMark ifs c = true) (rest : List Char) :
    fieldsOf ifs (c :: rest) = [] :: fieldsOf ifs (dropBlanks ifs rest) := by
  have separator : ¬ isPlain ifs c = true := by simp [isPlain_of_mark mark]
  rw [fieldsOf, List.takeWhile_cons_of_neg separator, List.dropWhile_cons_of_neg separator,
    dropDivision_cons_mark mark]

/-- The pass finds what the grammar says is still to come, wherever it stands. -/
theorem fieldsFrom_eq_fieldsAhead (place : Place) (text : List Char) :
    fieldsFrom ifs place text = place.fieldsAhead ifs text := by
  -- By the recursion of the pass: at each character it goes where the grammar does.
  fun_induction fieldsFrom ifs place text with
  | case1 chars =>
    rw [Place.fieldsAhead, List.takeWhile_nil, List.dropWhile_nil, List.append_nil,
      dropDivision_nil, fieldsOf]
  | case2 place other =>
    cases place with
    | fresh => rw [Place.fieldsAhead, dropBlanks, List.dropWhile_nil, fieldsOf]
    | gap => rw [Place.fieldsAhead, dropDivision_nil, fieldsOf]
    | field chars => exact absurd rfl (other chars)
  | case3 c rest blank inductionHypothesis =>
    rw [inductionHypothesis, Place.fieldsAhead, Place.fieldsAhead, dropBlanks_cons_blank blank]
  | case4 c rest blank mark inductionHypothesis =>
    rw [inductionHypothesis, Place.fieldsAhead, Place.fieldsAhead, dropBlanks_cons blank,
      fieldsOf_cons_mark mark]
  | case5 c rest blank mark inductionHypothesis =>
    rw [inductionHypothesis, Place.fieldsAhead.eq_1, dropBlanks_cons blank,
      fieldsOf_cons_plain (isPlain_of_neither blank mark)]
  | case6 c rest blank inductionHypothesis =>
    rw [inductionHypothesis, Place.fieldsAhead, Place.fieldsAhead, dropDivision_cons_blank blank]
  | case7 c rest blank mark inductionHypothesis =>
    rw [inductionHypothesis, Place.fieldsAhead, Place.fieldsAhead, dropDivision_cons_mark mark]
  | case8 c rest blank mark inductionHypothesis =>
    rw [inductionHypothesis, Place.fieldsAhead.eq_2, dropDivision_cons_plain blank mark,
      fieldsOf_cons_plain (isPlain_of_neither blank mark)]
  | case9 chars c rest blank inductionHypothesis =>
    have separator : ¬ isPlain ifs c = true := by simp [isPlain_of_blank blank]
    rw [inductionHypothesis, Place.fieldsAhead, Place.fieldsAhead,
      List.takeWhile_cons_of_neg separator, List.dropWhile_cons_of_neg separator,
      dropDivision_cons_blank blank, List.append_nil]
  | case10 chars c rest blank mark inductionHypothesis =>
    have separator : ¬ isPlain ifs c = true := by simp [isPlain_of_mark mark]
    rw [inductionHypothesis, Place.fieldsAhead, Place.fieldsAhead,
      List.takeWhile_cons_of_neg separator, List.dropWhile_cons_of_neg separator,
      dropDivision_cons_mark mark, List.append_nil]
  | case11 chars c rest blank mark inductionHypothesis =>
    have plain := isPlain_of_neither blank mark
    rw [inductionHypothesis, Place.fieldsAhead, Place.fieldsAhead,
      List.takeWhile_cons_of_pos plain, List.dropWhile_cons_of_pos plain, List.reverse_cons,
      List.append_assoc, List.singleton_append]

/-- Splitting keeps to the grammar, also where there are no separators. -/
theorem split_eq_fieldsOf (ifs value : List Char) :
    split ifs value = fieldsOf ifs (dropBlanks ifs value) := by
  unfold split
  split
  · rename_i none
    obtain rfl := List.isEmpty_iff.mp none
    cases value with
    | nil => rw [dropBlanks, List.dropWhile_nil, fieldsOf, List.isEmpty_nil, if_pos rfl]
    | cons c rest =>
      have plain : ∀ d ∈ c :: rest, isPlain [] d = true := fun _ _ => rfl
      rw [dropBlanks_cons (by simp [isBlankSeparator]), fieldsOf,
        List.takeWhile_eq_self_iff.mpr plain, List.dropWhile_eq_nil_iff.mpr plain,
        dropDivision_nil, fieldsOf, List.isEmpty_cons, if_neg Bool.false_ne_true]
  · exact fieldsFrom_eq_fieldsAhead .fresh value

theorem plain_of_mem_fieldsOf {text field : List Char} (member : field ∈ fieldsOf ifs text)
    {c : Char}
    (inside : c ∈ field) : c ∉ ifs := by
  fun_induction fieldsOf ifs text with
  | case1 => contradiction
  | case2 first rest inductionHypothesis =>
    rcases List.mem_cons.mp member with rfl | later
    · exact isPlain_iff.mp (List.mem_takeWhile_imp inside)
    · exact inductionHypothesis later

/-- The fields hold all characters but the separators, in order. -/
theorem flatten_fieldsOf (ifs text : List Char) :
    (fieldsOf ifs text).flatten = text.filter (isPlain ifs) := by
  fun_induction fieldsOf ifs text with
  | case1 => rfl
  | case2 c rest inductionHypothesis =>
    have here : ((c :: rest).takeWhile (isPlain ifs)).filter (isPlain ifs) =
        (c :: rest).takeWhile (isPlain ifs) :=
      List.filter_eq_self.mpr fun _ => List.mem_takeWhile_imp
    calc (_ :: fieldsOf ifs _).flatten
        = (c :: rest).takeWhile (isPlain ifs) ++
            ((c :: rest).dropWhile (isPlain ifs)).filter (isPlain ifs) := by
          rw [List.flatten_cons, inductionHypothesis, filter_dropDivision]
      _ = ((c :: rest).takeWhile (isPlain ifs) ++ (c :: rest).dropWhile (isPlain ifs)).filter
            (isPlain ifs) := by rw [List.filter_append, here]
      _ = (c :: rest).filter (isPlain ifs) := by rw [List.takeWhile_append_dropWhile]

/-- Splitting drops the blanks in front and then takes a field and a division for as long as there
is text. So no field has a separator in it, and nothing but separators is lost. -/
theorem split_obeys_grammar (ifs value : List Char) :
    split ifs value = fieldsOf ifs (dropBlanks ifs value) ∧
      (∀ field ∈ split ifs value, ∀ c ∈ field, c ∉ ifs) ∧
      (split ifs value).flatten = value.filter (isPlain ifs) := by
  rw [split_eq_fieldsOf]
  refine ⟨rfl, fun _ member _ => plain_of_mem_fieldsOf member, ?_⟩
  rw [flatten_fieldsOf, filter_dropBlanks]

/-- Blanks and marks at both edges and side by side. -/
example : split [' ', ':'] " : a :: b:c : ".toList =
    [[], ['a'], [], ['b'], ['c']] := by decide

end Grammar

end Shell.Field
