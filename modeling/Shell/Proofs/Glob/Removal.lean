import Shell.Glob.Edit
import Shell.Proofs.Glob.FixedWidth

/-!
# Removing a match at an end

What is removed is the shortest, or the longest, part at an end of a text that the
pattern matches. Trying all cuts of the text in order finds it. For a pattern of known
width one cut is tried, and that is enough exactly if the pattern matches only texts
that are so wide.
-/

namespace Shell.Glob

/-- The part of a text at an end, up to a cut. -/
def Side.part : Side → List Char → Nat → List Char
  | start, text, cut => text.take cut
  | finish, text, cut => text.drop cut

/-- What is left of a text without that part. -/
def Side.rest : Side → List Char → Nat → List Char
  | start, text, cut => text.drop cut
  | finish, text, cut => text.take cut

/-- Of two cuts for the shortest, or the longest, part at an end, the first goes before the
second. -/
def Side.Before (side : Side) (longest : Bool) (first second : Nat) : Prop :=
  match side, longest with
  | start, false | finish, true => first ≤ second
  | start, true | finish, false => second ≤ first

/-- What is left of a text once the shortest, or the longest, part at an end that is accepted is
removed; all of it, if no part is accepted. -/
inductive Removes (accepts : List Char → Bool) (side : Side) (longest : Bool) (text : List Char) :
    List Char → Prop
  | part {cut : Nat} : cut ≤ text.length → accepts (side.part text cut) = true →
      (∀ other ≤ text.length, accepts (side.part text other) = true →
        side.Before longest cut other) →
      Removes accepts side longest text (side.rest text cut)
  | nothing : (∀ cut ≤ text.length, accepts (side.part text cut) = false) →
      Removes accepts side longest text text

/-- What is accepted is so wide, unless nothing but the empty text is accepted. -/
def Uniform (accepts : List Char → Bool) (width : Nat) : Prop :=
  (∀ text, accepts text = true → text.length = width) ∨ ∀ text, accepts text = true → text = []

section Search

variable {α : Type} {Order : α → α → Prop} {items : List α} {test : α → Bool} {item : α}

/-- The first item of an ordered list that passes a test goes before all others that do. -/
theorem before_of_find? (ordered : items.Pairwise Order) (refl : ∀ item, Order item item)
    (found : items.find? test = some item) :
    ∀ other ∈ items, test other = true → Order item other := by
  obtain ⟨-, front, later, rfl, failed⟩ := List.find?_eq_some_iff_append.mp found
  intro other member passed
  rcases List.mem_append.mp member with early | member
  · have fails := failed other early
    simp [passed] at fails
  · rcases List.mem_cons.mp member with rfl | member
    · exact refl other
    · exact List.rel_of_pairwise_cons (List.pairwise_append.mp ordered).2.1 member

theorem ordered_cutPoints (text : List Char) : (cutPoints text).Pairwise (· ≤ ·) :=
  List.pairwise_lt_range.imp Nat.le_of_lt

theorem ordered_reverse_cutPoints (text : List Char) :
    (cutPoints text).reverse.Pairwise (· ≥ ·) :=
  List.pairwise_reverse.mpr (ordered_cutPoints text)

end Search

section Cuts

variable {accepts : List Char → Bool} {side : Side} {longest : Bool}
  {text : List Char} {width : Nat}

theorem ordered_candidates (side : Side) (longest : Bool) (text : List Char) :
    (candidates none side longest text).Pairwise (side.Before longest) := by
  cases side <;> cases longest
  · exact ordered_cutPoints text
  · exact ordered_reverse_cutPoints text
  · exact ordered_reverse_cutPoints text
  · exact ordered_cutPoints text

theorem mem_candidates_none {cut : Nat} :
    cut ∈ candidates none side longest text ↔ cut ≤ text.length := by
  cases side <;> cases longest <;> simp [candidates]

theorem mem_candidates_some {cut : Nat} :
    cut ∈ candidates (some width) side longest text ↔
      cut ≤ text.length ∧ (side.part text cut).length = width := by
  cases side with
  | start =>
    by_cases fits : width ≤ text.length
    · simp [candidates, Side.part, fits]
      omega
    · simp [candidates, Side.part, fits]
      omega
  | finish =>
    by_cases fits : width ≤ text.length
    · simp [candidates, Side.part, fits]
      omega
    · simp [candidates, Side.part, fits]
      omega

theorem Side.before_refl (side : Side) (longest : Bool) (cut : Nat) :
    side.Before longest cut cut := by
  cases side <;> cases longest <;> exact Nat.le_refl cut

/-- Trying some cuts in order removes what should be, if all cuts at which a part is accepted are
among them. -/
theorem removes_of_candidates {known : Option Nat}
    (ordered : (candidates known side longest text).Pairwise (side.Before longest))
    (bounded : ∀ cut ∈ candidates known side longest text, cut ≤ text.length)
    (complete : ∀ cut ≤ text.length, accepts (side.part text cut) = true →
      cut ∈ candidates known side longest text) :
    Removes accepts side longest text
      (match (candidates known side longest text).find? fun cut => accepts (side.part text cut) with
        | some cut => side.rest text cut
        | none => text) := by
  cases found : (candidates known side longest text).find? fun cut =>
    accepts (side.part text cut) with
  | none =>
    refine .nothing fun cut fits => ?_
    by_contra accepted
    rw [Bool.not_eq_false] at accepted
    have failed := List.find?_eq_none.mp found cut (complete cut fits accepted)
    exact failed accepted
  | some cut =>
    have first := before_of_find? ordered (side.before_refl longest) found
    have accepted : accepts (side.part text cut) = true := by simpa using List.find?_some found
    refine .part (bounded cut (List.mem_of_find?_eq_some found)) accepted ?_
    intro other fits accepted
    exact first other (complete other fits accepted) accepted

/-- At most one cut is tried for a known width. -/
theorem ordered_candidates_some :
    (candidates (some width) side longest text).Pairwise (side.Before longest) := by
  cases side <;> rw [candidates] <;> split <;> simp

end Cuts

section Whole

variable {accepts : List Char → Bool} {side : Side} {longest : Bool} {text result : List Char}

theorem Side.rest_of_part_eq_nil {cut : Nat} (empty : side.part text cut = []) :
    side.rest text cut = text := by
  cases side with
  | start =>
    rcases List.take_eq_nil_iff.mp empty with rfl | rfl
    · rfl
    · exact List.drop_nil
  | finish => exact List.take_of_length_le (List.drop_eq_nil_iff.mp empty)

theorem Removes.eq_nil (removes : Removes accepts .start true text result)
    (whole : accepts text = true) : result = [] := by
  have part : accepts (Side.start.part text text.length) = true := by
    rwa [Side.part, List.take_length]
  cases removes with
  | part fits accepted first =>
    have last : text.length ≤ _ := first text.length (Nat.le_refl _) part
    exact List.drop_of_length_le last
  | nothing none =>
    rw [none text.length (Nat.le_refl _)] at part
    contradiction

theorem Removes.eq_self (removes : Removes accepts .start false text result)
    (empty : accepts [] = true) : result = text := by
  cases removes with
  | part fits accepted first =>
    have zero : _ ≤ 0 := first 0 (Nat.zero_le _) empty
    rw [Nat.le_zero.mp zero]
    rfl
  | nothing none => rfl

/-- If a part is accepted and the empty text is not, something is removed. -/
theorem Removes.ne_self (removes : Removes accepts side longest text result)
    (empty : accepts [] = false) {cut : Nat} (fits : cut ≤ text.length)
    (accepted : accepts (side.part text cut) = true) : result ≠ text := by
  cases removes with
  | @part found foundFits foundAccepted first =>
    intro same
    have none : side.part text found = [] := by
      have length := congrArg List.length same
      cases side with
      | start =>
        rw [Side.rest, List.length_drop] at length
        exact List.take_eq_nil_iff.mpr (by grind)
      | finish =>
        rw [Side.rest, List.length_take] at length
        exact List.drop_eq_nil_iff.mpr (by omega)
    rw [none, empty] at foundAccepted
    contradiction
  | nothing none =>
    rw [none cut fits] at accepted
    contradiction

/-- Where nothing but the empty text is accepted, nothing is removed. -/
theorem removes_self (only : ∀ text, accepts text = true → text = []) :
    Removes accepts side longest text text := by
  cases empty : accepts [] with
  | false =>
    refine .nothing fun cut _ => ?_
    by_contra accepted
    rw [Bool.not_eq_false] at accepted
    rw [only _ accepted, empty] at accepted
    contradiction
  | true =>
    obtain ⟨cut, fits, none⟩ : ∃ cut ≤ text.length, side.part text cut = [] := by
      cases side with
      | start => exact ⟨0, Nat.zero_le _, rfl⟩
      | finish => exact ⟨text.length, Nat.le_refl _, List.drop_length⟩
    have same : side.rest text cut = text := Side.rest_of_part_eq_nil none
    have removed : Removes accepts side longest text (side.rest text cut) := by
      refine .part fits (by rwa [none]) fun other otherFits accepted => ?_
      have otherNone : side.part text other = [] := only _ accepted
      have equal : cut = other ∨ text = [] := by
        cases side with
        | start =>
          rcases List.take_eq_nil_iff.mp none with rfl | rfl
          · exact (List.take_eq_nil_iff.mp otherNone).imp Eq.symm id
          · exact .inr rfl
        | finish =>
          have atEnd := List.drop_eq_nil_iff.mp none
          have otherAtEnd := List.drop_eq_nil_iff.mp otherNone
          exact .inl (Nat.le_antisymm (Nat.le_trans fits otherAtEnd)
            (Nat.le_trans otherFits atEnd))
      rcases equal with rfl | rfl
      · exact side.before_refl longest cut
      · rw [Nat.le_zero.mp fits, Nat.le_zero.mp otherFits]
        exact side.before_refl longest 0
    rwa [same] at removed

end Whole

section Patterns

variable {mode : Mode} {pattern : List Char} {matcher : Matcher} {width : Nat}

theorem remove_eq (compiled : compile? mode pattern = some matcher) (side : Side) (longest : Bool)
    (text : List Char) :
    remove mode pattern side longest text =
      match (candidates (width? mode.extended pattern) side longest text).find?
          fun cut => matcher.accepts (side.part text cut) with
      | some cut => side.rest text cut
      | none => text := by
  rw [remove, compiled]
  cases side <;> rfl

theorem remove_start_of_width (compiled : compile? mode pattern = some matcher)
    (measured : width? mode.extended pattern = some width) (longest : Bool) (text : List Char) :
    remove mode pattern .start longest text =
      if width ≤ text.length ∧ matcher.accepts (text.take width) = true then text.drop width
      else text := by
  rw [remove_eq compiled, measured, candidates]
  by_cases fits : width ≤ text.length
  · cases accepted : matcher.accepts (text.take width) <;>
      simp [fits, accepted, Side.part, Side.rest]
  · simp [fits]

/-- Where no caret is left alone, all that is matched is as wide as the pattern. -/
theorem uniform_of_leavesCaret (compiled : compile? mode pattern = some matcher)
    (measured : width? mode.extended pattern = some width)
    (known : leavesCaret mode.extended pattern = false) : Uniform matcher.accepts width := by
  have greedy : Greedy ['$'] := by decide
  refine .inl fun text accepted => ?_
  exact length_eq_of_measures greedy (measures_bodyText measured known)
    (plain?_of_width? compiled measured) accepted

/-- Nothing is removed if all that the pattern matches is shorter than it is wide. -/
theorem remove_of_shorter (compiled : compile? mode pattern = some matcher)
    (measured : width? mode.extended pattern = some width)
    (shorter : ∀ text, matcher.accepts text = true → text.length < width) (side : Side)
    (longest : Bool) (text : List Char) : remove mode pattern side longest text = text := by
  have none : (candidates (some width) side longest text).find?
      (fun cut => matcher.accepts (side.part text cut)) = none := by
    refine List.find?_eq_none.mpr fun cut member accepted => ?_
    have wide := (mem_candidates_some.mp member).2
    exact absurd wide (Nat.ne_of_lt (shorter _ accepted))
  rw [remove_eq compiled, measured, none]

theorem removes_of_uniform (compiled : compile? mode pattern = some matcher)
    (uniform : ∀ width, width? mode.extended pattern = some width →
      Uniform matcher.accepts width) (side : Side) (longest : Bool) (text : List Char) :
    Removes matcher.accepts side longest text (remove mode pattern side longest text) := by
  rw [remove_eq compiled]
  cases measured : width? mode.extended pattern with
  | none =>
    refine removes_of_candidates (ordered_candidates side longest text) ?_ ?_
    · exact fun cut => mem_candidates_none.mp
    · exact fun cut fits _ => mem_candidates_none.mpr fits
  | some width =>
    rcases uniform width measured with wide | only
    · refine removes_of_candidates ordered_candidates_some ?_ ?_
      · exact fun cut member => (mem_candidates_some.mp member).1
      · exact fun cut fits accepted => mem_candidates_some.mpr ⟨fits, wide _ accepted⟩
    · have unchanged : ∀ found : Option Nat,
          (∀ cut, found = some cut → matcher.accepts (side.part text cut) = true) →
            (match found with
              | some cut => side.rest text cut
              | none => text) = text := by
        rintro (_ | cut) accepted
        · rfl
        · exact Side.rest_of_part_eq_nil (only _ (accepted cut rfl))
      rw [unchanged _ fun cut found => by simpa using List.find?_some found]
      exact removes_self only

theorem uniform_of_removes (compiled : compile? mode pattern = some matcher)
    (removes : ∀ side longest text,
      Removes matcher.accepts side longest text (remove mode pattern side longest text))
    (measured : width? mode.extended pattern = some width) : Uniform matcher.accepts width := by
  -- A text that is accepted is the longest part of itself, so that nothing of it may be left.
  have other : ∀ text, matcher.accepts text = true → text.length ≠ width → text = [] := by
    intro text accepted different
    have left := (removes .start true text).eq_nil accepted
    rw [remove_start_of_width compiled measured] at left
    split at left
    · rename_i cut
      exact absurd (Nat.le_antisymm (List.drop_eq_nil_iff.mp left) cut.1) different
    · exact left
  by_cases wide : ∀ text, matcher.accepts text = true → text.length = width
  · exact .inl wide
  · push Not at wide
    obtain ⟨empty, accepted, different⟩ := wide
    obtain rfl := other empty accepted different
    -- The empty text is the shortest part of all texts.
    refine .inr fun text whole => ?_
    by_cases size : text.length = width
    · have left := (removes .start false text).eq_self accepted
      rw [remove_start_of_width compiled measured, ← size, List.take_length,
        if_pos ⟨Nat.le_refl _, whole⟩, List.drop_length] at left
      exact left.symm
    · exact other text whole size

/-- The shortest, or the longest, match at an end is removed from every text exactly if the width of
the pattern, where it has one, is that of all texts it matches. So it is if none of its brackets is
left with a caret alone. If one is, and the pattern has a width and no groups, nothing is removed.
-/
theorem remove_extremal_iff (compiled : compile? mode pattern = some matcher) :
    ((∀ side longest text,
        Removes matcher.accepts side longest text (remove mode pattern side longest text)) ↔
      ∀ width, width? mode.extended pattern = some width → Uniform matcher.accepts width) ∧
    (leavesCaret mode.extended pattern = false → ∀ side longest text,
      Removes matcher.accepts side longest text (remove mode pattern side longest text)) ∧
    (leavesCaret mode.extended pattern = true → (width? mode.extended pattern).isSome = true →
      (∀ kind body, .group kind body ∉ pieces mode.extended pattern) →
      ∀ side longest text, remove mode pattern side longest text = text) := by
  refine ⟨⟨?_, removes_of_uniform compiled⟩, fun known => ?_, fun caret wide ungrouped => ?_⟩
  · exact fun removes width => uniform_of_removes compiled removes
  · exact removes_of_uniform compiled fun width measured =>
      uniform_of_leavesCaret compiled measured known
  · obtain ⟨width, measured⟩ := Option.isSome_iff_exists.mp wide
    obtain ⟨size, less, shorter⟩ := exists_measures_bodyText ungrouped measured caret
    refine remove_of_shorter compiled measured fun text accepted => ?_
    rwa [length_eq_of_measures follows_end shorter (plain?_of_width? compiled measured) accepted]

theorem remove_extremal_choice : ∃ matcher,
    compile? ⟨true, true⟩ "@(ab|[!c]?)[[:digit:]]".toList = some matcher ∧
    Removes matcher.accepts .finish true "x_aB7".toList
      (remove ⟨true, true⟩ "@(ab|[!c]?)[[:digit:]]".toList .finish true "x_aB7".toList) ∧
    remove ⟨true, true⟩ "@(ab|[!c]?)[[:digit:]]".toList .finish true "x_aB7".toList =
      "x_".toList := by
  have matched : (compile? ⟨true, true⟩ "@(ab|[!c]?)[[:digit:]]".toList).map
      (·.accepts "aB7".toList) = some true := by decide
  obtain ⟨matcher, compiled, -⟩ := Option.map_eq_some_iff.mp matched
  refine ⟨matcher, compiled, ?_, by decide⟩
  exact (remove_extremal_iff compiled).2.1 (by decide) .finish true "x_aB7".toList

/-- What lies between an unknown class with a caret and another bracket is matched and not
removed. -/
theorem matched_head_stays : ∃ matcher,
    compile? ⟨false, false⟩ "[[:x:]^]b[c]".toList = some matcher ∧
    ¬ Removes matcher.accepts .start false ['a']
      (remove ⟨false, false⟩ "[[:x:]^]b[c]".toList .start false ['a']) := by
  have matched : (compile? ⟨false, false⟩ "[[:x:]^]b[c]".toList).map
      (fun matcher => (matcher.accepts [], matcher.accepts ['a'])) = some (false, true) := by decide
  obtain ⟨matcher, compiled, accepted⟩ := Option.map_eq_some_iff.mp matched
  obtain ⟨empty, whole⟩ := Prod.mk.inj accepted
  have stays : remove ⟨false, false⟩ "[[:x:]^]b[c]".toList .start false ['a'] = ['a'] := by decide
  refine ⟨matcher, compiled, fun removes => ?_⟩
  rw [stays] at removes
  exact removes.ne_self empty (Nat.le_refl 1) whole rfl

end Patterns

end Shell.Glob
