import Mathlib.Computability.Language
import Mathlib.Logic.Relation
import Shell.Regex.Basic

/-!
# What regular expressions recognise

An expression recognises a language if, from every ascending list of offsets, its
matches end exactly behind the words of the language that stand there. This is closed
under sequence, choice and repetition, so it follows for a whole expression from its
parts.
-/

namespace Shell.Regex

open Computability

abbrev Ascending (offsets : List Nat) : Prop := offsets.Pairwise (· < ·)

namespace Offsets

theorem ascending_addFrom {i : Nat} {left right : List Nat} {unionRest : List Nat → List Nat}
    (members : ∀ k others, k ∈ unionRest others ↔ k ∈ left ∨ k ∈ others)
    (unions : ∀ others, Ascending others → Ascending (unionRest others))
    (leftAscending : Ascending (i :: left)) (rightAscending : Ascending right) :
    Ascending (addFrom i left unionRest right) := by
  obtain ⟨below, _⟩ := List.pairwise_cons.mp leftAscending
  induction right with
  | nil => exact leftAscending
  | cons j right inductionHypothesis =>
    obtain ⟨rightBelow, tail⟩ := List.pairwise_cons.mp rightAscending
    unfold addFrom
    split
    · rename_i less
      refine List.pairwise_cons.mpr ⟨fun k member => ?_, unions _ rightAscending⟩
      rcases (members k _).mp member with member | member
      · exact below k member
      · rcases List.mem_cons.mp member with rfl | member
        · exact less
        · exact Nat.lt_trans less (rightBelow k member)
    · split
      · rename_i less
        refine List.pairwise_cons.mpr ⟨fun k member => ?_, inductionHypothesis tail⟩
        rcases (mem_addFrom fun others => members k others).mp member with member | member
        · rcases List.mem_cons.mp member with rfl | member
          · exact less
          · exact Nat.lt_trans less (below k member)
        · exact rightBelow k member
      · have same : i = j := by omega
        subst same
        refine List.pairwise_cons.mpr ⟨fun k member => ?_, unions _ tail⟩
        rcases (members k _).mp member with member | member
        · exact below k member
        · exact rightBelow k member

theorem ascending_union {left right : List Nat} (leftAscending : Ascending left)
    (rightAscending : Ascending right) : Ascending (union left right) := by
  induction left generalizing right with
  | nil => exact rightAscending
  | cons i left inductionHypothesis =>
    obtain ⟨_, tail⟩ := List.pairwise_cons.mp leftAscending
    exact ascending_addFrom (fun _ _ => mem_union) (fun _ => inductionHypothesis tail)
      leftAscending rightAscending

/-- A step forward. -/
def Forward (step : Nat → List Nat) (i j : Nat) : Prop := i < j ∧ j ∈ step i

variable {step : Nat → List Nat}

/-- What is still to be visited after the first offset. -/
theorem mem_pending {i j : Nat} {pending : List Nat} :
    j ∈ union pending ((step i).filter (i < ·)) ↔ j ∈ pending ∨ Forward step i j := by
  rw [mem_union, List.mem_filter, decide_eq_true_eq, and_comm]
  rfl

theorem lt_of_mem_pending {i j : Nat} {pending : List Nat} (ascending : Ascending (i :: pending))
    (member : j ∈ union pending ((step i).filter (i < ·))) : i < j := by
  rcases mem_pending.mp member with member | forward
  · exact (List.pairwise_cons.mp ascending).1 j member
  · exact forward.1

theorem ascending_pending {i : Nat} {pending : List Nat} (steps : ∀ i, Ascending (step i))
    (ascending : Ascending (i :: pending)) :
    Ascending (union pending ((step i).filter (i < ·))) :=
  ascending_union (List.pairwise_cons.mp ascending).2 ((steps i).filter _)

theorem exists_of_mem_reach {fuel k : Nat} {pending : List Nat}
    (member : k ∈ reach step fuel pending) :
    ∃ i ∈ pending, Relation.ReflTransGen (Forward step) i k := by
  induction fuel generalizing pending with
  | zero => exact ⟨k, member, .refl⟩
  | succ fuel inductionHypothesis =>
    cases pending with
    | nil => simp [reach] at member
    | cons i pending =>
      rw [reach] at member
      rcases List.mem_cons.mp member with rfl | member
      · exact ⟨k, by simp, .refl⟩
      · obtain ⟨j, waits, path⟩ := inductionHypothesis member
        rcases mem_pending.mp waits with waits | forward
        · exact ⟨j, List.mem_cons_of_mem _ waits, path⟩
        · exact ⟨i, by simp, .head forward path⟩

/-- Enough rounds visit every offset that steps forward lead to. The rounds are enough if no step
leaves an offset at `bound` or behind it. -/
theorem mem_reach_of_path {bound fuel i k : Nat} {pending : List Nat}
    (steps : ∀ i, Ascending (step i)) (bounded : ∀ i j, Forward step i j → i < bound)
    (ascending : Ascending pending) (enough : ∀ i ∈ pending, bound ≤ i + fuel)
    (waits : i ∈ pending) (path : Relation.ReflTransGen (Forward step) i k) :
    k ∈ reach step fuel pending := by
  induction fuel generalizing pending i with
  | zero =>
    rcases path.cases_head with rfl | ⟨j, forward, _⟩
    · exact waits
    · have := bounded i j forward
      have := enough i waits
      omega
  | succ fuel inductionHypothesis =>
    cases pending with
    | nil => simp at waits
    | cons first pending =>
      have later : ∀ j ∈ union pending ((step first).filter (first < ·)), bound ≤ j + fuel := by
        intro j member
        have := lt_of_mem_pending ascending member
        have := enough first (by simp)
        omega
      rw [reach]
      rcases List.mem_cons.mp waits with rfl | waits
      · rcases path.cases_head with rfl | ⟨j, forward, rest⟩
        · exact List.mem_cons_self
        · exact List.mem_cons_of_mem _ (inductionHypothesis (ascending_pending steps ascending)
            later (mem_pending.mpr (Or.inr forward)) rest)
      · exact List.mem_cons_of_mem _ (inductionHypothesis (ascending_pending steps ascending)
          later (mem_pending.mpr (Or.inl waits)) path)

theorem le_of_path {i k : Nat} (path : Relation.ReflTransGen (Forward step) i k) : i ≤ k := by
  induction path with
  | refl => exact Nat.le_refl i
  | tail _ forward inductionHypothesis =>
    exact Nat.le_of_lt (Nat.lt_of_le_of_lt inductionHypothesis forward.1)

theorem ascending_reach {fuel : Nat} {pending : List Nat} (steps : ∀ i, Ascending (step i))
    (ascending : Ascending pending) : Ascending (reach step fuel pending) := by
  induction fuel generalizing pending with
  | zero => exact ascending
  | succ fuel inductionHypothesis =>
    cases pending with
    | nil => exact ascending
    | cons i pending =>
      rw [reach]
      refine List.pairwise_cons.mpr ⟨fun k member => ?_,
        inductionHypothesis (ascending_pending steps ascending)⟩
      obtain ⟨j, waits, path⟩ := exists_of_mem_reach member
      have less := lt_of_mem_pending ascending waits
      exact Nat.lt_of_lt_of_le less (le_of_path path)

end Offsets

/-- The word stands in the text between two offsets. -/
def Spans (text : Array Char) (i : Nat) (word : List Char) (k : Nat) : Prop :=
  word <+: text.toList.drop i ∧ k = i + word.length

section Spans

variable {text : Array Char} {i k : Nat}

theorem spans_nil : Spans text i [] k ↔ k = i := by
  simp [Spans]

theorem spans_append {first second : List Char} :
    Spans text i (first ++ second) k ↔ ∃ j, Spans text i first j ∧ Spans text j second k := by
  unfold Spans
  constructor
  · rintro ⟨⟨rest, whole⟩, rfl⟩
    refine ⟨i + first.length, ⟨⟨second ++ rest, ?_⟩, rfl⟩, ⟨rest, ?_⟩, ?_⟩
    · rw [← whole, List.append_assoc]
    · rw [← List.drop_drop, ← whole, List.append_assoc, List.drop_left]
    · rw [List.length_append]
      omega
  · rintro ⟨_, ⟨⟨rest, whole⟩, rfl⟩, ⟨after, tail⟩, rfl⟩
    refine ⟨⟨after, ?_⟩, ?_⟩
    · rw [← List.drop_drop, ← whole, List.drop_left] at tail
      rw [List.append_assoc, tail, whole]
    · rw [List.length_append]
      omega

theorem spans_singleton {c : Char} : Spans text i [c] k ↔ text[i]? = some c ∧ k = i + 1 := by
  unfold Spans
  rw [List.singleton_prefix_iff_head?_eq_some, List.head?_drop, Array.getElem?_toList]
  rfl

theorem Spans.lt {word : List Char} (spans : Spans text i word k) (nonempty : word ≠ []) :
    i < k ∧ i < text.size := by
  obtain ⟨inside, rfl⟩ := spans
  have some : 0 < word.length := List.length_pos_iff.mpr nonempty
  have most := inside.length_le
  rw [List.length_drop] at most
  have size : text.toList.length = text.size := rfl
  exact ⟨by omega, by omega⟩

end Spans

/-- Matches of the expression end exactly behind the words of the language. -/
structure Recognizes (r : Regex) (language : Language Char) : Prop where
  ascending : ∀ text starts, Ascending starts → Ascending (r.ends false text starts)
  mem_ends : ∀ text starts k, Ascending starts →
    (k ∈ r.ends false text starts ↔ ∃ i ∈ starts, ∃ word ∈ language, Spans text i word k)

theorem recognizes_empty : Recognizes .empty 1 where
  ascending _ _ ascending := ascending
  mem_ends text starts k _ := by
    rw [ends]
    constructor
    · intro member
      exact ⟨k, member, [], rfl, spans_nil.mpr rfl⟩
    · rintro ⟨i, member, word, rfl, spans⟩
      rw [spans_nil.mp spans]
      exact member

theorem ascending_readOne {text : Array Char} {passes : Char → Bool} {starts : List Nat}
    (ascending : Ascending starts) : Ascending (readOne text passes starts) := by
  unfold readOne
  exact (ascending.filter _).map _ fun _ _ less => Nat.add_lt_add_right less 1

/-- An expression that reads one character recognises the words of one character that passes. -/
theorem recognizes_readOne {r : Regex} {passes : Char → Bool}
    (reads : ∀ text starts, r.ends false text starts = readOne text passes starts) :
    Recognizes r {word | ∃ c, passes c ∧ word = [c]} where
  ascending text starts ascending := by
    rw [reads]
    exact ascending_readOne ascending
  mem_ends text starts k _ := by
    rw [reads, readOne]
    simp only [List.mem_map, List.mem_filter, Option.any_eq_true]
    constructor
    · rintro ⟨i, ⟨member, c, found, passed⟩, rfl⟩
      exact ⟨i, member, [c], ⟨c, passed, rfl⟩, spans_singleton.mpr ⟨found, rfl⟩⟩
    · rintro ⟨i, member, _, ⟨c, passed, rfl⟩, spans⟩
      obtain ⟨found, rfl⟩ := spans_singleton.mp spans
      exact ⟨i, ⟨member, c, found, passed⟩, rfl⟩

theorem Recognizes.seq {first second : Regex} {left right : Language Char}
    (firstRecognizes : Recognizes first left) (secondRecognizes : Recognizes second right) :
    Recognizes (.seq first second) (left * right) where
  ascending text starts ascending :=
    secondRecognizes.ascending text _ (firstRecognizes.ascending text starts ascending)
  mem_ends text starts k ascending := by
    rw [ends, secondRecognizes.mem_ends text _ k (firstRecognizes.ascending text starts ascending)]
    constructor
    · rintro ⟨j, member, word, inRight, spans⟩
      obtain ⟨i, start, before, inLeft, reaches⟩ :=
        (firstRecognizes.mem_ends text starts j ascending).mp member
      exact ⟨i, start, before ++ word, Language.append_mem_mul inLeft inRight,
        spans_append.mpr ⟨j, reaches, spans⟩⟩
    · rintro ⟨i, start, _, ⟨before, inLeft, word, inRight, rfl⟩, spans⟩
      obtain ⟨j, reaches, spans⟩ := spans_append.mp spans
      exact ⟨j, (firstRecognizes.mem_ends text starts j ascending).mpr
        ⟨i, start, before, inLeft, reaches⟩, word, inRight, spans⟩

theorem Recognizes.alt {first second : Regex} {left right : Language Char}
    (firstRecognizes : Recognizes first left) (secondRecognizes : Recognizes second right) :
    Recognizes (.alt first second) (left + right) where
  ascending text starts ascending :=
    Offsets.ascending_union (firstRecognizes.ascending text starts ascending)
      (secondRecognizes.ascending text starts ascending)
  mem_ends text starts k ascending := by
    rw [ends, Offsets.mem_union, firstRecognizes.mem_ends text starts k ascending,
      secondRecognizes.mem_ends text starts k ascending]
    constructor
    · rintro (⟨i, start, word, inside, spans⟩ | ⟨i, start, word, inside, spans⟩)
      · exact ⟨i, start, word, Or.inl inside, spans⟩
      · exact ⟨i, start, word, Or.inr inside, spans⟩
    · rintro ⟨i, start, word, inside | inside, spans⟩
      · exact Or.inl ⟨i, start, word, inside, spans⟩
      · exact Or.inr ⟨i, start, word, inside, spans⟩

theorem Recognizes.group {body : Regex} {language : Language Char}
    (recognizes : Recognizes body language) : Recognizes (.group body) language :=
  ⟨recognizes.ascending, recognizes.mem_ends⟩

section Star

variable {body : Regex} {language : Language Char}

theorem Recognizes.forward_iff (recognizes : Recognizes body language) {text : Array Char}
    {i j : Nat} : Offsets.Forward (fun i => body.ends false text [i]) i j ↔
      ∃ word ∈ language, word ≠ [] ∧ Spans text i word j := by
  have single := recognizes.mem_ends text [i] j (List.pairwise_singleton _ _)
  simp only [List.mem_singleton, exists_eq_left] at single
  unfold Offsets.Forward
  rw [single]
  constructor
  · rintro ⟨less, word, inside, spans⟩
    refine ⟨word, inside, ?_, spans⟩
    rintro rfl
    have := spans_nil.mp spans
    omega
  · rintro ⟨word, inside, nonempty, spans⟩
    exact ⟨(spans.lt nonempty).1, word, inside, spans⟩

/-- Steps forward lead from one end of a repetition to the other. -/
theorem Recognizes.path_iff (recognizes : Recognizes body language) {text : Array Char}
    {i k : Nat} : Relation.ReflTransGen (Offsets.Forward fun i => body.ends false text [i]) i k ↔
      ∃ word ∈ language∗, Spans text i word k := by
  constructor
  · intro path
    induction path using Relation.ReflTransGen.head_induction_on with
    | refl => exact ⟨[], Language.nil_mem_kstar language, spans_nil.mpr rfl⟩
    | head forward _ inductionHypothesis =>
      obtain ⟨word, inside, _, spans⟩ := recognizes.forward_iff.mp forward
      obtain ⟨rest, inStar, later⟩ := inductionHypothesis
      obtain ⟨words, rfl, members⟩ := Language.mem_kstar.mp inStar
      refine ⟨word ++ words.flatten, Language.mem_kstar.mpr ⟨word :: words, rfl, ?_⟩,
        spans_append.mpr ⟨_, spans, later⟩⟩
      intro part member
      rcases List.mem_cons.mp member with rfl | member
      · exact inside
      · exact members part member
  · rintro ⟨word, inStar, spans⟩
    obtain ⟨words, rfl, members⟩ := Language.mem_kstar_iff_exists_nonempty.mp inStar
    clear inStar
    induction words generalizing i with
    | nil =>
      rw [spans_nil.mp spans]
    | cons word words inductionHypothesis =>
      rw [List.flatten_cons] at spans
      obtain ⟨j, first, later⟩ := spans_append.mp spans
      obtain ⟨inside, nonempty⟩ := members word (by simp)
      exact .head (recognizes.forward_iff.mpr ⟨word, inside, nonempty, first⟩)
        (inductionHypothesis (fun part member => members part (List.mem_cons_of_mem _ member))
          later)

theorem Recognizes.star (recognizes : Recognizes body language) :
    Recognizes (.star body) language∗ := by
  have steps : ∀ text i, Ascending (body.ends false text [i]) := fun text i =>
    recognizes.ascending text [i] (List.pairwise_singleton _ _)
  refine ⟨fun text starts ascending => ?_, fun text starts k ascending => ?_⟩
  · exact Offsets.ascending_reach (steps text) ascending
  · rw [ends]
    constructor
    · intro member
      obtain ⟨i, start, path⟩ := Offsets.exists_of_mem_reach member
      exact ⟨i, start, recognizes.path_iff.mp path⟩
    · rintro ⟨i, start, spans⟩
      have bounded : ∀ i j, Offsets.Forward (fun i => body.ends false text [i]) i j →
          i < text.size := by
        intro i j forward
        obtain ⟨word, _, nonempty, spans⟩ := recognizes.forward_iff.mp forward
        exact (spans.lt nonempty).2
      exact Offsets.mem_reach_of_path (steps text) bounded ascending (fun i _ => by omega) start
        (recognizes.path_iff.mpr spans)

end Star

theorem Recognizes.opt {body : Regex} {language : Language Char}
    (recognizes : Recognizes body language) : Recognizes body.opt (1 + language) := by
  rw [add_comm]
  exact recognizes.alt recognizes_empty

theorem Recognizes.plus {body : Regex} {language : Language Char}
    (recognizes : Recognizes body language) : Recognizes body.plus (language * language∗) :=
  recognizes.seq recognizes.star

theorem ends_seqAll_cons (caseless : Bool) (text : Array Char) (r : Regex) (rest : List Regex)
    (starts : List Nat) :
    (seqAll (r :: rest)).ends caseless text starts =
      (seqAll rest).ends caseless text (r.ends caseless text starts) := by
  cases rest with
  | nil => simp only [seqAll, ends]
  | cons next rest => simp only [seqAll, ends]

theorem ends_seqAll_append (caseless : Bool) (text : Array Char) (first second : List Regex)
    (starts : List Nat) :
    (seqAll (first ++ second)).ends caseless text starts =
      (seqAll second).ends caseless text ((seqAll first).ends caseless text starts) := by
  induction first generalizing starts with
  | nil => simp only [List.nil_append, seqAll, ends]
  | cons r first inductionHypothesis =>
    rw [List.cons_append, ends_seqAll_cons, inductionHypothesis, ends_seqAll_cons]

theorem Recognizes.seqAll_cons {r : Regex} {rest : List Regex} {left right : Language Char}
    (recognizes : Recognizes r left) (others : Recognizes (seqAll rest) right) :
    Recognizes (seqAll (r :: rest)) (left * right) := by
  have whole := recognizes.seq others
  refine ⟨fun text starts ascending => ?_, fun text starts k ascending => ?_⟩
  · rw [ends_seqAll_cons]
    exact whole.ascending text starts ascending
  · rw [ends_seqAll_cons]
    exact whole.mem_ends text starts k ascending

theorem Recognizes.seqAll_append {first second : List Regex} {left right : Language Char}
    (recognizes : Recognizes (seqAll first) left) (others : Recognizes (seqAll second) right) :
    Recognizes (seqAll (first ++ second)) (left * right) := by
  have whole := recognizes.seq others
  refine ⟨fun text starts ascending => ?_, fun text starts k ascending => ?_⟩
  · rw [ends_seqAll_append]
    exact whole.ascending text starts ascending
  · rw [ends_seqAll_append]
    exact whole.mem_ends text starts k ascending

/-- A whole text matches parts and then the mark for the end exactly if it is a word. -/
theorem Recognizes.matchesWhole_iff {parts : List Regex} {language : Language Char}
    (recognizes : Recognizes (seqAll parts) language) (text : List Char) :
    (seqAll (parts ++ [.atEnd])).matchesWhole false text = true ↔ text ∈ language := by
  have single := recognizes.mem_ends text.toArray [0] text.length (List.pairwise_singleton _ _)
  unfold matchesWhole
  rw [List.contains_iff_mem, ends_seqAll_append, seqAll, ends, List.mem_filter, single]
  simp only [List.mem_singleton, exists_eq_left, Spans, List.drop_zero]
  constructor
  · rintro ⟨⟨word, inside, start, length⟩, _⟩
    rw [← start.eq_of_length (by omega)]
    exact inside
  · intro inside
    exact ⟨⟨text, inside, List.prefix_rfl, by omega⟩, by simp [isEnd]⟩

/-- Behind a part of a text is its end, or a newline that ends it. -/
theorem isEnd_append {word rest : List Char} :
    isEnd (word ++ rest).toArray word.length = true ↔ rest = [] ∨ rest = ['\n'] := by
  cases rest with
  | nil => simp [isEnd]
  | cons c rest => cases rest <;> simp [isEnd]

/-- The start of a text matches parts and then the mark for the end exactly if the text is a word,
or a word and a newline. -/
theorem Recognizes.matchesStart_iff {parts : List Regex} {language : Language Char}
    (recognizes : Recognizes (seqAll parts) language) (text : List Char) :
    (seqAll (parts ++ [.atEnd])).matchesStart false text = true ↔
      ∃ word ∈ language, text = word ∨ text = word ++ ['\n'] := by
  have single := fun k => recognizes.mem_ends text.toArray [0] k (List.pairwise_singleton _ _)
  simp only [List.mem_singleton, exists_eq_left, Spans, List.drop_zero] at single
  unfold matchesStart
  rw [Bool.not_eq_true', List.isEmpty_eq_false_iff_exists_mem, ends_seqAll_append, seqAll, ends]
  simp only [List.mem_filter, single]
  constructor
  · rintro ⟨k, ⟨word, inside, ⟨rest, rfl⟩, length⟩, atEnd⟩
    rw [length, Nat.zero_add, isEnd_append] at atEnd
    rcases atEnd with rfl | rfl
    · exact ⟨word, inside, .inl (List.append_nil word)⟩
    · exact ⟨word, inside, .inr rfl⟩
  · rintro ⟨word, inside, whole⟩
    obtain ⟨rest, rfl, atEnd⟩ : ∃ rest, text = word ++ rest ∧ (rest = [] ∨ rest = ['\n']) := by
      rcases whole with rfl | rfl
      · exact ⟨[], (List.append_nil text).symm, .inl rfl⟩
      · exact ⟨['\n'], rfl, .inr rfl⟩
    exact ⟨word.length, ⟨word, inside, ⟨rest, rfl⟩, (Nat.zero_add _).symm⟩, isEnd_append.mpr atEnd⟩

end Shell.Regex
