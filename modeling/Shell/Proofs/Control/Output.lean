import Shell.Proofs.Control.Trace

/-!
# Where the output of a run goes

The output that a run delivers, with its outcome or with the signal that ends it, is
the output of its events in their order, except that a loop which is stopped by the
limit of rounds delivers the report of the limit alone. So nothing is lost exactly if
no such loop printed anything.
-/

namespace Shell

open Running

/-- Text for the two channels. -/
structure Output where
  stdout : String
  stderr : String
deriving DecidableEq, Repr

namespace Output

instance : EmptyCollection Output := ⟨⟨"", ""⟩⟩

instance : Append Output :=
  ⟨fun first next => ⟨first.stdout ++ next.stdout, first.stderr ++ next.stderr⟩⟩

@[ext]
theorem ext {first second : Output} (stdout : first.stdout = second.stdout)
    (stderr : first.stderr = second.stderr) : first = second := by
  cases first
  cases second
  simp_all

@[simp]
theorem append_mk (a b c d : String) : (⟨a, b⟩ : Output) ++ ⟨c, d⟩ = ⟨a ++ c, b ++ d⟩ := rfl

@[simp]
theorem empty_append (output : Output) : ∅ ++ output = output := by
  ext1
  · exact String.empty_append
  · exact String.empty_append

@[simp]
theorem append_empty (output : Output) : output ++ ∅ = output := by
  ext1
  · exact String.append_empty
  · exact String.append_empty

theorem append_assoc (first second third : Output) :
    first ++ second ++ third = first ++ (second ++ third) := by
  ext1
  · exact String.append_assoc
  · exact String.append_assoc

/-- Neither channel is longer. -/
def Within (first second : Output) : Prop :=
  first.stdout.toList.length ≤ second.stdout.toList.length ∧
    first.stderr.toList.length ≤ second.stderr.toList.length

theorem Within.refl (output : Output) : Within output output := ⟨Nat.le_refl _, Nat.le_refl _⟩

theorem within_append {first second third fourth : Output} (left : Within first third)
    (right : Within second fourth) : Within (first ++ second) (third ++ fourth) := by
  refine ⟨?_, ?_⟩
  · change (first.stdout ++ second.stdout).toList.length ≤
      (third.stdout ++ fourth.stdout).toList.length
    simpa using Nat.add_le_add left.1 right.1
  · change (first.stderr ++ second.stderr).toList.length ≤
      (third.stderr ++ fourth.stderr).toList.length
    simpa using Nat.add_le_add left.2 right.2

theorem append_text_inj {first second third fourth : String}
    (equality : first ++ second = third ++ fourth)
    (left : first.toList.length ≤ third.toList.length)
    (right : second.toList.length ≤ fourth.toList.length) : first = third ∧ second = fourth := by
  have texts := congrArg String.toList equality
  rw [String.toList_append, String.toList_append] at texts
  have lengths := congrArg List.length texts
  rw [List.length_append, List.length_append] at lengths
  obtain ⟨same, rest⟩ := List.append_inj texts (by omega)
  exact ⟨String.toList_inj.mp same, String.toList_inj.mp rest⟩

/-- Output put together from shorter parts is the same only if all parts are. -/
theorem append_eq_append_iff {first second third fourth : Output} (left : Within first third)
    (right : Within second fourth) :
    first ++ second = third ++ fourth ↔ first = third ∧ second = fourth := by
  constructor
  · intro equality
    obtain ⟨stdout, stdoutRest⟩ :=
      append_text_inj (congrArg Output.stdout equality) left.1 right.1
    obtain ⟨stderr, stderrRest⟩ :=
      append_text_inj (congrArg Output.stderr equality) left.2 right.2
    exact ⟨Output.ext stdout stderr, Output.ext stdoutRest stderrRest⟩
  · rintro ⟨rfl, rfl⟩
    rfl

end Output

namespace Event

mutual

/-- All that an event prints. -/
def printed : Event → Output
  | text stdout stderr => ⟨stdout, stderr⟩
  | loop rounds limit => printedAll rounds ++ ⟨"", limit.getD ""⟩
  | call _ body _ => printedAll body

def printedAll : List Event → Output
  | [] => ∅
  | event :: rest => event.printed ++ printedAll rest

end

mutual

/-- What is left of the output of an event when the run ends. -/
def kept : Event → Output
  | text stdout stderr => ⟨stdout, stderr⟩
  | loop rounds none => keptAll rounds
  | loop _ (some report) => ⟨"", report⟩
  | call _ body _ => keptAll body

def keptAll : List Event → Output
  | [] => ∅
  | event :: rest => event.kept ++ keptAll rest

end

mutual

/-- No loop that was stopped by the limit printed anything before. -/
def Lossless : Event → Prop
  | text _ _ => True
  | loop rounds none => LosslessAll rounds
  | loop rounds (some _) => printedAll rounds = ∅
  | call _ body _ => LosslessAll body

def LosslessAll : List Event → Prop
  | [] => True
  | event :: rest => event.Lossless ∧ LosslessAll rest

end

theorem keptAll_append (first second : List Event) :
    keptAll (first ++ second) = keptAll first ++ keptAll second := by
  induction first with
  | nil => simp [keptAll]
  | cons event rest inductionHypothesis =>
    rw [List.cons_append, keptAll, keptAll, inductionHypothesis, Output.append_assoc]

mutual

theorem kept_within : (event : Event) → event.kept.Within event.printed
  | text stdout stderr => Output.Within.refl _
  | loop rounds none => by
    rw [kept, printed, Option.getD_none]
    have rest := keptAll_within rounds
    have whole := Output.within_append rest (Output.Within.refl (∅ : Output))
    rw [Output.append_empty] at whole
    exact whole
  | loop rounds (some report) => by
    rw [kept, printed, Option.getD_some]
    have nothing : Output.Within ∅ (printedAll rounds) := ⟨Nat.zero_le _, Nat.zero_le _⟩
    have whole := Output.within_append nothing (Output.Within.refl ⟨"", report⟩)
    rw [Output.empty_append] at whole
    exact whole
  | call _ body _ => keptAll_within body

theorem keptAll_within : (events : List Event) → (keptAll events).Within (printedAll events)
  | [] => Output.Within.refl _
  | event :: rest => Output.within_append (kept_within event) (keptAll_within rest)

end

mutual

theorem kept_eq_printed_iff : (event : Event) → (event.kept = event.printed ↔ event.Lossless)
  | text stdout stderr => by simp [kept, printed, Lossless]
  | loop rounds none => by
    rw [kept, printed, Lossless, Option.getD_none]
    change keptAll rounds = printedAll rounds ++ ∅ ↔ _
    rw [Output.append_empty]
    exact keptAll_eq_printedAll_iff rounds
  | loop rounds (some report) => by
    rw [kept, printed, Lossless, Option.getD_some]
    have nothing : Output.Within ∅ (printedAll rounds) := ⟨Nat.zero_le _, Nat.zero_le _⟩
    have parts := Output.append_eq_append_iff nothing (Output.Within.refl ⟨"", report⟩)
    rw [Output.empty_append] at parts
    rw [parts]
    exact ⟨fun both => both.1.symm, fun empty => ⟨empty.symm, rfl⟩⟩
  | call _ body _ => by
    rw [kept, printed, Lossless]
    exact keptAll_eq_printedAll_iff body

theorem keptAll_eq_printedAll_iff :
    (events : List Event) → (keptAll events = printedAll events ↔ LosslessAll events)
  | [] => by simp [keptAll, printedAll, LosslessAll]
  | event :: rest => by
    rw [keptAll, printedAll, LosslessAll,
      Output.append_eq_append_iff (kept_within event) (keptAll_within rest),
      kept_eq_printed_iff event, keptAll_eq_printedAll_iff rest]

end

end Event

end Shell
