import Shell.Glob.Bracket
import Shell.Proofs.Regex.Members

/-!
# Named classes of characters

A class such as `[:alpha:]` is written into a character set as its members. What is read there
is the class, given here without a look at how it is written; a name that is no class's is
written as nothing.
-/

namespace Shell.Glob

open Regex (Item Part Spelling partsText)

/-- A class of characters that has a name. -/
inductive CharClass
  | alnum | alpha | ascii | blank | cntrl | digit | graph | lower | print | punct | space | upper
  | word | xdigit
deriving DecidableEq, Repr

namespace CharClass

def name : CharClass → String
  | alnum => "alnum"
  | alpha => "alpha"
  | ascii => "ascii"
  | blank => "blank"
  | cntrl => "cntrl"
  | digit => "digit"
  | graph => "graph"
  | lower => "lower"
  | print => "print"
  | punct => "punct"
  | space => "space"
  | upper => "upper"
  | word => "word"
  | xdigit => "xdigit"

theorem name_injective {cls other : CharClass} (same : cls.name = other.name) : cls = other := by
  cases cls <;> cases other <;> first | rfl | exact absurd same (by decide)

/-- The characters of a class. No class has characters beyond ASCII. -/
def has : CharClass → Char → Bool
  | alnum, c => c.isAlphanum
  | alpha, c => c.isAlpha
  | ascii, c => c.toNat < 128
  | blank, c => c = ' ' || c = '\t'
  | cntrl, c => c.toNat < 32 || c.toNat = 127
  | digit, c => c.isDigit
  | graph, c => '!' ≤ c && c ≤ '~'
  | lower, c => c.isLower
  | print, c => ' ' ≤ c && c ≤ '~'
  | punct, c => '!' ≤ c && c ≤ '~' && !c.isAlphanum
  | space, c => c = ' ' || '\t' ≤ c && c ≤ '\r'
  | upper, c => c.isUpper
  | word, c => c.isAlphanum || c = '_'
  | xdigit, c => c.isDigit || 'A' ≤ c && c ≤ 'F' || 'a' ≤ c && c ≤ 'f'

/-- Characters that stand for themselves, with a hyphen between them. -/
def span (low high : Char) (plain : (low ≠ '\\' ∧ low ≠ ']' ∧ low ≠ '-') ∧
    (high ≠ '\\' ∧ high ≠ ']' ∧ high ≠ '-') ∧ low.toNat ≤ high.toNat) : Part :=
  .range (.ofChar low plain.1) (.ofChar high plain.2.1) plain.2.2

def small : Part := span 'a' 'z' (by decide)

def capital : Part := span 'A' 'Z' (by decide)

def decimal : Part := span '0' '9' (by decide)

/-- A code point in hexadecimal. -/
def hex (high low : Char) (code : Nat)
    (reads : ∀ rest, Regex.escape? 'x' (high :: low :: rest) = some (.code code, rest)) :
    Spelling :=
  .escaped 'x' [high, low] code reads

/-- A control character behind a backslash. -/
def control (letter : Char) (code : Nat)
    (reads : ∀ rest, Regex.escape? letter rest = some (.code code, rest)) : Part :=
  .one (.escaped letter [] code reads)

def tab : Part := control 't' 9 fun _ => rfl

def blankSpace : Part := .one (.ofChar ' ' (by decide))

/-- The members of a class, as they are written. -/
def parts : CharClass → List Part
  | alnum => [small, capital, decimal]
  | alpha => [small, capital]
  | ascii => [.range (hex '0' '0' 0 fun _ => rfl) (hex '7' 'F' 127 fun _ => rfl) (by decide)]
  | blank => [blankSpace, tab]
  | cntrl =>
    [.range (hex '0' '0' 0 fun _ => rfl) (hex '1' 'F' 31 fun _ => rfl) (by decide),
      .one (hex '7' 'F' 127 fun _ => rfl)]
  | digit => [decimal]
  | graph => [span '!' '~' (by decide)]
  | lower => [small]
  | print => [span ' ' '~' (by decide)]
  | punct =>
    [span '!' '/' (by decide), span ':' '@' (by decide),
      .range (.escaped '[' [] 91 fun _ => rfl) (.ofChar '\x60' (by decide)) (by decide),
      span '\x7b' '~' (by decide)]
  | space =>
    [blankSpace, tab, control 'n' 10 fun _ => rfl, control 'r' 13 fun _ => rfl,
      control 'f' 12 fun _ => rfl, control 'v' 11 fun _ => rfl]
  | upper => [capital]
  | word => [small, capital, decimal, .one (.ofChar '_' (by decide))]
  | xdigit => [decimal, span 'A' 'F' (by decide), span 'a' 'f' (by decide)]

theorem partsText_parts (cls : CharClass) : partsText cls.parts = namedClass cls.name.toList := by
  cases cls <;> decide

section Codes

variable (c : Char)

theorem isLower_eq : c.isLower = decide (97 ≤ c.toNat ∧ c.toNat ≤ 122) := by
  rw [Bool.decide_and]
  rfl

theorem isUpper_eq : c.isUpper = decide (65 ≤ c.toNat ∧ c.toNat ≤ 90) := rfl

theorem isDigit_eq : c.isDigit = decide (48 ≤ c.toNat ∧ c.toNat ≤ 57) := by
  rw [Bool.decide_and]
  rfl

theorem isAlpha_eq : c.isAlpha = (c.isUpper || c.isLower) := rfl

theorem isAlphanum_eq : c.isAlphanum = (c.isAlpha || c.isDigit) := rfl

theorem le_iff_toNat (d : Char) : c ≤ d ↔ c.toNat ≤ d.toNat := Iff.rfl

end Codes

/-- What is read of a class is the class. -/
theorem has_parts_iff (cls : CharClass) (c : Char) :
    (∃ part ∈ cls.parts, part.item.has c = true) ↔ cls.has c = true := by
  cases cls <;>
    simp [parts, small, capital, decimal, tab, control, hex, blankSpace, span, Part.item, Item.has,
      Spelling.ofChar, Spelling.escaped, has, isAlphanum_eq, isAlpha_eq, isLower_eq, isUpper_eq,
      isDigit_eq, ← Char.toNat_inj, le_iff_toNat] <;>
    omega

/-- No class is empty. -/
theorem exists_has (cls : CharClass) : ∃ c, cls.has c = true := by
  cases cls with
  | alnum | alpha | ascii | graph | lower | print | word => exact ⟨'a', by decide⟩
  | digit | xdigit => exact ⟨'0', by decide⟩
  | blank | space => exact ⟨' ', by decide⟩
  | cntrl => exact ⟨'\n', by decide⟩
  | punct => exact ⟨'!', by decide⟩
  | upper => exact ⟨'A', by decide⟩

theorem parts_ne_nil (cls : CharClass) : cls.parts ≠ [] := by
  cases cls <;> exact List.cons_ne_nil _ _

/-- What is written for a class does not begin with the mark of a complement. -/
theorem partsText_parts_head (cls : CharClass) : (partsText cls.parts).head? ≠ some '^' := by
  cases cls <;> decide

/-- A name that is no class's is written as nothing. -/
theorem namedClass_of_unknown {name : List Char}
    (unknown : ∀ cls : CharClass, cls.name.toList ≠ name) : namedClass name = [] := by
  have named : ∀ entry ∈ classMembers, ∃ cls : CharClass, cls.name = entry.1 := by
    simp only [classMembers, List.forall_mem_cons, List.not_mem_nil, false_imp_iff, implies_true,
      and_true]
    exact ⟨⟨alnum, rfl⟩, ⟨alpha, rfl⟩, ⟨ascii, rfl⟩, ⟨blank, rfl⟩, ⟨cntrl, rfl⟩, ⟨digit, rfl⟩,
      ⟨graph, rfl⟩, ⟨lower, rfl⟩, ⟨print, rfl⟩, ⟨punct, rfl⟩, ⟨space, rfl⟩, ⟨upper, rfl⟩,
      ⟨word, rfl⟩, ⟨xdigit, rfl⟩⟩
  have absent : classMembers.lookup (String.ofList name) = none := by
    rw [List.lookup_eq_none_iff]
    intro entry member
    obtain ⟨cls, same⟩ := named entry member
    rw [bne_iff_ne, ← same]
    intro spelled
    exact unknown cls (by rw [← spelled, String.toList_ofList])
  rw [namedClass, absent]
  rfl

/-- What is written for a name: the members of its class, or nothing if it is no class's. -/
theorem namedClass_cases (name : List Char) :
    (∃ cls : CharClass, cls.name.toList = name ∧ namedClass name = partsText cls.parts) ∨
      namedClass name = [] ∧ ∀ cls : CharClass, cls.name.toList ≠ name := by
  by_cases known : ∃ cls : CharClass, cls.name.toList = name
  · obtain ⟨cls, rfl⟩ := known
    exact .inl ⟨cls, rfl, cls.partsText_parts.symm⟩
  · have unknown := not_exists.mp known
    exact .inr ⟨namedClass_of_unknown unknown, unknown⟩

end CharClass

end Shell.Glob
