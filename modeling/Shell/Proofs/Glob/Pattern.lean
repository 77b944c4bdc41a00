import Mathlib.Computability.Language
import Shell.Glob.Escape
import Shell.Glob.RegexText

/-!
# Patterns as trees, their texts and their languages

A pattern is a list of atoms. Its text is what a script would hold, with a backslash
before every literal character that has a meaning of its own; its language is the set
of texts it stands for. The language is given without any reference to how a text is
read or matched.
-/

namespace Shell.Glob

open Computability

/-- A member of a bracket: an ASCII letter or digit, or all characters between two of them. -/
inductive Member
  | one (c : Char) (plain : c.isAlphanum)
  | range (low high : Char) (lowPlain : low.isAlphanum) (highPlain : high.isAlphanum)
    (ascending : low ≤ high)

namespace Member

def text : Member → List Char
  | one c _ => [c]
  | range low high _ _ _ => [low, '-', high]

/-- The characters that a member stands for. -/
def Has : Member → Char → Prop
  | one c _, d => d = c
  | range low high _ _ _, d => low ≤ d ∧ d ≤ high

end Member

/-- A bracket with one member at least. -/
structure Bracket where
  negated : Bool
  first : Member
  others : List Member

namespace Bracket

def members (bracket : Bracket) : List Member := bracket.first :: bracket.others

/-- What stands between the brackets. -/
def content (bracket : Bracket) : List Char :=
  (if bracket.negated then ['!'] else []) ++ bracket.members.flatMap Member.text

/-- The characters that a bracket stands for. -/
def Has (bracket : Bracket) (c : Char) : Prop :=
  if bracket.negated then ¬ ∃ member ∈ bracket.members, member.Has c
  else ∃ member ∈ bracket.members, member.Has c

end Bracket

/-- A part of a pattern. A group has one alternative at least. -/
inductive Atom
  | literal (c : Char)
  | anyChar
  | anyText
  | bracket (set : Bracket)
  | group (kind : GroupKind) (first : List Atom) (others : List (List Atom))

/-- What a group stands for whose alternatives together have this language. -/
def GroupKind.language (kind : GroupKind) (inner : Language Char) : Language Char :=
  match kind with
  | one => inner
  | any => inner∗
  | many => inner * inner∗
  | optional => 1 + inner
  | none => innerᶜ

namespace Atom

mutual

def text : Atom → List Char
  | literal c => protect [c]
  | anyChar => ['?']
  | anyText => ['*']
  | bracket set => '[' :: set.content ++ [']']
  | group kind first others =>
    kind.sign :: '(' :: joinBars (textOf first :: textsOf others) ++ [')']

/-- The text of a pattern. -/
def textOf : List Atom → List Char
  | [] => []
  | atom :: rest => atom.text ++ textOf rest

def textsOf : List (List Atom) → List (List Char)
  | [] => []
  | pattern :: rest => textOf pattern :: textsOf rest

end

mutual

def language : Atom → Language Char
  | literal c => {[c]}
  | anyChar => {text | ∃ c, text = [c]}
  | anyText => ⊤
  | bracket set => {text | ∃ c, set.Has c ∧ text = [c]}
  | group kind first others => kind.language (languageOf first + unionOf others)

/-- The texts that a pattern stands for. -/
def languageOf : List Atom → Language Char
  | [] => 1
  | atom :: rest => atom.language * languageOf rest

/-- The texts that some of several patterns stands for. -/
def unionOf : List (List Atom) → Language Char
  | [] => 0
  | pattern :: rest => languageOf pattern + unionOf rest

end

mutual

/-- There is no refused group, at any depth. -/
def Positive : Atom → Prop
  | group kind first others => kind ≠ .none ∧ PositiveAll first ∧ PositiveEach others
  | _ => True

def PositiveAll : List Atom → Prop
  | [] => True
  | atom :: rest => atom.Positive ∧ PositiveAll rest

def PositiveEach : List (List Atom) → Prop
  | [] => True
  | pattern :: rest => PositiveAll pattern ∧ PositiveEach rest

end

mutual

/-- Refused groups stand outside all groups but refused ones. -/
def Admissible : Atom → Prop
  | group .none first others => AdmissibleAll first ∧ AdmissibleEach others
  | group _ first others => PositiveAll first ∧ PositiveEach others
  | _ => True

def AdmissibleAll : List Atom → Prop
  | [] => True
  | atom :: rest => atom.Admissible ∧ AdmissibleAll rest

def AdmissibleEach : List (List Atom) → Prop
  | [] => True
  | pattern :: rest => AdmissibleAll pattern ∧ AdmissibleEach rest

end

end Atom

/-- A pattern whose refused groups stand outside all groups but refused ones. -/
structure Pattern where
  atoms : List Atom
  admissible : Atom.AdmissibleAll atoms

namespace Pattern

def text (pattern : Pattern) : List Char := Atom.textOf pattern.atoms

def language (pattern : Pattern) : Language Char := Atom.languageOf pattern.atoms

end Pattern

end Shell.Glob
