import Shell.Glob.Matcher
import Shell.Text.Case

/-!
Editing a text with a pattern: removing what matches at an end, replacing what matches, and changing
the case of characters that match.
-/

namespace Shell.Glob

open Text

/-- An end of a text. -/
inductive Side
  | start
  | finish
deriving DecidableEq, Repr

/-- The offsets at which to cut a text for a match at an end, in the order in which to try them. A
pattern of known width leaves at most one to try. -/
def candidates (width : Option Nat) (side : Side) (longest : Bool) (text : List Char) : List Nat :=
  match width, side with
  | some width, .start => if width ≤ text.length then [width] else []
  | some width, .finish => if width ≤ text.length then [text.length - width] else []
  | none, .start => if longest then (cutPoints text).reverse else cutPoints text
  | none, .finish => if longest then cutPoints text else (cutPoints text).reverse

/-- Remove the shortest, or the longest, match at an end. A malformed pattern removes nothing. -/
def remove (mode : Mode) (pattern : List Char) (side : Side) (longest : Bool) (text : List Char) :
    List Char :=
  match compile? mode pattern with
  | none => text
  | some matcher =>
    let tried := candidates (width? mode.extended pattern) side longest text
    match side with
    | .start =>
      match tried.find? fun i => matcher.accepts (text.take i) with
      | some i => text.drop i
      | none => text
    | .finish =>
      match tried.find? fun i => matcher.accepts (text.drop i) with
      | some i => text.take i
      | none => text

/-- The length of the longest match at the head of a text; an empty match counts if allowed. -/
def longestMatch? (accepts : List Char → Bool) (allowEmpty : Bool) (text : List Char) :
    Option Nat :=
  (cutPoints text).reverse.find? fun i => (allowEmpty || i != 0) && accepts (text.take i)

/-- Replace the first match, the longest one where it begins. -/
def replaceFirst (accepts : List Char → Bool) (replacement : List Char) : List Char → List Char
  | [] => []
  | c :: rest =>
    match longestMatch? accepts true (c :: rest) with
    | none => c :: replaceFirst accepts replacement rest
    | some length => replacement ++ (c :: rest).drop length

/-- Replace the matches one after the other, each the longest where it begins. The next `skip`
characters belong to the match before. An empty match counts only while nothing is replaced. -/
def replaceAllFrom (accepts : List Char → Bool) (replacement : List Char) :
    (replaced : Bool) → (skip : Nat) → List Char → List Char
  | _, _, [] => []
  | replaced, skip + 1, _ :: rest => replaceAllFrom accepts replacement replaced skip rest
  | replaced, 0, c :: rest =>
    match longestMatch? accepts (!replaced) (c :: rest) with
    | none => c :: replaceAllFrom accepts replacement replaced 0 rest
    | some 0 => replacement ++ c :: replaceAllFrom accepts replacement true 0 rest
    | some (length + 1) => replacement ++ replaceAllFrom accepts replacement true length rest

/-- Which matches are replaced. -/
inductive Scope
  | first
  | every
  | anchored (side : Side)
deriving DecidableEq, Repr

/-- Replace the longest match at an end. -/
def replaceAt (accepts : List Char → Bool) (replacement : List Char) (side : Side)
    (text : List Char) : List Char :=
  match side with
  | .start =>
    match (cutPoints text).reverse.find? fun i => accepts (text.take i) with
    | some i => replacement ++ text.drop i
    | none => text
  | .finish =>
    match (cutPoints text).find? fun i => accepts (text.drop i) with
    | some i => text.take i ++ replacement
    | none => text

/-- Replace what a pattern matches. An empty pattern matches at an end only, and a malformed one
nowhere. -/
def replace (mode : Mode) (pattern replacement : List Char) (scope : Scope) (text : List Char) :
    List Char :=
  if pattern.isEmpty then
    match scope with
    | .anchored .start => replacement ++ text
    | .anchored .finish => text ++ replacement
    | _ => text
  else match compile? mode pattern with
    | none => text
    | some matcher =>
      match scope with
      | .anchored side => replaceAt matcher.accepts replacement side text
      | .first => replaceFirst matcher.accepts replacement text
      | .every => replaceAllFrom matcher.accepts replacement false 0 text

/-- A letter case. -/
inductive LetterCase
  | capital
  | small
deriving DecidableEq, Repr

/-- A text in a letter case. -/
def LetterCase.apply : LetterCase → List Char → List Char
  | capital => upper
  | small => lower

/-- Change the case of the characters that match, or only of the first that does. -/
def recaseMatching (mode : Mode) (pattern : List Char) (target : LetterCase) (every : Bool) :
    List Char → List Char
  | [] => []
  | c :: rest =>
    if accepts mode pattern [c] then
      target.apply [c] ++ (if every then recaseMatching mode pattern target every rest else rest)
    else c :: recaseMatching mode pattern target every rest

/-- Change the case of a text, or of its first character. A pattern chooses the characters. -/
def recase (pattern : List Char) (target : LetterCase) (every : Bool) (text : List Char) :
    List Char :=
  if pattern.isEmpty then
    if every then target.apply text else target.apply (text.take 1) ++ text.drop 1
  else recaseMatching ⟨false, false⟩ pattern target every text

end Shell.Glob
