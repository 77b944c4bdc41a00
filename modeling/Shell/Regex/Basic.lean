import Shell.Regex.CharSet
import Shell.Regex.Offsets

/-!
Regular expressions and matching. Matching yields every offset at which a match may end, so a whole
text matches when a match from its start may end at its end.
-/

namespace Shell

/-- A regular expression. -/
inductive Regex
  /-- Matches without reading. -/
  | empty
  /-- Reads the character with this code point, or, if negated, any other. -/
  | char (code : Nat) (negated : Bool)
  /-- Reads one character of a set. -/
  | set (chars : Regex.CharSet)
  /-- One expression after the other. -/
  | seq (first second : Regex)
  /-- Either of two expressions. -/
  | alt (left right : Regex)
  /-- An expression in parentheses. -/
  | group (body : Regex)
  /-- Any number of times, none included. -/
  | star (body : Regex)
  /-- Matches without reading, where the body does not match. -/
  | notAhead (body : Regex)
  /-- Matches without reading, at the end of the text or before a newline that ends it. -/
  | atEnd
deriving DecidableEq, Repr

namespace Regex

/-- Once or not at all. -/
def opt (body : Regex) : Regex := alt body empty

/-- Once or more. -/
def plus (body : Regex) : Regex := seq body (star body)

/-- One expression after the other. -/
def seqAll : List Regex → Regex
  | [] => empty
  | [r] => r
  | r :: rest => seq r (seqAll rest)

/-- Any of several expressions, at least one. -/
def altAll (first : Regex) : List Regex → Regex
  | [] => first
  | next :: rest => alt first (altAll next rest)

/-- The offsets behind a character that passes a test, among the characters at some offsets. -/
def readOne (text : Array Char) (passes : Char → Bool) (starts : List Nat) : List Nat :=
  (starts.filter fun i => text[i]?.any passes).map (· + 1)

/-- The offset is that of the end of a text, or of a newline that ends it. -/
def isEnd (text : Array Char) (i : Nat) : Bool :=
  i == text.size || (i + 1 == text.size && text[i]? == some '\n')

/-- Where the matches end that start at some offsets, in order. -/
def ends (caseless : Bool) (text : Array Char) : Regex → List Nat → List Nat
  | empty, starts => starts
  | char code negated, starts =>
    readOne text (fun c => isChar caseless code c != negated) starts
  | set chars, starts => readOne text (chars.accepts caseless) starts
  | seq first second, starts =>
    second.ends caseless text (first.ends caseless text starts)
  | alt left right, starts =>
    Offsets.union (left.ends caseless text starts) (right.ends caseless text starts)
  | group body, starts => body.ends caseless text starts
  | star body, starts =>
    Offsets.reach (fun i => body.ends caseless text [i]) (text.size + 1) starts
  | notAhead body, starts => starts.filter fun i => (body.ends caseless text [i]).isEmpty
  | atEnd, starts => starts.filter (isEnd text)

/-- The whole text matches. -/
def matchesWhole (caseless : Bool) (r : Regex) (text : List Char) : Bool :=
  (r.ends caseless text.toArray [0]).contains text.length

/-- Some start of the text matches. -/
def matchesStart (caseless : Bool) (r : Regex) (text : List Char) : Bool :=
  !(r.ends caseless text.toArray [0]).isEmpty

end Regex

end Shell
