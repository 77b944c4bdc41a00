/-!
Command substitutions inside a pattern: whether one occurs, and where it ends.
-/

namespace Shell.Word

/-- Split a text at the first occurrence of a character that no backslash protects. -/
def splitUnescaped? (mark : Char) : List Char → Option (List Char × List Char)
  | [] => none
  | '\\' :: c :: rest =>
    (splitUnescaped? mark rest).map fun (before, after) => ('\\' :: c :: before, after)
  | c :: rest =>
    if c = mark then some ([], rest)
    else (splitUnescaped? mark rest).map fun (before, after) => (c :: before, after)

/-- A command substitution, `$(` or a backtick, occurs outside single quotes. `quoted` says that
a single quote is open. -/
def runsCommandFrom : (quoted : Bool) → List Char → Bool
  | _, [] => false
  | true, c :: rest => runsCommandFrom (c ≠ '\x27') rest
  | false, '\\' :: _ :: rest => runsCommandFrom false rest
  | false, '\x27' :: rest => runsCommandFrom (rest.contains '\x27') rest
  | false, '$' :: '(' :: _ => true
  | false, '\x60' :: _ => true
  | false, _ :: rest => runsCommandFrom false rest

/-- A command substitution occurs in the pattern. -/
def runsCommand (pattern : List Char) : Bool := runsCommandFrom false pattern

/-- Quotation marks that are open inside a command. -/
inductive Quotation
  | plain
  | single
  | double
deriving DecidableEq, Repr

/-- Split a text at the parenthesis that closes a command substitution, when `depth` more are open
inside. Quoted parentheses do not count. -/
def commandFrom? : (depth : Nat) → Quotation → List Char → Option (List Char × List Char)
  | _, _, [] => none
  | depth, .single, c :: rest =>
    (commandFrom? depth (if c = '\x27' then .plain else .single) rest).map fun (body, after) =>
      (c :: body, after)
  | depth, quotation, '\\' :: c :: rest =>
    (commandFrom? depth quotation rest).map fun (body, after) => ('\\' :: c :: body, after)
  | depth, .double, c :: rest =>
    (commandFrom? depth (if c = '\x22' then .plain else .double) rest).map fun (body, after) =>
      (c :: body, after)
  | depth, .plain, '\x27' :: rest =>
    (commandFrom? depth .single rest).map fun (body, after) => ('\x27' :: body, after)
  | depth, .plain, '\x22' :: rest =>
    (commandFrom? depth .double rest).map fun (body, after) => ('\x22' :: body, after)
  | depth, .plain, '(' :: rest =>
    (commandFrom? (depth + 1) .plain rest).map fun (body, after) => ('(' :: body, after)
  | 0, .plain, ')' :: rest => some ([], rest)
  | depth + 1, .plain, ')' :: rest =>
    (commandFrom? depth .plain rest).map fun (body, after) => (')' :: body, after)
  | depth, .plain, c :: rest =>
    (commandFrom? depth .plain rest).map fun (body, after) => (c :: body, after)

/-- Body of a command substitution, and the text after it, from the text after `$(`. -/
def command? (text : List Char) : Option (List Char × List Char) := commandFrom? 0 .plain text

/-- The offset at which a command substitution closes whose body begins at offset `start`. -/
def commandEnd? (text : List Char) (start : Nat) : Option Nat :=
  (command? (text.drop start)).map fun (body, _) => start + body.length

end Shell.Word
