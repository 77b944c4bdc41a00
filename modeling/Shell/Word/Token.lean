import Shell.Text.Letter
import Shell.Text.Split
import Shell.Word.Command

/-!
The tokens of a pattern before expansion: text that stays as it is, quoted text, variables and
commands.
-/

namespace Shell.Word

open Text

/-- A token of a pattern. -/
inductive Token
  /-- Text that stays as it is. -/
  | raw (text : List Char)
  /-- Quoted text. -/
  | literal (text : List Char)
  /-- A variable, and whether it is quoted. -/
  | parameter (name : List Char) (quoted : Bool)
  /-- A command substitution: how it is written, the command, and whether it is quoted. -/
  | command (source body : List Char) (quoted : Bool)
deriving DecidableEq, Repr

/-- What a dollar sign introduces, each with its text after the sign. -/
inductive Dollar
  | parameter (name source : List Char)
  | command (body source : List Char)
  /-- Arithmetic, or a command that does not close. -/
  | verbatim (source : List Char)
deriving DecidableEq, Repr

/-- The text after the dollar sign. -/
def Dollar.source : Dollar → List Char
  | parameter _ source | command _ source | verbatim source => source

/-- Parameters named by one character that begins no identifier. -/
def specialParameters : List Char := "?#$!@*-0123456789".toList

/-- A text up to and including the first `))`, or all of it. -/
def throughDoubleClose : List Char → List Char
  | [] => []
  | ')' :: ')' :: _ => [')', ')']
  | c :: rest => c :: throughDoubleClose rest

/-- A character that may continue a variable's name in running text. -/
def continuesName (c : Char) : Bool := isAlphanumeric c || c = '_'

/-- What a dollar sign in front of the text introduces. -/
def dollar? : List Char → Option Dollar
  | [] => none
  | '(' :: '(' :: rest => some (.verbatim ('(' :: '(' :: throughDoubleClose rest))
  | '(' :: rest =>
    match command? rest with
    | none => some (.verbatim ('(' :: rest))
    | some (body, _) => some (.command body ('(' :: body ++ [')']))
  | '\x7b' :: rest =>
    (splitAt? '\x7d' rest).map fun (name, _) => .parameter name ('\x7b' :: name ++ ['\x7d'])
  | c :: rest =>
    if isLetter c || c = '_' then
      let name := c :: rest.takeWhile continuesName
      some (.parameter name name)
    else if specialParameters.contains c then some (.parameter [c] [c])
    else none

/-- Tokens at the head of a text and the number of characters they take. -/
structure Head where
  tokens : List Token
  length : Nat
deriving DecidableEq, Repr

/-- What a dollar sign introduces, as a token. -/
def Dollar.head (quoted : Bool) (dollar : Dollar) : Head where
  length := dollar.source.length + 1
  tokens :=
    match dollar with
    | .parameter name _ => [.parameter name quoted]
    | .command body source => [.command ('$' :: source) body quoted]
    | .verbatim source => [if quoted then .literal ('$' :: source) else .raw ('$' :: source)]

/-- A command between backticks, from the text after the first one. -/
def backtick? (quoted : Bool) (rest : List Char) : Option Head :=
  (splitUnescaped? '\x60' rest).map fun (body, _) =>
    ⟨[.command ('\x60' :: body ++ ['\x60']) body quoted], body.length + 2⟩

/-- Characters that a backslash protects inside double quotes. -/
def protectedInQuotes : List Char := ['$', '\x60', '\\', '\x22']

/-- Tokens at the head of double-quoted text. -/
def quotedHead (c : Char) (rest : List Char) : Head :=
  let itself : Head := ⟨[.literal [c]], 1⟩
  match c, rest with
  | '\\', next :: _ =>
    if protectedInQuotes.contains next then ⟨[.literal [next]], 2⟩ else itself
  | '$', rest => ((dollar? rest).map (Dollar.head true)).getD itself
  | '\x60', rest => (backtick? true rest).getD itself
  | _, _ => itself

/-- Tokens of double-quoted text whose first `skip` characters are accounted for. -/
def quotedTokensAfter : (skip : Nat) → List Char → List Token
  | _, [] => []
  | skip + 1, _ :: rest => quotedTokensAfter skip rest
  | 0, c :: rest =>
    let head := quotedHead c rest
    head.tokens ++ quotedTokensAfter (head.length - 1) rest

/-- Tokens at the head of a pattern. A quotation mark that nothing closes stands for itself. -/
def plainHead (c : Char) (rest : List Char) : Head :=
  let itself : Head := ⟨[.raw [c]], 1⟩
  match c, rest with
  | '\x27', rest =>
    ((splitAt? '\x27' rest).map fun (text, _) =>
      (⟨[.literal text], text.length + 2⟩ : Head)).getD itself
  | '\x22', rest =>
    ((splitUnescaped? '\x22' rest).map fun (text, _) =>
      (⟨quotedTokensAfter 0 text, text.length + 2⟩ : Head)).getD itself
  | '$', rest => ((dollar? rest).map (Dollar.head false)).getD itself
  | '\x60', rest => (backtick? false rest).getD itself
  | '\\', next :: _ => ⟨[.raw ['\\', next]], 2⟩
  | _, _ => itself

/-- Tokens of a pattern whose first `skip` characters are accounted for. -/
def tokensAfter : (skip : Nat) → List Char → List Token
  | _, [] => []
  | skip + 1, _ :: rest => tokensAfter skip rest
  | 0, c :: rest =>
    let head := plainHead c rest
    head.tokens ++ tokensAfter (head.length - 1) rest

/-- The tokens of a pattern. -/
def tokens (pattern : List Char) : List Token := tokensAfter 0 pattern

end Shell.Word
