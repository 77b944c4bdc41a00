import Shell.State
import Shell.Text.Letter
import Shell.Text.Name
import Shell.Text.Split

/-!
Subscripts: variables in them are replaced by their values, and what results is evaluated as
arithmetic with `+ - * / %` and parentheses. `read` gives the value of a variable.
-/

namespace Shell

namespace Arithmetic

open Text

/-- A token of an arithmetic expression. -/
inductive Token
  | number (digits : List Char)
  | name (text : List Char)
  | sign (c : Char)
deriving DecidableEq, Repr

/-- The text of a token. -/
def Token.text : Token → List Char
  | number digits => digits
  | name text => text
  | sign c => [c]

/-- The token at the head of a text that begins with no blank. -/
def headToken (c : Char) (rest : List Char) : Token :=
  if isDecimal c then .number (c :: rest.takeWhile isDecimal)
  else if isNameStart c then .name (c :: rest.takeWhile isNameChar)
  else .sign c

/-- The tokens of a text of which the first `skip` characters are accounted for. -/
def tokensAfter : (skip : Nat) → List Char → List Token
  | _, [] => []
  | skip + 1, _ :: rest => tokensAfter skip rest
  | 0, c :: rest =>
    if isBlank c then tokensAfter 0 rest
    else
      let token := headToken c rest
      token :: tokensAfter (token.text.length - 1) rest

/-- The tokens of an expression. -/
def tokens (text : List Char) : List Token := tokensAfter 0 text

/-- The value of a token that is an operand. -/
def operand (read : String → Draw String) : Token → Draw Int
  | .number digits =>
    match readNat? digits with
    | some value => pure value
    | none => throw (.numeralTooLong digits.length)
  | .name text => do
    let value ← read (String.ofList text)
    pure (intValue value.toList)
  | .sign c =>
    if isDigitSign c then throw (.badNumeral (String.ofList [c]))
    else throw (.unexpectedToken (String.ofList [c]))

/-- The quotient, or the remainder that belongs to it, towards zero. -/
def divide (remainder : Bool) (a b : Int) : Draw Int :=
  if b = 0 then throw .divisionByZero
  else pure (if remainder then a.tmod b else a.tdiv b)

mutual

/-- Evaluate a sum at the head of the tokens. -/
def sum (read : String → Draw String) : (fuel : Nat) → List Token → Draw (Int × List Token)
  | 0, _ => throw .unexpectedEnd
  | fuel + 1, tokens => do
    let (value, rest) ← product read fuel tokens
    sumAfter read fuel value rest

/-- Go on with a sum after its first part. -/
def sumAfter (read : String → Draw String) :
    (fuel : Nat) → Int → List Token → Draw (Int × List Token)
  | 0, _, _ => throw .unexpectedEnd
  | fuel + 1, value, tokens =>
    match tokens with
    | .sign '+' :: rest => do
      let (next, rest) ← product read fuel rest
      sumAfter read fuel (value + next) rest
    | .sign '-' :: rest => do
      let (next, rest) ← product read fuel rest
      sumAfter read fuel (value - next) rest
    | rest => pure (value, rest)

/-- Evaluate a product at the head of the tokens. -/
def product (read : String → Draw String) : (fuel : Nat) → List Token → Draw (Int × List Token)
  | 0, _ => throw .unexpectedEnd
  | fuel + 1, tokens => do
    let (value, rest) ← factor read fuel tokens
    productAfter read fuel value rest

/-- Go on with a product after its first part. -/
def productAfter (read : String → Draw String) :
    (fuel : Nat) → Int → List Token → Draw (Int × List Token)
  | 0, _, _ => throw .unexpectedEnd
  | fuel + 1, value, tokens =>
    match tokens with
    | .sign '*' :: rest => do
      let (next, rest) ← factor read fuel rest
      productAfter read fuel (value * next) rest
    | .sign '/' :: rest => do
      let (next, rest) ← factor read fuel rest
      productAfter read fuel (← divide false value next) rest
    | .sign '%' :: rest => do
      let (next, rest) ← factor read fuel rest
      productAfter read fuel (← divide true value next) rest
    | rest => pure (value, rest)

/-- Evaluate an operand, a signed factor or a sum in parentheses. -/
def factor (read : String → Draw String) : (fuel : Nat) → List Token → Draw (Int × List Token)
  | 0, _ => throw .unexpectedEnd
  | fuel + 1, tokens =>
    match tokens with
    | [] => throw .unexpectedEnd
    | .sign '-' :: rest => do
      let (value, rest) ← factor read fuel rest
      pure (-value, rest)
    | .sign '+' :: rest => factor read fuel rest
    | .sign '(' :: rest => do
      let (value, rest) ← sum read fuel rest
      match rest with
      | [] => throw .unexpectedEnd
      | .sign ')' :: rest => pure (value, rest)
      | _ => throw .missingParenthesis
    | token :: rest => do
      let value ← operand read token
      pure (value, rest)

end

/-- Evaluate an expression, all of it. -/
def value (read : String → Draw String) (tokens : List Token) : Draw Int := do
  let (value, rest) ← sum read (4 * tokens.length + 4) tokens
  match rest with
  | [] => pure value
  | token :: _ => throw (.unexpectedToken (String.ofList token.text))

end Arithmetic

namespace Subscript

open Text

/-- A variable reference at the head of the text after a dollar sign, and its length. -/
def parameter? : List Char → Option (List Char × Nat)
  | '\x7b' :: rest => (splitAt? '\x7d' rest).map fun (name, _) => (name, name.length + 2)
  | c :: rest =>
    if isLetter c || c = '_' then
      let name := c :: rest.takeWhile fun c => isAlphanumeric c || c = '_'
      some (name, name.length)
    else none
  | [] => none

/-- Replace the variables in a text of which the first `skip` characters are accounted for. -/
def expandAfter (read : String → Draw String) : (skip : Nat) → List Char → Draw (List Char)
  | _, [] => pure []
  | skip + 1, _ :: rest => expandAfter read skip rest
  | 0, c :: rest =>
    match if c = '$' then parameter? rest else none with
    | some (name, length) => do
      let value ← read (String.ofList name)
      let expanded ← expandAfter read length rest
      pure (value.toList ++ expanded)
    | none => do
      let expanded ← expandAfter read 0 rest
      pure (c :: expanded)

/-- Replace the variables in a subscript. -/
def expand (read : String → Draw String) (subscript : String) : Draw String := do
  let expanded ← expandAfter read 0 subscript.toList
  pure (String.ofList expanded)

/-- Evaluate a subscript. -/
def evaluate (read : String → Draw String) (subscript : String) : Draw Int := do
  let expanded ← expandAfter read 0 (strip subscript.toList)
  Arithmetic.value read (Arithmetic.tokens expanded)

/-- Take one pair of equal quotation marks away. -/
def unquote (text : List Char) : List Char :=
  match text with
  | [] => []
  | mark :: rest =>
    if (mark = '\x27' ∨ mark = '\x22') ∧ rest.getLast? = some mark then rest.dropLast else text

/-- The key that a subscript of an associative array denotes. -/
def key (read : String → Draw String) (subscript : String) : Draw String :=
  expand read (String.ofList (unquote subscript.toList))

end Subscript

end Shell
