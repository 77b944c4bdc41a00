import Shell.Text.Blank
import Shell.Text.Digit

/-!
Decimal numerals: reading integers as arguments and values write them, and the canonical
spelling of array indices.
-/

namespace Shell.Text

/-- Numerals have at most this many digits, leading zeros included. -/
def digitLimit : Nat := 4300

/-- Numbers from here on have too many digits to be written. -/
@[irreducible]
def numberLimit : Nat := Nat.pow 10 digitLimit

/-- The decimal text of a number, unless it is too long. -/
def decimal? (n : Int) : Option String :=
  if n.natAbs < numberLimit then some (toString n) else none

/-- Read further digits after the value `acc`. One underscore may stand between two digits. -/
def digitsAfter? (acc : Nat) : List Char → Option Nat
  | [] => some acc
  | '_' :: c :: rest => (digitValue? c).bind fun d => digitsAfter? (10 * acc + d) rest
  | c :: rest => (digitValue? c).bind fun d => digitsAfter? (10 * acc + d) rest

/-- How many digits a numeral has. -/
def digitCount (text : List Char) : Nat := text.countP (· ≠ '_')

/-- Read an unsigned numeral that is not too long. -/
def readNat? : List Char → Option Nat
  | [] => none
  | c :: rest =>
    if digitLimit < digitCount (c :: rest) then none
    else (digitValue? c).bind fun d => digitsAfter? d rest

/-- Blanks allowed around a numeral: of ASCII, only the space and the five layout characters. -/
def isNumeralBlank (c : Char) : Bool :=
  if c.toNat < 128 then c = ' ' || (9 ≤ c.toNat && c.toNat ≤ 13) else isBlank c

/-- Read an integer: blanks around, an optional sign, digits of any script. -/
def readInt? (text : List Char) : Option Int :=
  match trim isNumeralBlank text with
  | '-' :: digits => (readNat? digits).map fun n => -(n : Int)
  | '+' :: digits => (readNat? digits).map Int.ofNat
  | digits => (readNat? digits).map Int.ofNat

/-- The integer a value stands for in arithmetic; what does not read as one counts as zero. -/
def intValue (text : List Char) : Int :=
  (readInt? (strip text)).getD 0

/-- Drop one newline at the end. -/
def chopNewline (text : List Char) : List Char :=
  if text.getLast? = some '\n' then text.dropLast else text

/-- The spelling of an index: ASCII digits without a leading zero. -/
def isCanonical : List Char → Bool
  | [] => false
  | ['0'] => true
  | c :: rest => c != '0' && c.isDigit && rest.all Char.isDigit

/-- The suffix of a store key spells an index. One newline may follow the digits. -/
def isIndex (suffix : List Char) : Bool := isCanonical (chopNewline suffix)

end Shell.Text
