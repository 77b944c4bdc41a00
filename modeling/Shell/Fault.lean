import Shell.Text.Numeral
import Shell.Text.Quoted

/-!
Faults: operations that cannot be carried out. A recoverable fault is reported and forgotten by
callers that expect it; the others always reach the top.
-/

namespace Shell

/-- Why an operation cannot be carried out. -/
inductive Fault
  | readonly (name : String)
  | badSubscript (name subscript : String)
  | unexpectedEnd
  | unexpectedToken (token : String)
  | missingParenthesis
  | divisionByZero
  | badNumeral (text : String)
  /-- A numeral has more digits than numerals may have. -/
  | numeralTooLong (digits : Nat)
  /-- A number has more digits than can be written. -/
  | numberTooLong
  | unknownOption (name : String)
  | unknownFlag (flag : String)
  | unknownShopt (name : String)
  | localOutsideFunction
  | notAnIdentifier (name : String)
  /-- A key of the store that had to be there is missing. -/
  | missingKey (key : String)
  /-- References lead to references without end. -/
  | nestingTooDeep
  /-- A call frame that had to be there is missing. -/
  | noFrame
  /-- A number of seconds exceeds every clock. -/
  | timeOverflow
  /-- A time is beyond all counts. -/
  | endlessTime
  /-- A time is the difference of two readings beyond all counts. -/
  | undefinedTime
  /-- A pattern for ignored paths is malformed. -/
  | badPattern
deriving DecidableEq, Repr

namespace Fault

/-- The text of a fault. -/
def message : Fault → String
  | readonly name => name ++ ": readonly variable"
  | badSubscript name subscript => name ++ "[" ++ subscript ++ "]: bad array subscript"
  | unexpectedEnd => "unexpected end of subscript"
  | unexpectedToken token => "unexpected token " ++ Text.quoted token
  | missingParenthesis => "missing )"
  | divisionByZero => "division by 0"
  | badNumeral text => "invalid literal for int() with base 10: " ++ Text.quoted text
  | numeralTooLong digits =>
    "Exceeds the limit (" ++ toString Text.digitLimit ++
      " digits) for integer string conversion: value has " ++ toString digits ++
      " digits; use sys.set_int_max_str_digits() to increase the limit"
  | numberTooLong =>
    "Exceeds the limit (" ++ toString Text.digitLimit ++
      " digits) for integer string conversion; " ++
      "use sys.set_int_max_str_digits() to increase the limit"
  | unknownOption name => name ++ ": invalid option name"
  | unknownFlag flag => "-" ++ flag ++ ": invalid option"
  | unknownShopt name => name ++ ": invalid shell option name"
  | localOutsideFunction => "local: can only be used in a function"
  | notAnIdentifier name => "local: \x60" ++ name ++ "': not a valid identifier"
  | missingKey key => Text.quoted key
  | nestingTooDeep => "maximum recursion depth exceeded"
  | noFrame => "pop from empty list"
  | timeOverflow => "int too large to convert to float"
  | endlessTime => "cannot convert float infinity to integer"
  | undefinedTime => "cannot convert float NaN to integer"
  | badPattern => ""

/-- Callers that expect trouble with an argument deal with these faults. -/
def isRecoverable : Fault → Bool
  | missingKey _ | nestingTooDeep | noFrame | timeOverflow | endlessTime | badPattern => false
  | _ => true

/-- A session cannot go on after these faults. -/
def endsSession : Fault → Bool
  | missingKey _ => true
  | _ => false

end Fault

/-- The decimal text of a number, unless it has too many digits. -/
def spell (n : Int) : Except Fault String :=
  match Text.decimal? n with
  | some digits => .ok digits
  | none => .error .numberTooLong

end Shell
