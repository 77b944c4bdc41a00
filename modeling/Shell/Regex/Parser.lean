import Shell.Regex.Basic
import Shell.Text.CharName
import Shell.Text.Split

/-!
The text form of regular expressions: groups `(?:…)`, refusals `(?!…)`, alternatives, repetitions,
the end mark `$`, the point for any character, character sets in brackets, and a backslash before a
character that stands for itself. Not every text is well formed.
-/

namespace Shell.Regex

open Text

/-- Read exactly `count` hexadecimal digits after the value `acc`. -/
def hex? : (count acc : Nat) → List Char → Option (Nat × List Char)
  | 0, acc, text => some (acc, text)
  | _ + 1, _, [] => none
  | count + 1, acc, c :: rest => (hexValue? c).bind fun d => hex? count (16 * acc + d) rest

/-- The value of an octal digit. -/
def octalValue? (c : Char) : Option Nat :=
  if '0' ≤ c ∧ c ≤ '7' then some (c.toNat - 48) else none

/-- Read up to `count` further octal digits after the value `acc`. -/
def octal : (count acc : Nat) → List Char → Nat × List Char
  | 0, acc, text => (acc, text)
  | _ + 1, acc, [] => (acc, [])
  | count + 1, acc, c :: rest =>
    match octalValue? c with
    | some d => octal count (8 * acc + d) rest
    | none => (acc, c :: rest)

/-- Control characters written as a backslash and a letter. -/
def controlEscapes : List (Char × Nat) :=
  [('a', 7), ('b', 8), ('f', 12), ('n', 10), ('r', 13), ('t', 9), ('v', 11)]

/-- Kinds of characters written as a backslash and a letter. -/
def kindEscapes : List (Char × Item) :=
  [('d', .kind .digit false), ('D', .kind .digit true), ('s', .kind .blank false),
   ('S', .kind .blank true), ('w', .kind .word false), ('W', .kind .word true)]

/-- Read the name of a character in braces. -/
def namedChar? : List Char → Option (Nat × List Char)
  | '\x7b' :: rest =>
    (splitAt? '\x7d' rest).bind fun (name, rest) =>
      (CharName.code? name).map fun code => (code, rest)
  | _ => none

/-- Read what follows a backslash inside a character set. -/
def escape? (c : Char) (rest : List Char) : Option (Item × List Char) :=
  match controlEscapes.lookup c, kindEscapes.lookup c with
  | some value, _ => some (.code value, rest)
  | none, some item => some (item, rest)
  | none, none =>
    if c = 'x' then (hex? 2 0 rest).map fun (value, rest) => (.code value, rest)
    else if c = 'u' then (hex? 4 0 rest).map fun (value, rest) => (.code value, rest)
    else if c = 'U' then
      (hex? 8 0 rest).bind fun (value, rest) =>
        if value < 0x110000 then some (.code value, rest) else none
    else if c = 'N' then (namedChar? rest).map fun (value, rest) => (.code value, rest)
    else match octalValue? c with
      | some digit =>
        let (value, rest) := octal 2 digit rest
        if value < 256 then some (.code value, rest) else none
      | none => if c.isAlphanum then none else some (.code c.toNat, rest)

/-- Read one member of a character set. -/
def item? : List Char → Option (Item × List Char)
  | [] => none
  | ['\\'] => none
  | '\\' :: c :: rest => escape? c rest
  | c :: rest => some (.code c.toNat, rest)

/-- The range between two members, which have to be code points in order. -/
def range? : Item → Item → Option Item
  | .code low, .code high => if low ≤ high then some (.range low high) else none
  | _, _ => none

/-- The bracket that closes a character set. The first member may be a closing bracket. -/
def closes (items : List Item) (text : List Char) : Bool :=
  !items.isEmpty && text.head? == some ']'

/-- Read the members of a character set and the bracket that closes it. `fuel` bounds the number
of members. -/
def items? : (fuel : Nat) → List Item → List Char → Option (List Item × List Char)
  | 0, _, _ => none
  | fuel + 1, items, text =>
    if closes items text then some (items, text.tail)
    else match item? text with
      | none => none
      | some (low, '-' :: ']' :: rest) => some (items ++ [low, .code 45], rest)
      | some (low, '-' :: rest) =>
        (item? rest).bind fun (high, rest) =>
          (range? low high).bind fun range => items? fuel (items ++ [range]) rest
      | some (item, rest) => items? fuel (items ++ [item]) rest

/-- The expression for a set of characters. One code point alone is no set. -/
def ofItems (negated : Bool) : List Item → Regex
  | [.code value] => .char value negated
  | items => .set ⟨negated, items⟩

/-- Read a character set after its opening bracket. -/
def bracket? (text : List Char) : Option (Regex × List Char) :=
  let negated := text.head? == some '^'
  let body := if negated then text.tail else text
  (items? (body.length + 1) [] body).map fun (items, rest) =>
    (ofItems negated items.eraseDups, rest)

/-- How often an expression is repeated. -/
inductive Repetition
  | optional
  | any
  | oneOrMore
deriving DecidableEq, Repr

/-- Repeat an expression. -/
def Repetition.apply : Repetition → Regex → Regex
  | optional, r => r.opt
  | any, r => r.star
  | oneOrMore, r => r.plus

/-- A piece of a regular expression's text. -/
inductive Token
  | atom (r : Regex)
  | repetition (count : Repetition)
  | opening (refusal : Bool)
  | closing
  | bar
deriving DecidableEq, Repr

/-- Drop the mark that makes a repetition prefer few rounds, which changes no end of a match. -/
def dropLazy : List Char → List Char
  | '?' :: rest => rest
  | text => text

/-- Read one piece. -/
def token? : List Char → Option (Token × List Char)
  | [] => none
  | '(' :: '?' :: ':' :: rest => some (.opening false, rest)
  | '(' :: '?' :: '!' :: rest => some (.opening true, rest)
  | '(' :: _ => none
  | ')' :: rest => some (.closing, rest)
  | '|' :: rest => some (.bar, rest)
  | '*' :: rest => some (.repetition .any, dropLazy rest)
  | '+' :: rest => some (.repetition .oneOrMore, dropLazy rest)
  | '?' :: rest => some (.repetition .optional, dropLazy rest)
  | '.' :: rest => some (.atom (.set .all), rest)
  | '$' :: rest => some (.atom .atEnd, rest)
  | '^' :: _ => none
  | '[' :: rest => (bracket? rest).map fun (r, rest) => (.atom r, rest)
  | ['\\'] => none
  | '\\' :: c :: rest => if c.isAlphanum then none else some (.atom (.char c.toNat false), rest)
  | c :: rest => some (.atom (.char c.toNat false), rest)

/-- Read all pieces. `fuel` bounds their number. -/
def tokens? : (fuel : Nat) → List Char → Option (List Token)
  | _, [] => some []
  | 0, _ :: _ => none
  | fuel + 1, text => (token? text).bind fun (token, rest) => (tokens? fuel rest).map (token :: ·)

/-- A group that is being read: whether it is a refusal, the alternatives read, and the parts of
the present one, last first. -/
structure Group where
  refusal : Bool
  alternatives : List Regex
  parts : List Regex
deriving DecidableEq, Repr

namespace Group

/-- A group of which nothing is read. -/
def new (refusal : Bool) : Group := ⟨refusal, [], []⟩

/-- Add a part to the present alternative. -/
def push (group : Group) (r : Regex) : Group := { group with parts := r :: group.parts }

/-- Begin another alternative. -/
def turn (group : Group) : Group :=
  { group with
    alternatives := group.alternatives ++ [seqAll group.parts.reverse], parts := [] }

/-- The alternatives of a group that is read. -/
def body (group : Group) : Regex :=
  let last := seqAll group.parts.reverse
  match group.alternatives with
  | [] => last
  | first :: rest => altAll first (rest ++ [last])

/-- The expression of a group that is read. -/
def regex (group : Group) : Regex :=
  if group.refusal then .notAhead group.body else .group group.body

/-- Repeat the last part. There has to be one, and not the end mark. -/
def repeat? (group : Group) (count : Repetition) : Option Group :=
  match group.parts with
  | [] => none
  | .atEnd :: _ => none
  | r :: rest => some { group with parts := count.apply r :: rest }

end Group

/-- Build an expression from its pieces, inside a group and the groups around it. -/
def build? : Group → List Group → List Token → Option Regex
  | inner, [], [] => some inner.body
  | _, _ :: _, [] => none
  | inner, outer, .atom r :: rest => build? (inner.push r) outer rest
  | inner, outer, .repetition count :: rest =>
    (inner.repeat? count).bind fun inner => build? inner outer rest
  | inner, outer, .opening refusal :: rest => build? (.new refusal) (inner :: outer) rest
  | _, [], .closing :: _ => none
  | inner, next :: outer, .closing :: rest => build? (next.push inner.regex) outer rest
  | inner, outer, .bar :: rest => build? inner.turn outer rest

/-- Read a regular expression. A mark `^` in front says that matches begin where the text does,
as all matches here do. -/
def parse? (text : List Char) : Option Regex :=
  let body := if text.head? == some '^' then text.tail else text
  (tokens? body.length body).bind (build? (.new false) [])

end Shell.Regex
