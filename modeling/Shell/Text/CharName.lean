import Shell.Text.CharName.Aliases
import Shell.Text.CharName.Alphabets
import Shell.Text.CharName.EastAsian
import Shell.Text.CharName.Historic
import Shell.Text.CharName.Pictures
import Shell.Text.CharName.Symbols
import Shell.Text.Digit
import Shell.Text.Split

/-!
Characters by their names in version 14 of the standard. Most names stand in tables, where each is
written as the number of words it shares with the name before it and the words that follow. Names
of Hangul syllables are put together from their sounds, and those of ideographs from their code
points.
-/

namespace Shell.Text.CharName

/-- Cut a name behind each blank and each hyphen. -/
def words : List Char → List (List Char)
  | [] => []
  | c :: rest =>
    if c = ' ' ∨ c = '-' then [c] :: words rest
    else match words rest with
      | [] => [[c]]
      | word :: others => (c :: word) :: others

/-- The number that hexadecimal digits spell; nothing if there are none or other characters. -/
def hexNumber? (digits : List Char) : Option Nat :=
  if digits.isEmpty then none
  else digits.foldlM (fun acc c => (hexValue? c).map (16 * acc + ·)) 0

/-- The names that the entries of a table stand for, with their code points. An entry that begins
with `@` gives the code point of the next name; otherwise names follow on each other. `previous` are
the words of the name before. -/
def expand : (code : Nat) → (previous : List (List Char)) → (entries : List (List Char)) →
    List (String × Nat)
  | _, _, [] => []
  | code, previous, [] :: rest => expand code previous rest
  | code, previous, (mark :: text) :: rest =>
    if mark = '@' then expand ((hexNumber? text).getD code) previous rest
    else
      let spelled := previous.take (mark.toNat - 48) ++ words text
      (String.ofList spelled.flatten, code) :: expand (code + 1) spelled rest

/-- The entries of a table. -/
def entries (table : List String) : List (List Char) :=
  table.flatMap fun line => splitAll ',' line.toList

/-- The names of all tables, worked out once and when first needed. -/
def listed : Thunk (List (String × Nat)) :=
  Thunk.mk fun _ =>
    [alphabets, symbols, eastAsian, historic, pictures, aliases].flatMap fun table =>
      expand 0 [] (entries table)

/-- What follows a head in a text. -/
def after? (head : String) (text : List Char) : Option (List Char) :=
  head.toList.isPrefixOf? text

/-- Families of characters whose names end in their code points. -/
def numbered : List (String × Ranges) :=
  [("CJK COMPATIBILITY IDEOGRAPH-", [(0xF900, 0xFA6D), (0xFA70, 0xFAD9), (0x2F800, 0x2FA1D)]),
   ("KHITAN SMALL SCRIPT CHARACTER-", [(0x18B00, 0x18CD5)]),
   ("NUSHU CHARACTER-", [(0x1B170, 0x1B2FB)])]

/-- How many hexadecimal digits spell a code point: four, or as many as it needs. -/
def codeWidth (code : Nat) : Nat := if code < 0x10000 then 4 else 5

/-- A character of a numbered family. -/
def numbered? (name : List Char) : Option Nat :=
  numbered.findSome? fun (head, ranges) => do
    let digits ← after? head name
    let code ← hexNumber? digits
    if ranges.has code ∧ digits.length = codeWidth code then some code else none

/-- The unified ideographs. -/
def ideographs : Ranges :=
  [(0x3400, 0x4DBF), (0x4E00, 0x9FFF), (0x20000, 0x2A6DF), (0x2A700, 0x2B738), (0x2B740, 0x2B81D),
   (0x2B820, 0x2CEA1), (0x2CEB0, 0x2EBE0), (0x30000, 0x3134A)]

/-- A unified ideograph, by four or five digits in capitals. -/
def ideograph? (name : List Char) : Option Nat := do
  let digits ← after? "CJK UNIFIED IDEOGRAPH-" name
  let code ← hexNumber? digits
  if ideographs.has code ∧ (digits.length = 4 ∨ digits.length = 5) ∧
    digits.all (fun c => c.isDigit || c.isUpper) then some code else none

/-- Sounds that begin a syllable. -/
def leading : List String :=
  ["G", "GG", "N", "D", "DD", "R", "M", "B", "BB", "S", "SS", "", "J", "JJ", "C", "K", "T", "P",
   "H"]

/-- Vowels of a syllable. -/
def vowels : List String :=
  ["A", "AE", "YA", "YAE", "EO", "E", "YEO", "YE", "O", "WA", "WAE", "OE", "YO", "U", "WEO", "WE",
   "WI", "YU", "EU", "YI", "I"]

/-- Sounds that end a syllable. -/
def trailing : List String :=
  ["", "G", "GG", "GS", "N", "NJ", "NH", "D", "L", "LG", "LM", "LB", "LS", "LT", "LP", "LH", "M",
   "B", "BS", "S", "SS", "NG", "J", "C", "K", "T", "P", "H"]

/-- The first syllable. -/
def firstSyllable : Nat := 0xAC00

/-- A Hangul syllable, by its sounds. -/
def syllable? (name : List Char) : Option Nat := do
  let sounds ← after? "HANGUL SYLLABLE " name
  leading.zipIdx.findSome? fun (first, i) => do
    let rest ← after? first sounds
    vowels.zipIdx.findSome? fun (vowel, j) => do
      let last ← after? vowel rest
      let k ← trailing.idxOf? (String.ofList last)
      pure (firstSyllable + (i * vowels.length + j) * trailing.length + k)

/-- A character that names are spelled with. -/
def isSign (c : Char) : Bool := c.isAlphanum || c = ' ' || c = '-'

/-- The code point of the character with a name. Small letters count as capitals, except in the
names of syllables and unified ideographs. -/
def code? (name : List Char) : Option Nat :=
  let capitals := name.map Char.toUpper
  if name.all isSign then
    syllable? name <|> ideograph? name <|> numbered? capitals <|>
      listed.get.lookup (String.ofList capitals)
  else none

theorem isSign_of_mem {name : List Char} {code : Nat} (known : code? name = some code) {c : Char}
    (inside : c ∈ name) : isSign c = true := by
  unfold code? at known
  split at known
  · rename_i spelled
    exact List.all_eq_true.mp spelled c inside
  · contradiction

end Shell.Text.CharName
