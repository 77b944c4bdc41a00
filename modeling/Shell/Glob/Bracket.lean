/-!
Bracket expressions of patterns: where one ends, and the character set it stands for as a piece of
a regular expression's text.
-/

namespace Shell.Glob

/-- The end `:]` of a class name occurs. -/
def hasClassEnd : List Char → Bool
  | [] => false
  | ':' :: ']' :: _ => true
  | _ :: rest => hasClassEnd rest

/-- Split a text at the bracket that closes it. `inClass` says that a class name `[:…:]` is being
passed over. -/
def bracketFrom? : (inClass : Bool) → List Char → Option (List Char × List Char)
  | _, [] => none
  | true, ':' :: ']' :: rest =>
    (bracketFrom? false rest).map fun (content, after) => (':' :: ']' :: content, after)
  | true, c :: rest => (bracketFrom? true rest).map fun (content, after) => (c :: content, after)
  | false, '\\' :: c :: rest =>
    (bracketFrom? false rest).map fun (content, after) => ('\\' :: c :: content, after)
  | false, ']' :: rest => some ([], rest)
  | false, '[' :: ':' :: rest =>
    (bracketFrom? (hasClassEnd rest) rest).map fun (content, after) =>
      ('[' :: ':' :: content, after)
  | false, c :: rest => (bracketFrom? false rest).map fun (content, after) => (c :: content, after)

/-- A mark that turns a bracket into its complement. -/
def isNegationMark (c : Char) : Bool := c = '!' || c = '^'

/-- The mark at the head of a bracket's content, if there is one. -/
def leadingMark : List Char → List Char
  | c :: _ => if isNegationMark c then [c] else []
  | [] => []

/-- Content of a bracket, and the text after it, from the text after the opening bracket. A closing
bracket that comes first, or right after the mark, belongs to the content. -/
def bracket? (text : List Char) : Option (List Char × List Char) :=
  let mark := leadingMark text
  match text.drop mark.length with
  | ']' :: rest =>
    (bracketFrom? false rest).map fun (content, after) => (mark ++ ']' :: content, after)
  | rest => (bracketFrom? false rest).map fun (content, after) => (mark ++ content, after)

/-- Members of the named classes, as the text of a character set writes them. -/
def classMembers : List (String × String) :=
  [("alnum", "a-zA-Z0-9"),
   ("alpha", "a-zA-Z"),
   ("ascii", "\\x00-\\x7F"),
   ("blank", " \\t"),
   ("cntrl", "\\x00-\\x1F\\x7F"),
   ("digit", "0-9"),
   ("graph", "!-~"),
   ("lower", "a-z"),
   ("print", " -~"),
   ("punct", "!-/:-@\\[-\x60\x7b-~"),
   ("space", " \\t\\n\\r\\f\\v"),
   ("upper", "A-Z"),
   ("word", "a-zA-Z0-9_"),
   ("xdigit", "0-9A-Fa-f")]

/-- Members of a named class; an unknown name has none. -/
def namedClass (name : List Char) : List Char :=
  ((classMembers.lookup (String.ofList name)).getD "").toList

/-- The text of a character set for a bracket's content after the mark. `name` holds the class name
being read, last character first. -/
def membersFrom : (name : Option (List Char)) → List Char → List Char
  | _, [] => []
  | some name, ':' :: ']' :: rest => namedClass name.reverse ++ membersFrom none rest
  | some name, c :: rest => membersFrom (some (c :: name)) rest
  | none, '[' :: ':' :: rest =>
    if hasClassEnd rest then membersFrom (some []) rest
    else '\\' :: '[' :: ':' :: membersFrom none rest
  | none, '\\' :: c :: rest => '\\' :: c :: membersFrom none rest
  | none, c :: rest =>
    if c = '[' ∨ c = ']' then '\\' :: c :: membersFrom none rest else c :: membersFrom none rest

/-- A bracket as a piece of a regular expression's text. Without members it matches nothing, and
its complement any character. -/
def bracketText (content : List Char) : List Char :=
  let mark := leadingMark content
  let members := membersFrom none (content.drop mark.length)
  match members, mark with
  | [], [] => "(?!)".toList
  | [], _ => ['.']
  | _, [] => '[' :: members ++ [']']
  | _, _ => '[' :: '^' :: members ++ [']']

end Shell.Glob
