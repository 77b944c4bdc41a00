import Shell.Expansion.Pattern
import Shell.Proofs.Glob.Literal
import Shell.Proofs.Running
import Shell.Proofs.Variable.Elements
import Shell.Proofs.Variable.Reading

/-!
# Quoted text in a pattern matches only itself

A quoted source is made of segments in single and in double quotes. Its tokens are
the segments' own: no quotation mark or dollar sign is taken for another one, also
where two segments meet. Every token is protected, so that the expanded pattern
matches the text without the quotation marks and nothing else. The expansion fails
exactly where a variable cannot be read.
-/

namespace Shell.Word

open Text

/-- A part of double-quoted text: a character that needs no backslash, one behind a backslash, or a
variable in braces. -/
inductive QuotedPart
  | char (c : Char) (plain : c ∉ protectedInQuotes)
  | escape (c : Char) (special : c ∈ protectedInQuotes)
  | reference (name : String) (identifier : isIdentifier name.toList = true)

/-- A segment in quotation marks. -/
inductive Segment
  | single (text : List Char) (unquoted : '\x27' ∉ text)
  | double (parts : List QuotedPart)

namespace QuotedPart

/-- How the part is written. -/
def source : QuotedPart → List Char
  | char c _ => [c]
  | escape c _ => ['\\', c]
  | reference name _ => '$' :: '\x7b' :: name.toList ++ ['\x7d']

def token : QuotedPart → Token
  | char c _ | escape c _ => .literal [c]
  | reference name _ => .parameter name.toList true

/-- The text that the part stands for. -/
def read (state : State) : QuotedPart → Draw String
  | char c _ | escape c _ => pure (String.ofList [c])
  | reference name _ => state.value name

end QuotedPart

namespace Segment

/-- How the segment is written. -/
def source : Segment → List Char
  | single text _ => '\x27' :: text ++ ['\x27']
  | double parts => '\x22' :: parts.flatMap QuotedPart.source ++ ['\x22']

def tokens : Segment → List Token
  | single text _ => [.literal text]
  | double parts => parts.flatMap fun part => [part.token]

/-- The text that the segment stands for. -/
def read (state : State) : Segment → Draw String
  | single text _ => pure (String.ofList text)
  | double parts => String.join <$> parts.mapM (QuotedPart.read state)

end Segment

/-- Several quoted segments, one after the other. -/
def quotedSource (segments : List Segment) : String :=
  String.ofList (segments.flatMap Segment.source)

section Scanning

theorem tokensAfter_eq_drop (skip : Nat) (text : List Char) :
    tokensAfter skip text = tokensAfter 0 (text.drop skip) := by
  induction text generalizing skip with
  | nil => cases skip <;> rfl
  | cons c rest inductionHypothesis =>
    cases skip with
    | zero => rfl
    | succ skip => simpa [tokensAfter] using inductionHypothesis skip

theorem quotedTokensAfter_eq_drop (skip : Nat) (text : List Char) :
    quotedTokensAfter skip text = quotedTokensAfter 0 (text.drop skip) := by
  induction text generalizing skip with
  | nil => cases skip <;> rfl
  | cons c rest inductionHypothesis =>
    cases skip with
    | zero => rfl
    | succ skip => simpa [quotedTokensAfter] using inductionHypothesis skip

/-- Scanning goes on behind the characters that a head takes. -/
theorem tokensAfter_cons {c : Char} {taken rest : List Char} {found : List Token}
    (head : plainHead c (taken ++ rest) = ⟨found, taken.length + 1⟩) :
    tokensAfter 0 (c :: (taken ++ rest)) = found ++ tokensAfter 0 rest := by
  rw [tokensAfter, head, tokensAfter_eq_drop]
  simp

theorem quotedTokensAfter_cons {c : Char} {taken rest : List Char} {found : List Token}
    (head : quotedHead c (taken ++ rest) = ⟨found, taken.length + 1⟩) :
    quotedTokensAfter 0 (c :: (taken ++ rest)) = found ++ quotedTokensAfter 0 rest := by
  rw [quotedTokensAfter, head, quotedTokensAfter_eq_drop]
  simp

theorem splitAt?_append {mark : Char} {before : List Char} (absent : mark ∉ before)
    (after : List Char) : splitAt? mark (before ++ mark :: after) = some (before, after) := by
  induction before with
  | nil => simp [splitAt?]
  | cons c rest inductionHypothesis =>
    rw [List.mem_cons, not_or] at absent
    rw [List.cons_append, splitAt?, if_neg (Ne.symm absent.1), inductionHypothesis absent.2]
    rfl

theorem splitUnescaped?_cons {mark c : Char} (backslash : c ≠ '\\') (other : c ≠ mark)
    (rest : List Char) :
    splitUnescaped? mark (c :: rest) =
      (splitUnescaped? mark rest).map fun (before, after) => (c :: before, after) := by
  rw [splitUnescaped?, if_neg other]
  intro _ _ same
  exact absurd same backslash

/-- A mark is looked for behind characters that are neither it nor a backslash. -/
theorem splitUnescaped?_append {mark : Char} {text : List Char}
    (plain : ∀ c ∈ text, c ≠ '\\' ∧ c ≠ mark) (rest : List Char) :
    splitUnescaped? mark (text ++ rest) =
      (splitUnescaped? mark rest).map fun (before, after) => (text ++ before, after) := by
  induction text with
  | nil => simp
  | cons c text inductionHypothesis =>
    obtain ⟨backslash, other⟩ := plain c List.mem_cons_self
    rw [List.cons_append, splitUnescaped?_cons backslash other,
      inductionHypothesis fun d member => plain d (List.mem_cons_of_mem _ member), Option.map_map]
    rfl

theorem unescaped_of_identifier {name : List Char} (identifier : isIdentifier name = true)
    {c : Char}
    (member : c ∈ name) : c ≠ '\\' ∧ c ≠ '\x22' := by
  have letter := isNameChar_of_mem identifier member
  constructor
  · rintro rfl
    exact absurd letter (by decide)
  · rintro rfl
    exact absurd letter (by decide)

theorem QuotedPart.splitUnescaped?_source (part : QuotedPart) (rest : List Char) :
    splitUnescaped? '\x22' (part.source ++ rest) =
      (splitUnescaped? '\x22' rest).map fun (before, after) => (part.source ++ before, after) := by
  cases part with
  | char c plain =>
    refine splitUnescaped?_append (fun d member => ?_) rest
    obtain rfl := List.mem_singleton.mp member
    simp only [protectedInQuotes, List.mem_cons, not_or] at plain
    exact ⟨plain.2.2.1, plain.2.2.2.1⟩
  | escape c special => rfl
  | reference name identifier =>
    refine splitUnescaped?_append (fun d member => ?_) rest
    have known : d ∈ name.toList ∨ d ∈ ['$', '\x7b', '\x7d'] := by
      simp only [source, List.cons_append, List.mem_cons, List.mem_append, List.not_mem_nil,
        or_false] at member ⊢
      tauto
    rcases known with inName | mark
    · exact unescaped_of_identifier identifier inName
    · have marks : ∀ d ∈ ['$', '\x7b', '\x7d'], d ≠ '\\' ∧ d ≠ '\x22' := by simp
      exact marks d mark

theorem splitUnescaped?_parts (parts : List QuotedPart) (rest : List Char) :
    splitUnescaped? '\x22' (parts.flatMap QuotedPart.source ++ '\x22' :: rest) =
      some (parts.flatMap QuotedPart.source, rest) := by
  induction parts with
  | nil => rfl
  | cons part parts inductionHypothesis =>
    rw [List.flatMap_cons, List.append_assoc, part.splitUnescaped?_source, inductionHypothesis]
    rfl

theorem dollar?_reference {name : List Char} (identifier : isIdentifier name = true)
    (rest : List Char) :
    dollar? ('\x7b' :: (name ++ '\x7d' :: rest)) =
      some (.parameter name ('\x7b' :: name ++ ['\x7d'])) := by
  have absent : '\x7d' ∉ name := fun member =>
    absurd (isNameChar_of_mem identifier member) (by decide)
  change (splitAt? '\x7d' (name ++ '\x7d' :: rest)).map _ = _
  rw [splitAt?_append absent]
  rfl

theorem quotedHead_plain {c : Char} (plain : c ∉ protectedInQuotes) (rest : List Char) :
    quotedHead c rest = ⟨[.literal [c]], 1⟩ := by
  simp only [protectedInQuotes, List.mem_cons, List.not_mem_nil, or_false, not_or] at plain
  unfold quotedHead
  split <;> simp_all

theorem QuotedPart.quotedTokensAfter_source (part : QuotedPart) (rest : List Char) :
    quotedTokensAfter 0 (part.source ++ rest) = part.token :: quotedTokensAfter 0 rest := by
  cases part with
  | char c plain =>
    have head : quotedHead c ([] ++ rest) = ⟨[.literal [c]], 1⟩ := quotedHead_plain plain rest
    exact quotedTokensAfter_cons head
  | escape c special =>
    have head : quotedHead '\\' ([c] ++ rest) = ⟨[.literal [c]], 2⟩ := by
      simp [quotedHead, special]
    exact quotedTokensAfter_cons head
  | reference name identifier =>
    have head : quotedHead '$' (('\x7b' :: name.toList ++ ['\x7d']) ++ rest) =
        ⟨[.parameter name.toList true], ('\x7b' :: name.toList ++ ['\x7d']).length + 1⟩ := by
      change ((dollar? _).map (Dollar.head true)).getD _ = _
      rw [List.append_assoc, List.cons_append, List.singleton_append,
        dollar?_reference identifier]
      rfl
    exact quotedTokensAfter_cons head

theorem quotedTokensAfter_parts (parts : List QuotedPart) :
    quotedTokensAfter 0 (parts.flatMap QuotedPart.source) =
      parts.flatMap fun part => [part.token] := by
  induction parts with
  | nil => rfl
  | cons part parts inductionHypothesis =>
    rw [List.flatMap_cons, part.quotedTokensAfter_source, inductionHypothesis, List.flatMap_cons,
      List.singleton_append]

/-- A segment ends where its own quotation mark closes, whatever follows. -/
theorem Segment.tokensAfter_source (segment : Segment) (rest : List Char) :
    tokensAfter 0 (segment.source ++ rest) = segment.tokens ++ tokensAfter 0 rest := by
  cases segment with
  | single text unquoted =>
    have head : plainHead '\x27' ((text ++ ['\x27']) ++ rest) =
        ⟨[.literal text], (text ++ ['\x27']).length + 1⟩ := by
      change ((splitAt? '\x27' _).map _).getD _ = _
      rw [List.append_assoc, List.singleton_append, splitAt?_append unquoted]
      simp
    exact tokensAfter_cons head
  | double parts =>
    have head : plainHead '\x22' ((parts.flatMap QuotedPart.source ++ ['\x22']) ++ rest) =
        ⟨parts.flatMap fun part => [part.token],
          (parts.flatMap QuotedPart.source ++ ['\x22']).length + 1⟩ := by
      change ((splitUnescaped? '\x22' _).map _).getD _ = _
      rw [List.append_assoc, List.singleton_append, splitUnescaped?_parts, Option.map_some,
        Option.getD_some]
      dsimp only
      rw [quotedTokensAfter_parts, List.length_append, List.length_singleton]
    exact tokensAfter_cons head

theorem tokens_segments (segments : List Segment) :
    tokens (segments.flatMap Segment.source) = segments.flatMap Segment.tokens := by
  induction segments with
  | nil => rfl
  | cons segment segments inductionHypothesis =>
    rw [tokens, List.flatMap_cons, segment.tokensAfter_source, List.flatMap_cons,
      ← inductionHypothesis, tokens]

end Scanning

end Shell.Word

namespace Shell.State

open Running Word

/-- The text that quoted segments stand for: without the quotation marks and the backslashes of the
escapes, and with the values of the variables. -/
def unquoted (state : State) (segments : List Segment) : Draw String :=
  String.join <$> segments.mapM (Segment.read state)

/-- If all parts of each item are read as the item is, up to a change that respects appending, then
so are the parts of all items together. -/
theorem join_mapM_flatMap {α β : Type} (parts : α → List β) {readPart : β → Draw String}
    {readItem : α → Draw String} {change : String → String} (empty : change "" = "")
    (append : ∀ first second, change (first ++ second) = change first ++ change second)
    (each : ∀ item, String.join <$> (parts item).mapM readPart = change <$> readItem item)
    (items : List α) :
    String.join <$> (items.flatMap parts).mapM readPart =
      change <$> (String.join <$> items.mapM readItem) := by
  induction items with
  | nil => simp [empty]
  | cons item items inductionHypothesis =>
    have split : String.join <$> ((item :: items).flatMap parts).mapM readPart =
        (String.join <$> (parts item).mapM readPart >>= fun first =>
          (first ++ ·) <$> (String.join <$> (items.flatMap parts).mapM readPart)) := by
      simp [List.mapM_append]
    rw [split, each, inductionHypothesis]
    simp [append]

theorem protectText_append (first second : String) :
    Glob.protectText (first ++ second) = Glob.protectText first ++ Glob.protectText second := by
  simp [Glob.protectText, Glob.protect_append]

theorem expandToken_part (state : State) (part : QuotedPart) :
    state.expandToken part.token = Glob.protectText <$> part.read state := by
  cases part with
  | char c plain => simp [QuotedPart.token, QuotedPart.read, expandToken, Glob.protectText]
  | escape c special => simp [QuotedPart.token, QuotedPart.read, expandToken, Glob.protectText]
  | reference name identifier =>
    have quoted : protectIf true = Glob.protectText := rfl
    simp [QuotedPart.token, QuotedPart.read, expandToken, quoted]

theorem expandTokens_segment (state : State) (segment : Segment) :
    String.join <$> segment.tokens.mapM state.expandToken =
      Glob.protectText <$> segment.read state := by
  cases segment with
  | single text unquoted => simp [Segment.tokens, Segment.read, expandToken, Glob.protectText]
  | double parts =>
    refine join_mapM_flatMap _ rfl protectText_append (fun part => ?_) parts
    simp [expandToken_part]

/-- Expanding a quoted source is reading the text it stands for and protecting that. -/
theorem expandPattern_quotedSource (state : State) (segments : List Segment) :
    state.expandPattern (quotedSource segments) =
      Glob.protectText <$> state.unquoted segments := by
  have tokenized : Word.tokens (quotedSource segments).toList =
      segments.flatMap Segment.tokens := by
    rw [quotedSource, String.toList_ofList, tokens_segments]
  rw [expandPattern, tokenized, bind_pure_comp]
  exact join_mapM_flatMap _ rfl protectText_append state.expandTokens_segment segments

theorem matchesPattern_protectText {state : State} (regards : state.shopt "nocasematch" = false)
    (text word : String) :
    state.matchesPattern word (Glob.protectText text) = true ↔ word = text := by
  rw [matchesPattern, globMode, regards, Glob.protectText, String.toList_ofList,
    Glob.accepts_protect_iff, String.toList_inj]

/-- A quoted source expands to a pattern that matches a text and nothing else exactly if it is the
text that the source stands for. -/
theorem quotedSource_matches_only_iff (state : State) (segments : List Segment)
    (regards : state.shopt "nocasematch" = false) (queries next : Queries) (text : String) :
    (∃ pattern, execute (state.expandPattern (quotedSource segments)) queries =
      (.ok pattern, next) ∧
      ∀ word, state.matchesPattern word pattern = true ↔ word = text) ↔
      execute (state.unquoted segments) queries = (.ok text, next) := by
  rw [expandPattern_quotedSource, execute_map, after]
  rcases execute (state.unquoted segments) queries with ⟨fault | result, last⟩
  · simp [Except.map]
  · simp only [Except.map, Prod.mk.injEq, Except.ok.injEq]
    constructor
    · rintro ⟨_, ⟨rfl, rfl⟩, only⟩
      have same := (only result).mp ((matchesPattern_protectText regards result result).mpr rfl)
      exact ⟨same, rfl⟩
    · rintro ⟨rfl, rfl⟩
      exact ⟨_, ⟨rfl, rfl⟩, matchesPattern_protectText regards result⟩

/-- Wildcards and an open bracket, in quotation marks and in the value of a variable. -/
def wildSegments : List Segment :=
  [.single "a?".toList (by decide),
    .double [.escape '$' (by decide), .reference "x" (by decide), .char '(' (by decide)]]

def wildState : State := { store := ({} : Store).put "x" "*[" }

theorem wildSegments_match_only :
    wildState.shopt "nocasematch" = false ∧
      execute (wildState.unquoted wildSegments) {} = (.ok "a?$*[(", {}) ∧
      ∃ pattern,
        execute (wildState.expandPattern (quotedSource wildSegments)) {} = (.ok pattern, {}) ∧
        ∀ word, wildState.matchesPattern word pattern = true ↔ word = "a?$*[(" := by
  have regards : wildState.shopt "nocasematch" = false := by decide
  have text : execute (wildState.unquoted wildSegments) {} = (.ok "a?$*[(", {}) := rfl
  have matched := (quotedSource_matches_only_iff wildState wildSegments regards {} {} _).mpr text
  exact ⟨regards, text, matched⟩

/-- No variable `x`, but one with the name of an element of it at an index that is too long. -/
def unreadableState : State := { store := ({} : Store).put (elementKey "x" Text.longIndex) "v" }

def unreadableSegments : List Segment := [.double [.reference "x" (by decide)]]

theorem get?_unreadableState : unreadableState.store.get? "x" = none := by
  rw [unreadableState, Store.get?_put, if_neg (elementKey_ne_self "x" _)]
  rfl

theorem value_unreadableState : ∃ fault, unreadableState.value "x" = throw fault := by
  have present : unreadableState.store.has (elementKey "x" Text.longIndex) = true := by
    rw [Store.has_eq_isSome_get?, unreadableState, Store.get?_put, if_pos rfl]
    rfl
  obtain ⟨fault, failed⟩ := indices_of_longIndex present
  have stored : unreadableState.stored "x" = .error fault := by
    have undeclared : unreadableState.isDeclaredArray "x" = false := rfl
    rw [State.stored, show unreadableState.callArray? "x" = none from rfl, get?_unreadableState,
      isArray, undeclared, failed]
    rfl
  refine ⟨fault, ?_⟩
  rw [value_of_isIdentifier (by decide) rfl, show unreadableState.computed? "x" = none from rfl,
    stored]
  rfl

/-- A variable that is not set cannot be read, and no pattern comes of the quoted source with it. -/
theorem unreadable_quotedSource :
    unreadableState.store.get? "x" = none ∧ unreadableState.shopt "nocasematch" = false ∧
      ∃ fault, execute (unreadableState.expandPattern (quotedSource unreadableSegments)) {} =
        (.error fault, {}) := by
  obtain ⟨fault, unread⟩ := value_unreadableState
  refine ⟨get?_unreadableState, rfl, fault, ?_⟩
  have text : unreadableState.unquoted unreadableSegments = throw fault := by
    simp [unquoted, unreadableSegments, Segment.read, QuotedPart.read, unread]
  rw [expandPattern_quotedSource, text]
  rfl

end Shell.State
