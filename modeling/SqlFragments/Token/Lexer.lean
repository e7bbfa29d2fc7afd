import SqlFragments.Text.Digit
import SqlFragments.Text.Quoted
import SqlFragments.Token.Basic

/-!
# Reading tokens

A text is read from left to right: white space is skipped, and the longest token of the kind
that the next character opens is cut off.  Every token remembers the white space in front of it
and the characters it was read from, so a text can be cut at a token and put together again.

* `readToken`: the first token of a text that starts with no white space
* `Lexeme`, `scan`: a whole text as tokens with their sources
* `tokens`: the tokens of a text
* `spans`: where the tokens lie, in bytes
-/

namespace SqlFragments

/-! ## Words and chains -/

def startsIdentifier (c : Char) : Bool :=
  isLetter c || c == '_'

/-- Whether a character continues a plain identifier. -/
def continuesIdentifier (c : Char) : Bool :=
  isAlphanumeric c || c == '_' || c == '$'

def isIdentifierQuote (c : Char) : Bool :=
  c == '"' || c == '\x60'

/-- One segment of an identifier and what follows it: a quoted run, or as many identifier
characters as there are. -/
def readSegment : Text → Text × Text
  | [] => ([], [])
  | c :: rest =>
    if isIdentifierQuote c then (c :: (takeQuoted c rest).1, (takeQuoted c rest).2)
    else ((c :: rest).takeWhile continuesIdentifier, (c :: rest).dropWhile continuesIdentifier)

/-- A segment and the rest make up the text. -/
theorem readSegment_append (s : Text) : (readSegment s).1 ++ (readSegment s).2 = s := by
  cases s with
  | nil => rfl
  | cons c rest =>
    simp only [readSegment]
    split
    · simp [takeQuoted_append]
    · exact List.takeWhile_append_dropWhile

/-- The rest behind a segment is no longer than the text. -/
theorem readSegment_length_le (s : Text) : (readSegment s).2.length ≤ s.length := by
  have h := congrArg List.length (readSegment_append s)
  simp only [List.length_append] at h
  omega

/-- The further segments of a chain: each behind a dot; `*` ends the chain.  A dot that no
segment follows stays in the rest. -/
def readChain (s : Text) : List Text × Text :=
  match s with
  | '.' :: '*' :: rest => ([['*']], rest)
  | '.' :: c :: rest =>
    if startsIdentifier c || isIdentifierQuote c then
      ((readSegment (c :: rest)).1 :: (readChain (readSegment (c :: rest)).2).1,
        (readChain (readSegment (c :: rest)).2).2)
    else ([], s)
  | _ => ([], s)
termination_by s.length
decreasing_by
  all_goals
    have := readSegment_length_le (c :: rest)
    simp only [List.length_cons] at *
    omega

/-- Whether a segment is written in quotes. -/
def isQuotedSegment : Text → Bool
  | c :: _ => isIdentifierQuote c
  | [] => false

/-- Whether an opening parenthesis comes next, white space aside. -/
def opensCall (s : Text) : Bool :=
  (s.dropWhile isBlank).head? == some '('

/-- The token for a chain of segments in front of `rest`.  A single plain word may be a
keyword; a chain that ends in a plain segment is a function name if a call opens behind it. -/
def chainToken (segments : List Text) (rest : Text) : Token :=
  match segments with
  | [word] =>
    if isQuotedSegment word then .identifier segments
    else if isKeyword word then .keyword word
    else if opensCall rest then .function word
    else .identifier segments
  | _ =>
    match segments.getLast? with
    | some last =>
      if last != ['*'] && !isQuotedSegment last && opensCall rest then
        .function (Text.join ['.'] segments)
      else .identifier segments
    | none => .identifier segments

/-- A chain of segments at the start of a text. -/
def readIdentifier (s : Text) : Token × Text :=
  let first := readSegment s
  let more := readChain first.2
  (chainToken (first.1 :: more.1) more.2, more.2)

/-! ## Numbers, parameters and punctuation -/

/-- The exponent of a number: `e` or `E`, an optional sign, and at least one digit.  Without a
digit there is no exponent. -/
def readExponent : Text → Text × Text
  | e :: x :: rest =>
    if e == 'e' || e == 'E' then
      if x.isDigit then (e :: x :: rest.takeWhile Char.isDigit, rest.dropWhile Char.isDigit)
      else if (x == '+' || x == '-') && rest.head?.any Char.isDigit then
        (e :: x :: rest.takeWhile Char.isDigit, rest.dropWhile Char.isDigit)
      else ([], e :: x :: rest)
    else ([], e :: x :: rest)
  | s => ([], s)

/-- Digits and dots, then an exponent if there is one. -/
def readNumber (s : Text) : Token × Text :=
  let mantissa := s.takeWhile fun c => c.isDigit || c == '.'
  let exponent := readExponent (s.dropWhile fun c => c.isDigit || c == '.')
  (.number (mantissa ++ exponent.1), exponent.2)

/-- Operators of several characters; an operator comes before those it starts with. -/
def longOperators : List Text :=
  ["->>", "#>>", "<=", ">=", "<>", "!=", "||", "::", "->", "#>"].map String.toList

/-- Operators of one character. -/
def shortOperators : Text :=
  "=<>!+-*/%|&^~#".toList

/-- A parenthesis, a comma, an operator, or a character of its own. -/
def readPunctuation (c : Char) (rest : Text) : Token × Text :=
  if c = '(' then (.leftParen, rest)
  else if c = ')' then (.rightParen, rest)
  else if c = ',' then (.comma, rest)
  else
    match longOperators.find? (·.isPrefixOf (c :: rest)) with
    | some op => (.operator op, (c :: rest).drop op.length)
    | none =>
      if shortOperators.contains c then (.operator [c], rest) else (.other c, rest)

def startsWithDigit (s : Text) : Bool :=
  s.head?.any Char.isDigit

/-- The first token of `c :: rest`, where `c` is no white space, and what follows it. -/
def readToken (c : Char) (rest : Text) : Token × Text :=
  if c = '\'' then (.literal (c :: (takeQuoted c rest).1), (takeQuoted c rest).2)
  else if startsIdentifier c || isIdentifierQuote c then readIdentifier (c :: rest)
  else if c.isDigit || (c == '.' && startsWithDigit rest) then readNumber (c :: rest)
  else if c == '?' || (c == '$' && startsWithDigit rest) then
    (.parameter (c :: rest.takeWhile Char.isDigit), rest.dropWhile Char.isDigit)
  else readPunctuation c rest

/-! ## Every step moves on -/

/-- What `dropWhile` leaves is no longer than the text. -/
theorem length_dropWhile_le (p : Char → Bool) (s : Text) :
    (s.dropWhile p).length ≤ s.length := by
  have h := congrArg List.length (List.takeWhile_append_dropWhile (p := p) (l := s))
  simp only [List.length_append] at h
  omega

/-- A character that starts an identifier also continues one. -/
theorem continuesIdentifier_of_starts {c : Char} (h : startsIdentifier c) :
    continuesIdentifier c := by
  simp only [startsIdentifier, continuesIdentifier, isAlphanumeric, Bool.or_eq_true] at *
  grind

/-- A segment takes the character that opens it. -/
theorem readSegment_length_lt {c : Char} (rest : Text)
    (h : startsIdentifier c || isIdentifierQuote c) :
    (readSegment (c :: rest)).2.length < (c :: rest).length := by
  simp only [readSegment]
  split
  · have := takeQuoted_length_le c rest
    simp only [List.length_cons]
    omega
  · rename_i hq
    have hc := continuesIdentifier_of_starts (c := c) (by simpa [hq] using h)
    have := length_dropWhile_le continuesIdentifier rest
    simp only [List.dropWhile_cons, hc, if_true, List.length_cons]
    omega

/-- The rest behind a chain is no longer than the text. -/
theorem readChain_length_le (s : Text) : (readChain s).2.length ≤ s.length := by
  fun_induction readChain s with
  | case1 rest => simp only [List.length_cons]; omega
  | case2 c rest _ _ ih =>
    have := readSegment_length_le (c :: rest)
    simp only [List.length_cons] at *
    omega
  | case3 => simp
  | case4 => simp

/-- The rest behind an exponent is no longer than the text. -/
theorem readExponent_length_le (s : Text) : (readExponent s).2.length ≤ s.length := by
  fun_cases readExponent s <;>
    simp only [List.length_cons, Nat.le_refl] <;>
    · have := length_dropWhile_le Char.isDigit (by assumption)
      omega

/-- Operators of several characters are not empty. -/
theorem length_pos_of_longOperator {op : Text} (h : op ∈ longOperators) : 0 < op.length := by
  revert op
  decide

/-- **A token takes at least one character.** -/
theorem readToken_length_le (c : Char) (rest : Text) :
    (readToken c rest).2.length ≤ rest.length := by
  unfold readToken
  split
  · exact takeQuoted_length_le c rest
  split
  · rename_i h
    have h1 := readSegment_length_lt rest h
    have h2 := readChain_length_le (readSegment (c :: rest)).2
    simp only [readIdentifier, List.length_cons] at *
    omega
  split
  · rename_i h
    have hc : (c.isDigit || c == '.') = true := by
      simp only [Bool.or_eq_true, Bool.and_eq_true] at *
      grind
    have h1 := readExponent_length_le (rest.dropWhile fun c => c.isDigit || c == '.')
    have h2 := length_dropWhile_le (fun c => c.isDigit || c == '.') rest
    simp only [readNumber, List.dropWhile_cons, hc, if_true]
    omega
  split
  · exact length_dropWhile_le _ rest
  · unfold readPunctuation
    repeat' split
    all_goals try exact Nat.le_refl _
    rename_i op h
    have := length_pos_of_longOperator (List.mem_of_find?_eq_some h)
    simp only [List.length_drop, List.length_cons]
    omega

/-! ## Whole texts -/

/-- A token, the white space in front of it, and the characters it was read from. -/
structure Lexeme where
  blank : Text
  source : Text
  token : Token
deriving DecidableEq, Repr

/-- A text as lexemes, and the white space behind the last one. -/
structure Scan where
  lexemes : List Lexeme
  trailing : Text
deriving DecidableEq, Repr

/-- A text cut into lexemes.  The source of a token is what its reading took away. -/
def scan (s : Text) : Scan :=
  match _h : s.dropWhile isBlank with
  | [] => ⟨[], s⟩
  | c :: rest =>
    let next := readToken c rest
    let more := scan next.2
    ⟨⟨s.takeWhile isBlank, (c :: rest).take ((c :: rest).length - next.2.length), next.1⟩
      :: more.lexemes, more.trailing⟩
termination_by s.length
decreasing_by
  have h1 := readToken_length_le c rest
  have h2 := length_dropWhile_le isBlank s
  rw [_h, List.length_cons] at h2
  omega

/-- The tokens of a text. -/
def tokens (s : Text) : List Token :=
  (scan s).lexemes.map Lexeme.token

/-- The spans of some lexemes, the first one starting at `offset`. -/
def spansFrom (offset : Nat) : List Lexeme → List Span
  | [] => []
  | l :: rest =>
    let start := offset + l.blank.bytes
    let stop := start + l.source.bytes
    ⟨start, stop⟩ :: spansFrom stop rest

/-- The byte spans of the tokens of a text, in order. -/
def spans (s : Text) : List Span :=
  spansFrom 0 (scan s).lexemes

end SqlFragments
