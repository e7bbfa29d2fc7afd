import SqlFragments.Document.Value

/-!
# Keys and texts of TOML

The smallest parts of a TOML document: blanks, comments, line ends, texts in their four forms,
and keys.

* `Toml.Reader`: a reader of characters from the front of a document
* `Toml.quotedText`: a text in any of its forms
* `Toml.keyPath`: a key, possibly of several names with dots
-/

namespace SqlFragments.Toml

/-- A reader of a value from the front of a document; it has no result where the document is
malformed. -/
abbrev Reader (α : Type) := StateT Text Option α

/-! ## Characters -/

def peek : Reader (Option Char) := do
  return (← get).head?

/-- Takes a text if it comes next. -/
def accept (s : Text) : Reader Bool := do
  let rest ← get
  if s.isPrefixOf rest then set (rest.drop s.length); return true
  else return false

/-- Takes a text; fails if anything else comes next. -/
def expect (s : Text) : Reader Unit := do
  unless ← accept s do failure

/-- Takes the longest run of characters of a class. -/
def takeRun (p : Char → Bool) : Reader Text := do
  let s ← get
  set (s.dropWhile p)
  return s.takeWhile p

def takeExactly (n : Nat) (p : Char → Bool) : Reader Text := do
  let s ← get
  if (s.take n).length = n && (s.take n).all p then set (s.drop n); return s.take n
  else failure

/-- What a reader yields, or nothing if it fails; in that case nothing is taken. -/
def optional {α : Type} (r : Reader α) : Reader (Option α) := fun s =>
  match r.run s with
  | some (a, rest) => some (some a, rest)
  | none => some (none, s)

/-- A bound on how often anything can be read. -/
def fuel : Reader Nat := do
  return (← get).length + 1

/-! ## Blanks and comments -/

/-- Whether a character is a blank within a line. -/
def isBlank (c : Char) : Bool :=
  c == ' ' || c == '\t'

/-- Whether a character is not ASCII or is printable ASCII, the given one aside. -/
def isPlain (excluded : List Char) (c : Char) : Bool :=
  (128 ≤ c.toNat || (32 ≤ c.toNat && c.toNat ≤ 126)) && !excluded.contains c

def blanks : Reader Unit :=
  discard (takeRun isBlank)

/-- Takes the end of a line if it comes next. -/
def lineEnd : Reader Bool := do
  if ← accept ['\n'] then return true else accept ['\r', '\n']

def comment : Reader Unit := do
  if ← accept ['#'] then discard (takeRun fun c => c == '\t' || isPlain [] c)

/-- Takes blanks, comments and line ends. -/
def gapWithin : Nat → Reader Unit
  | 0 => return
  | n + 1 => do
    blanks
    comment
    if ← lineEnd then gapWithin n

/-- Takes blanks, comments and line ends. -/
def gap : Reader Unit := do
  gapWithin (← fuel)

/-! ## Texts -/

def hexValue (c : Char) : Option Nat :=
  if c.isDigit then some (c.toNat - '0'.toNat)
  else if 'a' ≤ c && c ≤ 'f' then some (c.toNat - 'a'.toNat + 10)
  else if 'A' ≤ c && c ≤ 'F' then some (c.toNat - 'A'.toNat + 10)
  else none

/-- The character whose code point is written with `n` hexadecimal digits. -/
def codePoint (n : Nat) : Reader Char := do
  let digits ← takeExactly n fun c => (hexValue c).isSome
  let code := (digits.filterMap hexValue).foldl (fun sum v => 16 * sum + v) 0
  if h : code.isValidChar then return Char.ofNatAux code h else failure

/-- The character that an escape stands for, behind the backslash. -/
def escape : Reader Char := do
  match ← peek with
  | none => failure
  | some c =>
    modify (·.drop 1)
    match c with
    | 'b' => return '\x08'
    | 't' => return '\t'
    | 'n' => return '\n'
    | 'f' => return '\x0c'
    | 'r' => return '\r'
    | '"' => return '"'
    | '\\' => return '\\'
    | 'u' => codePoint 4
    | 'U' => codePoint 8
    | _ => failure

/-- A text on one line with escapes, up to its closing quote. -/
def basicText : Nat → Reader Text
  | 0 => failure
  | n + 1 => do
    let run ← takeRun fun c => c == '\t' || isPlain ['"', '\\'] c
    if ← accept ['"'] then return run
    else
      expect ['\\']
      let c ← escape
      return run ++ c :: (← basicText n)

/-- A text on one line without escapes, up to its closing quote. -/
def literalText : Reader Text := do
  let run ← takeRun fun c => c == '\t' || isPlain ['\''] c
  expect ['\'']
  return run

/-- Up to two quotes and the three that close a text, if it is closed here. -/
def closingQuotes (q : Char) : Reader (Option Text) := do
  let quotes := (← get).takeWhile (· == q)
  if quotes.length < 3 then return none
  else if quotes.length ≤ 5 then
    modify (·.drop quotes.length)
    return some (quotes.drop 3)
  else failure

/-- Takes blanks and line ends. -/
def blankLines : Nat → Reader Unit
  | 0 => return
  | n + 1 => do
    blanks
    if ← lineEnd then blankLines n

/-- Takes the blanks and line ends behind a backslash that ends a line. -/
def foldLine : Reader Unit := do
  blanks
  unless ← lineEnd do failure
  blankLines (← fuel)

/-- A text on several lines, up to its closing quotes; escapes mean something only if `escapes`
is set. -/
def longText (q : Char) (escapes : Bool) : Nat → Reader Text
  | 0 => failure
  | n + 1 => do
    match ← closingQuotes q with
    | some quotes => return quotes
    | none =>
      if ← lineEnd then return '\n' :: (← longText q escapes n)
      else if escapes && (← peek) == some '\\' then
        modify (·.drop 1)
        match ← optional foldLine with
        | some () => longText q escapes n
        | none =>
          let c ← escape
          return c :: (← longText q escapes n)
      else
        match ← peek with
        | some c =>
          if c == '\t' || isPlain [] c then
            modify (·.drop 1)
            return c :: (← longText q escapes n)
          else failure
        | none => failure

/-- A text on one line, in either kind of quotes. -/
def shortText : Reader Text := do
  if ← accept ['"'] then basicText (← fuel)
  else
    expect ['\'']
    literalText

def quotedText : Reader Text := do
  let long (q : Char) : Reader (Option Text) := do
    if ← accept [q, q, q] then
      discard lineEnd
      return some (← longText q (q == '"') (← fuel))
    else return none
  match ← long '"' with
  | some s => return s
  | none =>
    match ← long '\'' with
    | some s => return s
    | none => shortText

/-! ## Keys -/

/-- How deep values may lie in one another, and how many names a key may have: fewer than this. -/
def maxDepth : Nat := 80

/-- Whether a character may stand in a name without quotes. -/
def isNameChar (c : Char) : Bool :=
  c.isAlphanum || c == '_' || c == '-'

/-- One name of a key. -/
def keyName : Reader Text := do
  match ← peek with
  | some '"' | some '\'' => shortText
  | _ =>
    let run ← takeRun isNameChar
    if run.isEmpty then failure else return run

def keyNames : Nat → Reader (List Text)
  | 0 => failure
  | n + 1 => do
    blanks
    let name ← keyName
    blanks
    if ← accept ['.'] then return name :: (← keyNames n)
    else return [name]

/-- A key: its names but the last, and the last. -/
def keyPath : Reader (List Text × Text) := do
  let names ← keyNames (← fuel)
  if names.length ≥ maxDepth then failure
  else
    match names.getLast? with
    | some last => return (names.dropLast, last)
    | none => failure

end SqlFragments.Toml
