import SqlFragments.Grammar.Symbol
import SqlFragments.Text.Digit

/-!
# Reading symbols

A statement is cut into symbols from left to right.  The dialects differ in what starts a word,
which quotes make a name and which a text, how comments start, and which operators there are.

* `Dialect.startsWord`, `Dialect.continuesWord`, `Dialect.quotesName`: words and names
* `nextSymbol`: the symbol, white space or comment that a text starts with
* `symbols`: the symbols of a statement
-/

namespace SqlFragments

/-- What is read: a symbol or, in between, nothing; and the rest of the text. -/
abbrev Scanned := Except SyntaxError (Option Symbol × Text)

/-! ## What the dialects take -/

namespace Dialect

def startsWord (d : Dialect) (c : Char) : Bool :=
  match d with
  | ansi => isLetter c || c == '_' || c == '#' || c == '@'
  | postgres => isLetter c || c == '_'
  | _ => c.isAlpha || c == '_'

def continuesWord (d : Dialect) (c : Char) : Bool :=
  match d with
  | ansi => isLetter c || c.isDigit || c == '_' || c == '#' || c == '@' || c == '$'
  | postgres => isLetter c || c.isDigit || c == '_' || c == '$'
  | snowflake => c.isAlphanum || c == '_' || c == '$'
  | bigQuery => c.isAlphanum || c == '_'

/-- Whether a quote encloses a name, not a text. -/
def quotesName (d : Dialect) (c : Char) : Bool :=
  match d with
  | bigQuery => c == '\x60'
  | postgres => c == '"'
  | _ => c == '"' || c == '\x60'

/-- Whether a backslash in a text takes the next character with it. -/
def escapesWithBackslash (d : Dialect) : Bool :=
  d == bigQuery || d == snowflake

/-- Whether a text may be enclosed in three quotes. -/
def takesTripleQuotes (d : Dialect) : Bool :=
  d == bigQuery

/-- Whether a character may stand in an operator of the user's own making. -/
def continuesOperator (d : Dialect) (c : Char) : Bool :=
  d == postgres && "+-*/<>=~!@#%^&|\x60?".toList.contains c

end Dialect

/-! ## Texts and names in quotes -/

/-- The character that a letter behind a backslash stands for. -/
def backslashLetter (c : Char) : Char :=
  match c with
  | '0' => '\x00'
  | 'a' => '\x07'
  | 'b' => '\x08'
  | 'f' => '\x0c'
  | 'n' => '\n'
  | 'r' => '\r'
  | 't' => '\t'
  | 'Z' => '\x1a'
  | c => c

/-- A text behind its opening quote.  A quote written twice stands for one. -/
def readText (quote : Char) (backslash : Bool) (taken : Text) :
    Text → Except SyntaxError (Text × Text)
  | [] => .error (.malformed "Unterminated string literal")
  | '\\' :: c :: rest =>
    if backslash then readText quote backslash (backslashLetter c :: taken) rest
    else readText quote backslash ('\\' :: taken) (c :: rest)
  | c :: d :: rest =>
    if c = quote then
      if d = quote then readText quote backslash (c :: taken) rest
      else .ok (taken.reverse, d :: rest)
    else readText quote backslash (c :: taken) (d :: rest)
  | [c] =>
    if c = quote then .ok (taken.reverse, [])
    else .error (.malformed "Unterminated string literal")

/-- A text behind three opening quotes: it ends behind three quotes in a row, of which `run`
have been met. -/
def readTriple (quote : Char) (backslash : Bool) (run : Nat) (taken : Text) :
    Text → Except SyntaxError (Text × Text)
  | [] => .error (.malformed "Unterminated string literal")
  | '\\' :: c :: rest =>
    if backslash then readTriple quote backslash 0 (backslashLetter c :: taken) rest
    else readTriple quote backslash 0 ('\\' :: taken) (c :: rest)
  | c :: rest =>
    if c = quote then
      if run = 2 then .ok ((taken.drop 2).reverse, rest)
      else readTriple quote backslash (run + 1) (c :: taken) rest
    else readTriple quote backslash 0 (c :: taken) rest

/-- A text in one quote or, where `triple` allows it, in three; the text starts with its opening
quote. -/
def readQuoted (triple : Bool) (form : TextForm) (backslash : Bool) : Text → Scanned
  | q :: rest =>
    if triple && [q, q].isPrefixOf rest then do
      let (value, rest) ← readTriple q backslash 0 [] (rest.drop 2)
      return (some (.quoted (if form = .single || form = .double then .triple else form) value),
        rest)
    else if triple && [q].isPrefixOf rest then
      return (some (.quoted form []), rest.drop 1)
    else do
      let (value, rest) ← readText q backslash [] rest
      return (some (.quoted form value), rest)
  | [] => .error (.malformed "Unterminated string literal")

/-- A name behind its opening quote. -/
def readName (quote : Char) (taken : Text) : Text → Except SyntaxError (Text × Text)
  | [] => .error (.malformed "Unterminated name")
  | [c] => if c = quote then .ok (taken.reverse, []) else .error (.malformed "Unterminated name")
  | c :: e :: rest =>
    if c = quote then
      if e = quote then readName quote (c :: taken) rest else .ok (taken.reverse, e :: rest)
    else readName quote (c :: taken) (e :: rest)

def hexValue (c : Char) : Option Nat :=
  if c.isDigit then some (c.toNat - '0'.toNat)
  else if 'a' ≤ c && c ≤ 'f' then some (c.toNat - 'a'.toNat + 10)
  else if 'A' ≤ c && c ≤ 'F' then some (c.toNat - 'A'.toNat + 10)
  else none

/-- The character with a code point, if there is one. -/
def charOfCode (n : Nat) : Option Char :=
  if h : n.isValidChar then some (Char.ofNatAux n h) else none

/-- The character that exactly `count` hexadecimal digits stand for. -/
def readHexChar (count : Nat) (s : Text) : Option (Char × Text) :=
  let digits := (s.take count).filterMap hexValue
  if digits.length = count then
    (charOfCode (digits.foldl (fun n d => 16 * n + d) 0)).map fun c => (c, s.drop count)
  else none

/-- The character that `count` characters stand for: hexadecimal digits, the first of which may be
a plus sign instead. -/
def readSignedHexChar (count : Nat) (s : Text) : Option (Char × Text) :=
  match s with
  | '+' :: rest => readHexChar (count - 1) rest
  | s => readHexChar count s

/-- The character of a byte below 128 that is not zero. -/
def byteChar (n : Nat) : Option Char :=
  if n % 256 = 0 || n % 256 ≥ 128 then none else some (Char.ofNat (n % 256))

def isOctal (c : Char) : Bool :=
  '0' ≤ c && c ≤ '7'

/-- The character that an escape behind a backslash stands for. -/
def readEscape (c : Char) (s : Text) : Option (Char × Text) :=
  match c with
  | 'b' => some ('\x08', s)
  | 'f' => some ('\x0c', s)
  | 'n' => some ('\n', s)
  | 'r' => some ('\r', s)
  | 't' => some ('\t', s)
  | 'u' => (readSignedHexChar 4 s).filter fun r => r.1 != '\x00'
  | 'U' => (readSignedHexChar 8 s).filter fun r => r.1 != '\x00'
  | 'x' =>
    let digits := (s.take 2).takeWhile fun c => (hexValue c).isSome
    if digits.isEmpty then some ('x', s)
    else (byteChar ((digits.filterMap hexValue).foldl (fun n d => 16 * n + d) 0)).map
      fun r => (r, s.drop digits.length)
  | c =>
    if isOctal c then
      let digits := (s.take 2).takeWhile isOctal
      (byteChar (((c :: digits).filterMap hexValue).foldl (fun n d => 8 * n + d) 0)).map
        fun r => (r, s.drop digits.length)
    else if c = '\x00' then none
    else some (c, s)

/-- A text with backslash escapes, behind its opening quote.  `fuel` bounds its characters. -/
def readEscaped (taken : Text) : Nat → Text → Except SyntaxError (Text × Text)
  | 0, _ => .error (.malformed "Unterminated encoded string literal")
  | fuel + 1, s =>
    match s with
    | '\'' :: '\'' :: rest => readEscaped ('\'' :: taken) fuel rest
    | '\'' :: rest => .ok (taken.reverse, rest)
    | '\\' :: c :: rest =>
      match readEscape c rest with
      | some (r, rest) => readEscaped (r :: taken) fuel rest
      | none => .error (.malformed "Unterminated encoded string literal")
    | c :: rest =>
      if c = '\\' then .error (.malformed "Unterminated encoded string literal")
      else readEscaped (c :: taken) fuel rest
    | [] => .error (.malformed "Unterminated encoded string literal")

/-- A text with code point escapes, behind its opening quote.  `fuel` bounds its characters. -/
def readUnicode (taken : Text) : Nat → Text → Except SyntaxError (Text × Text)
  | 0, _ => .error (.malformed "Unterminated unicode encoded string literal")
  | fuel + 1, s =>
    match s with
    | '\'' :: '\'' :: rest => readUnicode ('\'' :: taken) fuel rest
    | '\'' :: rest => .ok (taken.reverse, rest)
    | '\\' :: '\\' :: rest => readUnicode ('\\' :: taken) fuel rest
    | '\\' :: rest =>
      let code := match rest with
        | '+' :: digits => readHexChar 6 digits
        | digits => readHexChar 4 digits
      match code with
      | some (r, rest) => readUnicode (r :: taken) fuel rest
      | none => .error (.malformed "Invalid unicode escape")
    | c :: rest => readUnicode (c :: taken) fuel rest
    | [] => .error (.malformed "Unterminated unicode encoded string literal")

/-- What follows the first two dollar signs in a row, and what precedes them. -/
def cutAtDollars : Text → Option (Text × Text)
  | '$' :: '$' :: rest => some ([], rest)
  | [] => none
  | c :: rest => (cutAtDollars rest).map fun r => (c :: r.1, r.2)

/-- A text between two equal tags, behind the first one: `wanted` is what must still follow for
the closing tag, nothing while no dollar sign has been met.  A character that the closing tag does
not go on with belongs to the text, also if it is a dollar sign, except behind the whole tag. -/
def readTagged (tag taken : Text) (wanted : Option Text) : Text → Option (Text × Text)
  | [] => none
  | c :: rest =>
    match wanted with
    | none => readTagged tag (c :: taken) (if c = '$' then some tag else none) rest
    | some (w :: wanted) =>
      readTagged tag (c :: taken) (if c = w then some wanted else none) rest
    | some [] =>
      if c = '$' then some ((taken.drop (tag.length + 1)).reverse, rest)
      else readTagged tag (c :: taken) none rest

/-- What a dollar sign starts: a text between two equal tags, or a placeholder. -/
def readDollar (s : Text) : Scanned :=
  let tag := s.takeWhile fun c => isAlphanumeric c || c == '_'
  match s.dropWhile fun c => isAlphanumeric c || c == '_' with
  | '$' :: rest =>
    match if tag.isEmpty then cutAtDollars rest else readTagged tag [] none rest with
    | some (value, rest) => .ok (some (.quoted .dollar value), rest)
    | none => .error (.malformed "Unterminated dollar-quoted string")
  | rest => .ok (some (.placeholder ('$' :: tag)), rest)

/-! ## Comments, words and numbers -/

/-- What follows a comment that ends with its line. -/
def afterLine (s : Text) : Text :=
  (s.dropWhile fun c => c != '\n').drop 1

/-- What follows a comment that is `depth` comments deep and whose last character is `last`.  An
asterisk or a slash may belong both to a start and to an end. -/
def afterComment (depth : Nat) (last : Char) : Text → Except SyntaxError Text
  | [] => .error (.malformed "Unexpected EOF while in a multi-line comment")
  | c :: rest =>
    if last = '/' && c = '*' then afterComment (depth + 1) c rest
    else if last = '*' && c = '/' then
      if depth ≤ 1 then .ok rest else afterComment (depth - 1) c rest
    else afterComment depth c rest

/-- A word that starts with the given characters. -/
def readWord (d : Dialect) (start s : Text) : Scanned :=
  .ok (some (.word (.plain (start ++ s.takeWhile d.continuesWord))), s.dropWhile d.continuesWord)

/-- The exponent at the start of a text; nothing if no digit belongs to it. -/
def exponentOf : Text → Text
  | e :: x :: rest =>
    if e == 'e' || e == 'E' then
      if x.isDigit then e :: x :: rest.takeWhile Char.isDigit
      else if (x == '+' || x == '-') && rest.head?.any Char.isDigit then
        e :: x :: rest.takeWhile Char.isDigit
      else []
    else []
  | _ => []

/-- What a digit or a dot starts: a number, or a dot on its own. -/
def readDigits (s : Text) : Scanned :=
  let whole := s.takeWhile Char.isDigit
  let rest := s.dropWhile Char.isDigit
  match whole, rest with
  | ['0'], 'x' :: rest =>
    let isHex := fun c => (hexValue c).isSome
    .ok (some (.quoted .hexadecimal (rest.takeWhile isHex)), rest.dropWhile isHex)
  | _, _ =>
    let point := if rest.head? == some '.' then ['.'] else []
    let rest := rest.drop point.length
    let digits := whole ++ point ++ rest.takeWhile Char.isDigit
    let rest := rest.dropWhile Char.isDigit
    if digits = ['.'] then .ok (some (.mark "."), rest)
    else
      let exponent := exponentOf rest
      let rest := rest.drop exponent.length
      let long := rest.head? == some 'L'
      .ok (some (.number (digits ++ exponent) long), if long then rest.drop 1 else rest)

/-! ## Marks -/

/-- A mark as a symbol. -/
def markAs (spelling : String) (rest : Text) : Scanned :=
  .ok (some (.mark spelling), rest)

/-- An operator, unless characters follow that make it one of the user's own. -/
def operatorAs (d : Dialect) (spelling : String) (rest : Text) : Scanned :=
  let more := rest.takeWhile d.continuesOperator
  if more.isEmpty then markAs spelling rest
  else .ok (some (.custom (spelling.toList ++ more)), rest.drop more.length)

/-- What `#` starts outside comments. -/
def readHash (d : Dialect) : Text → Scanned
  | '-' :: rest => operatorAs d "#-" rest
  | '>' :: '>' :: rest => operatorAs d "#>>" rest
  | '>' :: rest => operatorAs d "#>" rest
  | ' ' :: rest => markAs "#" (' ' :: rest)
  | c :: rest =>
    if d.startsWord '#' then readWord d ['#', c] rest else operatorAs d "#" (c :: rest)
  | [] => operatorAs d "#" []

def readAt (d : Dialect) : Text → Scanned
  | '>' :: rest => markAs "@>" rest
  | '?' :: rest => markAs "@?" rest
  | '@' :: ' ' :: rest => markAs "@@" (' ' :: rest)
  | '@' :: c :: rest =>
    if d.startsWord '@' then readWord d ['@', '@', c] rest else markAs "@@" (c :: rest)
  | '@' :: [] => markAs "@@" []
  | c :: rest =>
    if c == ' ' || c == '\'' || c == '"' || c == '\x60' then markAs "@" (c :: rest)
    else if d.startsWord '@' then readWord d ['@', c] rest
    else markAs "@" (c :: rest)
  | [] => markAs "@" []

/-- What `?` starts: an operator on documents or a placeholder. -/
def readQuestion (d : Dialect) (s : Text) : Scanned :=
  if d == .postgres then
    match s with
    | '|' :: rest => markAs "?|" rest
    | '&' :: rest => markAs "?&" rest
    | s => markAs "?" (s.drop 1)
  else
    .ok (some (.placeholder ('?' :: s.takeWhile isNumeric)), s.dropWhile isNumeric)

/-- What a character of punctuation starts, the rest of the text being given. -/
def readMark (d : Dialect) (c : Char) (s : Text) : Scanned :=
  match c, s with
  | '-', '>' :: '>' :: rest => operatorAs d "->>" rest
  | '-', '>' :: rest => operatorAs d "->" rest
  | '-', s => operatorAs d "-" s
  | '/', s => markAs "/" s
  | '%', c :: rest => if isBlank c then markAs "%" (c :: rest) else operatorAs d "%" (c :: rest)
  | '%', [] => markAs "%" []
  | '|', '/' :: rest => operatorAs d "|/" rest
  | '|', '|' :: '/' :: rest => operatorAs d "||/" rest
  | '|', '|' :: rest => operatorAs d "||" rest
  | '|', s => operatorAs d "|" s
  | '=', '>' :: rest => markAs "=>" rest
  | '=', '=' :: rest => markAs "==" rest
  | '=', s => markAs "=" s
  | '!', '=' :: rest => markAs "<>" rest
  | '!', '!' :: rest => markAs "!!" rest
  | '!', '~' :: '*' :: rest => markAs "!~*" rest
  | '!', '~' :: '~' :: '*' :: rest => markAs "!~~*" rest
  | '!', '~' :: '~' :: rest => markAs "!~~" rest
  | '!', '~' :: rest => markAs "!~" rest
  | '!', s => markAs "!" s
  | '<', '=' :: '>' :: rest => operatorAs d "<=>" rest
  | '<', '=' :: rest => operatorAs d "<=" rest
  | '<', '>' :: rest => operatorAs d "<>" rest
  | '<', '<' :: rest => operatorAs d "<<" rest
  | '<', '@' :: rest => operatorAs d "<@" rest
  | '<', s => operatorAs d "<" s
  | '>', '=' :: rest => operatorAs d ">=" rest
  | '>', '>' :: rest => operatorAs d ">>" rest
  | '>', s => operatorAs d ">" s
  | ':', ':' :: rest => markAs "::" rest
  | ':', '=' :: rest => markAs ":=" rest
  | ':', s => markAs ":" s
  | '&', '&' :: rest => operatorAs d "&&" rest
  | '&', s => operatorAs d "&" s
  | '^', '@' :: rest => markAs "^@" rest
  | '^', s => markAs "^" s
  | '~', '*' :: rest => operatorAs d "~*" rest
  | '~', '~' :: '*' :: rest => operatorAs d "~~*" rest
  | '~', '~' :: rest => operatorAs d "~~" rest
  | '~', s => operatorAs d "~" s
  | '#', s => readHash d s
  | '@', s => readAt d s
  | '?', s => readQuestion d s
  | '$', s => readDollar s
  | c, s =>
    if "(),+*;\\[]\x7b\x7d".toList.contains c then markAs (String.singleton c) s
    else .ok (some (.stray c), s)

/-! ## Statements -/

/-- A text in quotes behind a letter that says what kind of text it is. -/
def readPrefixed (d : Dialect) (c : Char) (s : Text) : Option Scanned :=
  match c.toLower, s with
  | 'b', '\'' :: _ =>
    if d == .snowflake then none else some (readQuoted d.takesTripleQuotes .bytes false s)
  | 'b', '"' :: _ =>
    if d == .snowflake then none else some (readQuoted d.takesTripleQuotes .bytes false s)
  | 'r', '\'' :: _ =>
    if d == .bigQuery || d == .ansi then some (readQuoted true .raw false s) else none
  | 'r', '"' :: _ =>
    if d == .bigQuery || d == .ansi then some (readQuoted true .raw false s) else none
  | 'n', '\'' :: rest =>
    some ((readText '\'' true [] rest).map fun r => (some (.quoted .national r.1), r.2))
  | 'e', '\'' :: rest =>
    some ((readEscaped [] (rest.length + 1) rest).map
      fun r => (some (.quoted .escaped r.1), r.2))
  | 'u', '&' :: '\'' :: rest =>
    if d == .postgres || d == .ansi then
      some ((readUnicode [] (rest.length + 1) rest).map
        fun r => (some (.quoted .unicode r.1), r.2))
    else none
  | 'x', '\'' :: rest =>
    some ((readText '\'' true [] rest).map fun r => (some (.quoted .hexadecimal r.1), r.2))
  | _, _ => none

/-- Whether a comment to the end of the line starts. -/
def startsLineComment (d : Dialect) (c : Char) (s : Text) : Bool :=
  (c == '-' && s.head? == some '-') || (c == '/' && s.head? == some '/' && d == .snowflake) ||
    (c == '#' && (d == .snowflake || d == .bigQuery))

/-- What a text starts with. -/
def nextSymbol (d : Dialect) (c : Char) (rest : Text) : Scanned :=
  match readPrefixed d c rest with
  | some read => read
  | none =>
    if isBlank c then .ok (none, rest)
    else if startsLineComment d c rest then .ok (none, afterLine rest)
    else if c == '/' && rest.head? == some '*' then
      (afterComment 1 ' ' (rest.drop 1)).map fun r => (none, r)
    else if c == '/' && rest.head? == some '/' && d == .ansi then markAs "//" (rest.drop 1)
    else if d.quotesName c then
      (readName c [] rest).map fun r => (some (.word (.quoted c r.1)), r.2)
    else if c == '\'' then
      readQuoted d.takesTripleQuotes .single d.escapesWithBackslash (c :: rest)
    else if c == '"' then
      readQuoted d.takesTripleQuotes .double d.escapesWithBackslash (c :: rest)
    else if c.isDigit || c == '.' then readDigits (c :: rest)
    else if d.startsWord c && c != '#' && c != '@' then readWord d [c] rest
    else readMark d c rest

/-- The symbols of a text; `joined` tells whether it directly follows a symbol, and `fuel` bounds
its characters. -/
def symbolsFrom (d : Dialect) (joined : Bool) : Nat → Text → Except SyntaxError (List Placed)
  | 0, _ => .ok []
  | _ + 1, [] => .ok []
  | fuel + 1, c :: rest => do
    match ← nextSymbol d c rest with
    | (none, rest) => symbolsFrom d false fuel rest
    | (some symbol, rest) => return ⟨symbol, joined⟩ :: (← symbolsFrom d true fuel rest)

/-- The symbols of a statement. -/
def symbols (d : Dialect) (s : Text) : Except SyntaxError (List Placed) :=
  symbolsFrom d true s.length s

end SqlFragments
