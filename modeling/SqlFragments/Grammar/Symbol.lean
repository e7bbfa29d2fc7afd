import SqlFragments.Dialect

/-!
# Symbols

The units that statements are read from.  A statement is first cut into symbols; comments and
white space only part them.

* `Symbol`: words, numbers, texts in quotes, placeholders and marks
* `Symbol.key`: the keyword that a symbol may stand for
* `SyntaxError`: why a statement cannot be read
-/

namespace SqlFragments

/-- Why a statement cannot be read. -/
inductive SyntaxError where
  /-- A symbol that never ends, or is none. -/
  | malformed (what : String)
  /-- Something else should stand at this place. -/
  | expected (what : String)
  /-- The parts of the statement lie too deep inside one another. -/
  | tooDeep
deriving DecidableEq, Repr

def SyntaxError.message : SyntaxError → String
  | malformed what => what
  | expected what => "Expected: " ++ what
  | tooDeep => "recursion limit exceeded"

/-- The forms of a text in quotes. -/
inductive TextForm where
  | single
  | double
  /-- With backslash escapes, as in `E'\n'`. -/
  | escaped
  /-- With code point escapes, as in `U&'\00E9'`. -/
  | unicode
  | national
  | hexadecimal
  | bytes
  | raw
  | triple
  | dollar
deriving DecidableEq, Repr

/-- A word.  `key` is the word in capitals, empty for a quoted word: only a plain word can be a
keyword. -/
structure Word where
  value : Text
  quote : Option Char
  key : String
deriving DecidableEq, Repr

/-- A unit of a statement. -/
inductive Symbol where
  | word (w : Word)
  | number (digits : Text) (long : Bool)
  | quoted (form : TextForm) (value : Text)
  /-- A place for a value: `?`, `$1`. -/
  | placeholder (text : Text)
  /-- Punctuation and operators, by their spelling. -/
  | mark (spelling : String)
  /-- An operator of the user's own making. -/
  | custom (op : Text)
  /-- A character that means nothing. -/
  | stray (c : Char)
deriving DecidableEq, Repr

/-- The keyword that a symbol may stand for, in capitals; empty for any other symbol. -/
def Symbol.key : Symbol → String
  | word w => w.key
  | _ => ""

/-- A symbol, and whether it follows the one before it without white space or comments. -/
structure Placed where
  symbol : Symbol
  joined : Bool
deriving DecidableEq, Repr

/-- The capital form of a character of a keyword.  A few characters beyond ASCII have capitals
in ASCII; the capitals of all others are no part of any keyword. -/
def capital (c : Char) : List Char :=
  if c.toNat < 128 then [c.toUpper]
  else if c.toNat = 0xDF then ['S', 'S']
  else if c.toNat = 0x131 then ['I']
  else if c.toNat = 0x17F then ['S']
  else if c.toNat = 0xFB00 then ['F', 'F']
  else if c.toNat = 0xFB01 then ['F', 'I']
  else if c.toNat = 0xFB02 then ['F', 'L']
  else if c.toNat = 0xFB03 then ['F', 'F', 'I']
  else if c.toNat = 0xFB04 then ['F', 'F', 'L']
  else if c.toNat = 0xFB05 || c.toNat = 0xFB06 then ['S', 'T']
  else [c]

def Word.plain (value : Text) : Word :=
  ⟨value, none, String.ofList (value.flatMap capital)⟩

def Word.quoted (quote : Char) (value : Text) : Word :=
  ⟨value, some quote, ""⟩

end SqlFragments
