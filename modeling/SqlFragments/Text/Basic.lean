import SqlFragments.Text.CodePoint

/-!
# Text

Fragments of SQL are handled as lists of characters.  This file holds the type, the class of
blank characters (the Unicode property *White_Space*), trimming, words and byte lengths.

* `Text`: a sequence of characters
* `isBlank`: whether a character is white space
* `Text.trim`, `Text.words`: cutting at white space
* `Text.bytes`: the length in UTF-8
-/

namespace SqlFragments

/-- A text is the list of its characters. -/
abbrev Text := List Char

/-- White space above ASCII. -/
def blankRanges : List (Nat × Nat) :=
  [(0x85, 0x85), (0xA0, 0xA0), (0x1680, 0x1680), (0x2000, 0x200A), (0x2028, 0x2029),
   (0x202F, 0x202F), (0x205F, 0x205F), (0x3000, 0x3000)]

/-- Whether a character is white space. -/
def isBlank (c : Char) : Bool :=
  if c.toNat < 128 then c == ' ' || (9 ≤ c.toNat && c.toNat ≤ 13)
  else CodePoint.inRanges blankRanges c

namespace Text

/-! ## Trimming -/

def trimStart (s : Text) : Text :=
  s.dropWhile isBlank

def trimEnd (s : Text) : Text :=
  (s.reverse.dropWhile isBlank).reverse

def trim (s : Text) : Text :=
  trimEnd (trimStart s)

/-- A text is blank when all of it is white space. -/
def isBlank (s : Text) : Bool :=
  s.all SqlFragments.isBlank

/-! ## Words -/

/-- The maximal runs without white space; `word` holds the run being read, last character
first. -/
def wordsFrom (word : Text) : Text → List Text
  | [] => if word.isEmpty then [] else [word.reverse]
  | c :: rest =>
    if SqlFragments.isBlank c then
      if word.isEmpty then wordsFrom [] rest else word.reverse :: wordsFrom [] rest
    else wordsFrom (c :: word) rest

/-- The maximal runs of a text that hold no white space. -/
def words (s : Text) : List Text :=
  wordsFrom [] s

/-- Texts written one after the other with a separator between them. -/
def join (separator : Text) (parts : List Text) : Text :=
  separator.intercalate parts

/-! ## Lengths and ASCII letters -/

/-- The number of bytes of a text in UTF-8. -/
def bytes : Text → Nat
  | [] => 0
  | c :: rest => c.utf8Size + bytes rest

def toAsciiLower (s : Text) : Text :=
  s.map Char.toLower

def toAsciiUpper (s : Text) : Text :=
  s.map Char.toUpper

/-- Whether two texts differ at most in the case of ASCII letters. -/
def sameLetters (a b : Text) : Bool :=
  toAsciiLower a == toAsciiLower b

/-- A text with every occurrence of a pattern replaced, from left to right and without overlap.
An empty pattern occurs nowhere. -/
def replaceAll (s pattern replacement : Text) : Text :=
  match s with
  | [] => []
  | c :: rest =>
    if pattern.isEmpty then s
    else if pattern.isPrefixOf (c :: rest) then
      replacement ++ replaceAll (rest.drop (pattern.length - 1)) pattern replacement
    else c :: replaceAll rest pattern replacement
termination_by s.length

end Text

end SqlFragments
