import SqlFragments.KeywordCase
import SqlFragments.Token.Lexer

/-!
# Orderings

An ordering is a list of entries `column [asc|desc] [nulls first|nulls last]`, read from text or
given in parts.

* `Direction`, `NullPlace`: the two settings of an entry, and how each is read on its own
* `OrderItem`, `OrderItem.parse`, `OrderItem.toText`: an entry
* `parseOrder`: a whole ordering, with or without `order by`
-/

namespace SqlFragments

/-! ## Settings -/

/-- The direction of a sort; the default is left to the database. -/
inductive Direction where
  | asc
  | desc
  | unspecified
deriving DecidableEq, Repr

/-- The place of nulls in a sort; the default is left to the database. -/
inductive NullPlace where
  | first
  | last
  | unspecified
deriving DecidableEq, Repr

/-- A setting that cannot be read. -/
inductive OrderError where
  | invalidDirection (text : Text)
  | invalidNullPlace (text : Text)
deriving DecidableEq, Repr

def OrderError.message : OrderError → Text
  | invalidDirection text => "Invalid sort direction: ".toList ++ text
  | invalidNullPlace text => "Invalid null ordering: ".toList ++ text

/-- The direction that a text names, in any case of its ASCII letters; a blank text names
none. -/
def Direction.parse (s : Text) : Except OrderError Direction :=
  let word := s.trim.toAsciiLower
  if word = "asc".toList then .ok .asc
  else if word = "desc".toList then .ok .desc
  else if word.isEmpty then .ok .unspecified
  else .error (.invalidDirection word)

/-- The place of nulls that a text names, with or without the word `nulls`; a blank text names
none. -/
def NullPlace.parse (s : Text) : Except OrderError NullPlace :=
  let words := s.words.map Text.toAsciiLower
  if words = ["nulls".toList, "first".toList] || words = ["first".toList] then .ok .first
  else if words = ["nulls".toList, "last".toList] || words = ["last".toList] then .ok .last
  else if words.isEmpty then .ok .unspecified
  else .error (.invalidNullPlace s.trim)

/-! ## Entries -/

/-- One entry of an ordering. -/
structure OrderItem where
  column : Text
  direction : Direction
  nulls : NullPlace
deriving DecidableEq, Repr

/-- The last word of a text and what stands before it, without the white space between them.
There is no result if the word is all of the text. -/
def cutLastWord (s : Text) : Option (Text × Text) :=
  let word := (s.reverse.takeWhile fun c => !isBlank c).reverse
  let before := s.take (s.length - word.length)
  if before.isEmpty then none else some (Text.trimEnd before, word)

/-- The place of nulls at the end of a text, and the text without it. -/
def cutNulls (s : Text) : Text × NullPlace :=
  match cutLastWord s with
  | some (before, place) =>
    match cutLastWord before with
    | some (column, nulls) =>
      if nulls.folded = "nulls".toList then
        if place.toAsciiLower = "first".toList then (column, .first)
        else if place.folded = "first".toList || place.folded = "last".toList then (column, .last)
        else (s, .unspecified)
      else (s, .unspecified)
    | none => (s, .unspecified)
  | none => (s, .unspecified)

/-- The direction at the end of a text, and the text without it. -/
def cutDirection (s : Text) : Text × Direction :=
  match cutLastWord s with
  | some (column, direction) =>
    if direction.toAsciiLower = "asc".toList then (column, .asc)
    else if direction.folded = "asc".toList || direction.folded = "desc".toList then (column, .desc)
    else (s, .unspecified)
  | none => (s, .unspecified)

/-- The entry that a text is; a blank text is none. -/
def OrderItem.parse (segment : Text) : Option OrderItem :=
  let nulls := cutNulls segment.trim
  let direction := cutDirection nulls.1
  if direction.1.isEmpty then none else some ⟨direction.1, direction.2, nulls.2⟩

def Direction.toText : Direction → Text
  | asc => " asc".toList
  | desc => " desc".toList
  | unspecified => []

/-- A place of nulls as it is written behind a direction. -/
def NullPlace.toText : NullPlace → Text
  | first => " nulls first".toList
  | last => " nulls last".toList
  | unspecified => []

def OrderItem.toText (item : OrderItem) : Text :=
  lowerKeywords item.column.trim ++ item.direction.toText ++ item.nulls.toText

/-! ## Lists of entries -/

/-- The number of open parentheses behind a token; a closing parenthesis that none is open for
changes nothing. -/
def depthAfter (depth : Nat) : Token → Nat
  | .leftParen => depth + 1
  | .rightParen => depth - 1
  | _ => depth

/-- A text in front of the first of some parts. -/
def consText (s : Text) : List Text → List Text
  | [] => [s]
  | part :: rest => (s ++ part) :: rest

/-- Lexemes cut at the commas outside parentheses, `depth` of which are open; `trailing` is the
white space behind the last lexeme. -/
def splitLexemes (trailing : Text) (depth : Nat) : List Lexeme → List Text
  | [] => [trailing]
  | l :: rest =>
    if depth = 0 ∧ l.token = .comma then l.blank :: splitLexemes trailing depth rest
    else consText (l.blank ++ l.source) (splitLexemes trailing (depthAfter depth l.token) rest)

/-- A text cut at the commas outside parentheses and quotes. -/
def splitTopLevel (s : Text) : List Text :=
  splitLexemes (scan s).trailing 0 (scan s).lexemes

/-- A text without a leading `order by`. -/
def stripOrderBy (s : Text) : Text :=
  let start := s.trimStart
  let gap := start.dropWhile isWordChar
  let second := gap.dropWhile isBlank
  if Text.folded (start.takeWhile isWordChar) = "order".toList && gap.head?.any isBlank &&
      Text.folded (second.takeWhile isWordChar) = "by".toList then
    second.dropWhile isWordChar
  else s

/-- The entries of an ordering; blank ones are passed over. -/
def parseOrder (s : Text) : List OrderItem :=
  (splitTopLevel (stripOrderBy s)).filterMap OrderItem.parse

end SqlFragments
