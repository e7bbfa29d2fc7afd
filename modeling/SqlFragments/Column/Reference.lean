import SqlFragments.Text.Digit
import SqlFragments.Token.Lexer

/-!
# Column references

A column reference is a chain of identifiers joined by dots, each plain or in quotes, such as
`name`, `t.name` or `"ax"."first_name"`.  Function calls, arithmetic, wildcards and malformed
chains are no column references.

* `unquote`: a text without the quotes around it
* `splitSegments`: a text cut at the dots outside quotes
* `ColumnRef`, `ColumnRef.parse`: a reference as qualifier and column
* `unqualify`, `columnName`: the last segment, with and without its quotes
-/

namespace SqlFragments

/-! ## Quotes -/

/-- The inside of a text that starts and ends with the quote `q`. -/
def unwrap (q : Char) : Text → Option Text
  | c :: rest => if c = q && rest.getLast? == some q then some rest.dropLast else none
  | [] => none

/-- A text without one pair of double quotes or backticks around it; any other text is its own
result. -/
def unquote (s : Text) : Text :=
  match unwrap '"' s with
  | some inner => inner
  | none =>
    match unwrap '\x60' s with
    | some inner => inner
    | none => s

/-- Whether every quote `q` in a text is written twice. -/
def quotesDoubled (q : Char) : Text → Bool
  | [] => true
  | [c] => c != q
  | c :: d :: rest => if c = q then d == q && quotesDoubled q rest else quotesDoubled q (d :: rest)

/-- Whether a text is something in quotes, with the quotes inside written twice. -/
def isQuotedName (q : Char) (s : Text) : Bool :=
  match unwrap q s with
  | some inner => !inner.isEmpty && quotesDoubled q inner
  | none => false

/-- Whether a text is a plain identifier. -/
def isPlainName : Text → Bool
  | [] => false
  | c :: rest => startsIdentifier c && rest.all continuesIdentifier

/-- Whether a text is one identifier, plain or quoted. -/
def isSegment (s : Text) : Bool :=
  isQuotedName '"' s || isQuotedName '\x60' s || isPlainName s

/-! ## Segments -/

/-- One more character in front of the first of some segments. -/
def consSegment (c : Char) : List Text → List Text
  | [] => [[c]]
  | s :: rest => (c :: s) :: rest

/-- A text cut at its dots, where a quote `q` is open or none is.  There is no result if a
quote stays open. -/
def splitSegmentsFrom : Option Char → Text → Option (List Text)
  | none, [] => some [[]]
  | some _, [] => none
  | none, c :: rest =>
    if isIdentifierQuote c then (splitSegmentsFrom (some c) rest).map (consSegment c)
    else if c = '.' then (splitSegmentsFrom none rest).map ([] :: ·)
    else (splitSegmentsFrom none rest).map (consSegment c)
  | some q, c :: rest =>
    (splitSegmentsFrom (if c = q then none else some q) rest).map (consSegment c)

/-- A text cut at the dots outside quotes. -/
def splitSegments (s : Text) : Option (List Text) :=
  splitSegmentsFrom none s

/-! ## References -/

/-- A column reference.  The qualifier is all but the last segment, dots included; both parts
keep their quotes. -/
structure ColumnRef where
  qualifier : Option Text
  column : Text
deriving DecidableEq, Repr

def ColumnRef.isQualified (r : ColumnRef) : Bool :=
  r.qualifier.isSome

def ColumnRef.ofSegments (segments : List Text) : Option ColumnRef :=
  match segments.getLast? with
  | none => none
  | some column =>
    some ⟨if segments.length = 1 then none else some (Text.join ['.'] segments.dropLast), column⟩

/-- The reference that a text is, white space around it aside. -/
def ColumnRef.parse (s : Text) : Option ColumnRef :=
  match splitSegments s.trim with
  | some segments => if segments.all isSegment then ColumnRef.ofSegments segments else none
  | none => none

def isQualifiedColumn (s : Text) : Bool :=
  (ColumnRef.parse s).any ColumnRef.isQualified

/-- The qualifier of a text that is a reference with one. -/
def qualifierOf (s : Text) : Option Text :=
  (ColumnRef.parse s).bind ColumnRef.qualifier

/-- The column of a qualified reference; any other text stays as it is. -/
def unqualify (s : Text) : Text :=
  match ColumnRef.parse s with
  | some r => if r.isQualified then r.column else s
  | none => s

def afterLastDot (s : Text) : Text :=
  (s.reverse.takeWhile (· != '.')).reverse

/-- The bare name of a column: its last segment without quotes and without white space around
it.  A text with an open quote is cut at its last dot. -/
def columnName (s : Text) : Text :=
  match (splitSegments s).bind List.getLast? with
  | some segment => unquote segment.trim
  | none => unquote (Text.trim (afterLastDot s))

end SqlFragments
