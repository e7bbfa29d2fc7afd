import SqlFragments.Text.Basic

/-!
# Tokens

The units that conditions, column lists and orderings are made of: literals, dotted
identifiers, function names, keywords, numbers, parameters and punctuation.  White space is no
token.

* `Token`: the kinds of tokens, each with the text it was read from
* `Token.text`: the text of a token
* `isKeyword`: the closed set of words that are never column references
-/

namespace SqlFragments

/-- A unit of an SQL fragment. -/
inductive Token where
  /-- A literal in single quotes, quotes included. -/
  | literal (text : Text)
  /-- A chain of segments joined by dots; each segment keeps its quotes. -/
  | identifier (segments : List Text)
  /-- A name that is followed by an opening parenthesis. -/
  | function (name : Text)
  /-- A word of the keyword set, in the case it was written in. -/
  | keyword (word : Text)
  | number (text : Text)
  /-- A place for a value: `?` or `$1`. -/
  | parameter (text : Text)
  | leftParen
  | rightParen
  | comma
  | operator (text : Text)
  /-- Any other character. -/
  | other (char : Char)
deriving DecidableEq, Repr

def Token.text : Token → Text
  | literal text | function text | keyword text | number text | parameter text
  | operator text => text
  | identifier segments => Text.join ['.'] segments
  | leftParen => ['(']
  | rightParen => [')']
  | comma => [',']
  | other char => [char]

/-- The words that are never column references.  Words such as `first`, `last` or `interval`
are valid column names and not among them. -/
def keywords : List Text :=
  ["and", "as", "asc", "between", "by", "case", "cross", "desc", "distinct", "else", "end",
   "except", "exists", "false", "from", "group", "having", "ilike", "in", "inner", "intersect",
   "is", "join", "like", "limit", "not", "null", "offset", "on", "or", "order", "select",
   "then", "true", "union", "when", "where", "with"].map String.toList

/-- Whether a word is a keyword, in any case of its ASCII letters. -/
def isKeyword (word : Text) : Bool :=
  keywords.contains word.toAsciiLower

/-- Whether a token is the given keyword, in any case. -/
def Token.isKeyword (t : Token) (word : Text) : Bool :=
  match t with
  | keyword text => text.sameLetters word
  | _ => false

end SqlFragments
