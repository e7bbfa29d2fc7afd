import SqlFragments.Text.Fold
import SqlFragments.Text.Quoted

/-!
# Keyword case

SQL is written with its keywords in lower case.  A fixed set of words is lower-cased wherever
they stand as whole words outside quoted runs; two words that form one keyword are also brought
to one space apart.  Operators such as `IN`, `LIKE` or `IS NULL` keep the case they came in.

* `caseWords`, `casePairs`: the words and the pairs of words that are lower-cased
* `lowerRuns`: the rule on the runs of a plain stretch
* `lowerKeywords`: the rule on a text
-/

namespace SqlFragments

/-- Words that are lower-cased on their own. -/
def caseWords : List Text :=
  ["select", "distinct", "from", "where", "having", "and", "or", "not", "asc", "desc", "limit",
   "offset", "as", "join", "on", "union", "with", "case", "when", "then", "else",
   "end"].map String.toList

/-- Words that form one keyword together. -/
def casePairs : List (Text × Text) :=
  [("nulls", "first"), ("nulls", "last"), ("order", "by"), ("group", "by"), ("left", "join"),
   ("inner", "join")].map fun p => (p.1.toList, p.2.toList)

/-- A word in lower case if it is a keyword, unchanged if not. -/
def lowerWord (word : Text) : Text :=
  if caseWords.contains word.folded then word.toAsciiLower else word

/-- Whether two words with a gap between them are one keyword. -/
def isCasePair (first gap second : Text) : Bool :=
  gap.isBlank && casePairs.contains (first.folded, second.folded)

/-- The runs of a plain stretch as text, keywords in lower case.  Pairs go before single
words. -/
def lowerRuns : List Run → Text
  | [] => []
  | .gap text :: rest => text ++ lowerRuns rest
  | .word a :: .gap g :: .word b :: rest =>
    if isCasePair a g b then a.toAsciiLower ++ ' ' :: b.toAsciiLower ++ lowerRuns rest
    else lowerWord a ++ g ++ lowerRuns (.word b :: rest)
  | .word a :: rest => lowerWord a ++ lowerRuns rest

/-- A piece with its keywords in lower case; a quoted run stays as it is. -/
def lowerPiece : Piece → Text
  | .plain text => lowerRuns (runs text)
  | .quoted text => text

/-- A text with its keywords in lower case. -/
def lowerKeywords (s : Text) : Text :=
  (pieces s).flatMap lowerPiece

end SqlFragments
