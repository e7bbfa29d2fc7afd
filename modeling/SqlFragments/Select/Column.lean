import SqlFragments.Column.Reference
import SqlFragments.KeywordCase
import SqlFragments.Order.Item

/-!
# Output columns

An output column is an expression with, possibly, the alias of the table it is read from and an
alias of its own.  An alias written into the expression wins over both.

* `splitAlias`: an expression cut at its last `as` outside parentheses
* `OutputColumn`, `OutputColumn.toText`: an output column and its SQL
-/

namespace SqlFragments

/-- The text of some lexemes. -/
def sourceText (ls : List Lexeme) : Text :=
  ls.flatMap fun l => l.blank ++ l.source

/-- Lexemes cut at the last `as` outside parentheses, `depth` of which are open: the text before
it and the text behind it. -/
def cutLastAs (trailing : Text) (depth : Nat) : List Lexeme → Option (Text × Text)
  | [] => none
  | l :: rest =>
    match cutLastAs trailing (depthAfter depth l.token) rest with
    | some (head, tail) => some (l.blank ++ l.source ++ head, tail)
    | none =>
      if depth = 0 ∧ l.token.isKeyword "as".toList then
        some (l.blank, sourceText rest ++ trailing)
      else none

/-- An expression and the alias written into it.  There is none if either side of the `as` is
blank. -/
def splitAlias (expression : Text) : Option (Text × Text) :=
  match cutLastAs (scan expression).trailing 0 (scan expression).lexemes with
  | none => none
  | some (head, tail) =>
    if head.trim.isEmpty || tail.trim.isEmpty then none else some (head.trim, tail.trim)

/-- A text that may be left out: a blank one is. -/
def nonBlank (s : Text) : Option Text :=
  if s.trim.isEmpty then none else some s.trim

/-- A column of the output. -/
structure OutputColumn where
  expression : Text
  source : Option Text
  name : Option Text
deriving DecidableEq, Repr

/-- The table alias in front of a bare column; any other expression stays as it is. -/
def qualify (source : Option Text) (expression sql : Text) : Text :=
  match source, ColumnRef.parse expression with
  | some aliasName, some r => if r.isQualified then sql else aliasName ++ '.' :: sql
  | _, _ => sql

def OutputColumn.toText (c : OutputColumn) : Text :=
  let expression := c.expression.trim
  match splitAlias expression with
  | some (head, aliasName) => lowerKeywords head ++ " as ".toList ++ aliasName
  | none =>
    let sql := qualify c.source expression (lowerKeywords expression)
    match c.name with
    | some name => sql ++ " as ".toList ++ name
    | none => sql

end SqlFragments
