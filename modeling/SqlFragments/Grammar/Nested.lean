import SqlFragments.Grammar.Reader

/-!
# What may lie inside

Expressions, queries and statements nest in one another.  The readers of the clauses of the
grammar are given the readers of all that may lie inside.

* `Nested`: the readers of the parts that nest
* `Reader.expr`, `Reader.expressions`: an expression, and several of them
* `Reader.statementsWith`: a sequence of statements
-/

namespace SqlFragments

/-- The readers of the parts that nest: an expression whose operators bind more tightly than a
given strength, a query, and a statement.  Each reads one level further in than the reader that
uses it.  Within the relation of a hierarchy, `prior` may stand in front of an operand: `linked`
reads such a relation, and `inRelation` tells whether all this lies in one already. -/
structure Nested where
  expr : Nat → Reader Expr
  query : Reader Query
  statement : Reader Statement
  linked : Reader Expr
  inRelation : Bool

namespace Reader

variable (g : Nested)

/-- Any expression. -/
def expr : Reader Expr :=
  g.expr 0

def expressions : Reader (List Expr) :=
  sepBy (expr g)

def seesQuery : Reader Bool :=
  seesKey ["SELECT", "WITH"]

/-- Statements with semicolons between them, at most `fuel` of them.  A word `end` where a
semicolon should stand ends them. -/
def statementsWith (statement : Reader Statement) : Nat → Reader (List Statement)
  | 0 => expected "the end of the script"
  | fuel + 1 => do
    modify fun s => s.dropWhile fun p => p.symbol == .mark ";"
    if (← peek).isNone then return []
    let first ← statement
    if (← peek).isNone || (← seesKey ["END"]) then return [first]
    else if ← seesMark ";" then return first :: (← statementsWith statement fuel)
    else expected "end of statement"

end Reader

end SqlFragments
