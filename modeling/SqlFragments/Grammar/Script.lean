import SqlFragments.Grammar.Command
import SqlFragments.Grammar.Expression
import SqlFragments.Grammar.Scan

/-!
# Scripts

A script is a sequence of statements with semicolons between them.  Statements, queries and
expressions nest in one another at most fifty levels deep.

* `Reader.statement`: a query or a command
* `Reader.level`: the readers with some number of levels to go
* `Statement.script`: the statements of a text
-/

namespace SqlFragments

namespace Reader

def statement (d : Dialect) (g : Nested) : Reader Statement := do
  if (← seesMark "(") || (← seesKey ["SELECT", "WITH", "VALUES"]) then return .query (← g.query)
  else
    match commandForm d g (intervalValue d g (operand d g)) (← keyAt 0) with
    | some command => skip 1; return .command (← command)
    | none => expected "an SQL statement"

/-- The readers with `n` levels to go; with none to go, each fails. -/
def level (d : Dialect) : Nat → Bool → Nested
  | 0, inRelation =>
    { expr := fun _ => throw .tooDeep
      query := throw .tooDeep
      statement := throw .tooDeep
      linked := throw .tooDeep
      inRelation }
  | n + 1, inRelation =>
    let g := level d n inRelation
    { expr := fun strength s => subexpr d g strength s
      query := fun s => query d g (intervalValue d g (operand d g)) s
      statement := fun s => statement d g s
      linked := fun s => subexpr d (level d n true) 0 s
      inRelation }

/-- The greatest number of levels. -/
def maxDepth : Nat := 50

end Reader

/-- The statements of a text. -/
def Statement.script (d : Dialect) (s : Text) : Except SyntaxError (List Statement) := do
  let symbols ← symbols d s
  let top := (Reader.level d Reader.maxDepth false).statement
  let (statements, _) ← (Reader.statementsWith top (symbols.length + 1)).run symbols
  return statements

end SqlFragments
