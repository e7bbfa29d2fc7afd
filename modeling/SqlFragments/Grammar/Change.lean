import SqlFragments.Grammar.Select

/-!
# Changes of rows

The commands that insert, update, delete and merge rows.  They are read to check them; nothing of
them is kept.  Each reader stands behind the word that the command starts with.

* `Reader.insertForm`, `Reader.updateForm`, `Reader.deleteForm`, `Reader.mergeForm`
-/

namespace SqlFragments

namespace Reader

variable (d : Dialect) (g : Nested) (interval : Reader Expr)

/-! ## Parts of changes -/

/-- What is done on a conflict, if that is said in front of the table; whether it is. -/
def conflictWord : Reader Bool := do
  if (← keyAt 0) == "OR" then
    let known := ["REPLACE", "ROLLBACK", "ABORT", "FAIL", "IGNORE"].contains (← keyAt 1)
    if known then skip 2
    return known
  else acceptKey "REPLACE"

/-- A new value for one or more columns. -/
def assignment : Reader Unit := do
  if ← seesMark "(" then discard (parens (sepBy (path d))) else discard (path d)
  expect "="
  discard (expr g)

def assignments : Reader Unit :=
  discard (sepBy (assignment d g))

/-- The condition on the rows that change, if there is one. -/
def whereClause : Reader Unit :=
  discard (afterKey "WHERE" (expr g))

/-- What comes out of a change, if anything does. -/
def returningClause : Reader Unit :=
  discard (afterKey "RETURNING" (sepBy (outputColumn d g)))

/-- A query behind a list of columns and a partition, if they are given. -/
def insertedRows : Reader Unit := do
  let direct := (← seesMark "(") && (← keyAt 1) == "SELECT"
  unless direct do
    discard optionalNames
    discard (afterKey "PARTITION" (parens (expressions g)))
  discard g.query

/-- What is done with rows that are there already, behind `on`. -/
def onConflict : Reader Unit := do
  if ← acceptKey "CONFLICT" then
    if ← acceptKeys ["ON", "CONSTRAINT"] then discard (path d) else discard optionalNames
    expectKey "DO"
    unless ← acceptKey "NOTHING" do
      expectKeys ["UPDATE", "SET"]
      assignments d g
      whereClause g
  else
    expectKeys ["DUPLICATE", "KEY", "UPDATE"]
    assignments d g

/-! ## The commands -/

def fileFormat : Reader Unit :=
  discard (expectOneOf ["AVRO", "JSONFILE", "ORC", "PARQUET", "RCFILE", "SEQUENCEFILE",
    "TEXTFILE"])

/-- New rows for a directory, behind the keyword. -/
def directoryForm : Reader Unit := do
  discard (literalText d)
  discard (afterKeys ["STORED", "AS"] fileFormat)
  discard g.query

/-- New rows for a table or a directory.  The result tells whether they just go to a table, with
nothing said about conflicts. -/
def insertForm : Reader Bool := do
  let conflict ← conflictWord
  if d == .ansi then
    discard (acceptOneOf ["LOW_PRIORITY", "DELAYED", "HIGH_PRIORITY"])
    discard (acceptKey "IGNORE")
  discard (acceptKey "OVERWRITE")
  discard (acceptKey "INTO")
  discard (acceptKey "LOCAL")
  if ← acceptKey "DIRECTORY" then
    directoryForm d g
    return false
  else
    discard (acceptKey "TABLE")
    discard (path d)
    if d == .postgres then discard (afterKey "AS" name)
    unless ← acceptKeys ["DEFAULT", "VALUES"] do insertedRows g
    if d == .ansi then
      discard <| afterKey "AS" do
        discard (path d)
        optionalNames
    discard (afterKey "ON" (onConflict d g))
    returningClause d g
    return !conflict

def updateForm : Reader Unit := do
  discard conflictWord
  discard (joinedTables d g interval)
  expectKey "SET"
  assignments d g
  discard (afterKey "FROM" (joinedTables d g interval))
  whereClause g
  returningClause d g

def deleteForm : Reader Unit := do
  unless ← acceptKey "FROM" do
    unless d == .bigQuery || d == .ansi do
      discard (sepBy (path d))
      expectKey "FROM"
  discard (tableList d g interval)
  discard (afterKey "USING" (tableList d g interval))
  whereClause g
  returningClause d g
  discard (optionalOrder d g)
  if ← acceptKey "LIMIT" then
    unless ← acceptKey "ALL" do discard (expr g)

/-- The row that a merge inserts, behind `insert`. -/
def mergedRow : Reader Unit := do
  discard optionalNames
  let row ← acceptKeyIf (d == .bigQuery || d == .ansi) "ROW"
  unless row do
    expectKey "VALUES"
    discard (valueRows g)

/-- A part of a merge.  A row is inserted where the table has none for it; all else is done with
rows that are there. -/
def mergeClause : Reader Unit := do
  expectKey "WHEN"
  let absent ← acceptKey "NOT"
  expectKey "MATCHED"
  let bySource ← if absent then acceptKeys ["BY", "SOURCE"] else pure false
  if absent && !bySource then discard (acceptKeys ["BY", "TARGET"])
  discard (afterKey "AND" (expr g))
  expectKey "THEN"
  if absent && !bySource then
    expectKey "INSERT"
    mergedRow d g
  else if ← acceptKey "UPDATE" then
    expectKey "SET"
    assignments d g
  else expectKey "DELETE"

/-- Rows of one table brought into another.  Its parts go on to the end of the statement. -/
def mergeForm : Reader Unit := do
  discard (acceptKey "INTO")
  discard (tableFactor d g interval)
  expectKey "USING"
  discard (tableFactor d g interval)
  expectKey "ON"
  discard (expr g)
  discard <| whileSome do
    if (← peek).isNone || (← seesMark ";") then return none
    else return some (← mergeClause d g)

end Reader

end SqlFragments
