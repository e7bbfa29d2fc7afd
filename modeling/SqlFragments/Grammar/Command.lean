import SqlFragments.Grammar.Alteration
import SqlFragments.Grammar.Cursor
import SqlFragments.Grammar.Loading
import SqlFragments.Grammar.Session
import SqlFragments.Grammar.Upkeep

/-!
# Commands

Statements that are no queries.  They are read to check them, and all that is kept is the word
that they start with when they are written out.

* `Reader.commandForm`: what a word starts as a command
-/

namespace SqlFragments

namespace Reader

variable (d : Dialect) (g : Nested) (interval : Reader Expr)

/-- The options of an explanation, between parentheses. -/
def explainOptions : Reader Unit :=
  parens <| discard <| sepBy do
    discard name
    unless (← seesMark ",") || (← seesMark ")") do discard (expr g)

/-- How a statement is explained, if that is said. -/
def explainClauses : Reader Unit := do
  unless ← acceptKeys ["QUERY", "PLAN"] do
    discard (acceptKey "ANALYZE")
    discard (acceptKey "VERBOSE")
    discard (afterKey "FORMAT" (expectOneOf ["TEXT", "GRAPHVIZ", "JSON"]))

/-- An explanation of a statement, or of a table if no statement follows. -/
def explainForm (verb : String) : Reader Unit := do
  let optional := verb == "EXPLAIN" && (d == .postgres || d == .ansi)
  if optional && (← seesMark "(") then explainOptions g else explainClauses
  match ← attempt g.statement with
  | some (.command verb) =>
    if ["EXPLAIN", "DESC", "DESCRIBE"].contains verb then expected "a statement to explain"
  | some (.query _) => return
  | none =>
    discard (acceptOneOf ["EXTENDED", "FORMATTED"])
    if d == .snowflake then discard (acceptKey "TABLE")
    discard (path d)

def callForm : Reader Unit := do
  let callee ← path d
  if ← seesMark "(" then discard (call d g interval callee)

/-- New rows in place of old ones; the result is the word that the command starts with when it is
written out. -/
def replaceForm : Reader String := do
  return if ← insertForm d g then "REPLACE" else "INSERT"

/-- Rows copied, in Snowflake also from a stage. -/
def anyCopyForm : Reader Unit := do
  let staged ← acceptKeyIf (d == .snowflake) "INTO"
  if staged then copyIntoForm d else copyForm d g

/-- What a word starts as a command on rows, tables and the like, behind the word: a reader that
yields the word which the command starts with when it is written out.  Nothing if the word starts
no such command. -/
def dataCommand (key : String) : Option (Reader String) :=
  let verb (r : Reader Unit) : Option (Reader String) := some (do r; return key)
  match key with
  | "INSERT" => verb (discard (insertForm d g))
  | "REPLACE" => if d == .ansi then some (replaceForm d g) else none
  | "UPDATE" => verb (updateForm d g interval)
  | "DELETE" => verb (deleteForm d g interval)
  | "MERGE" => verb (mergeForm d g interval)
  | "CREATE" => verb (createForm d g)
  | "ALTER" => verb (alterForm d g)
  | "DROP" => verb (dropForm d g)
  | "TRUNCATE" => verb (truncateForm d g)
  | "COMMENT" => if d == .bigQuery then none else verb (commentForm d)
  | "COPY" => verb (anyCopyForm d g)
  | "UNLOAD" => some (unloadForm d g)
  | "ANALYZE" => verb (analyzeForm d g)
  | "OPTIMIZE" => if d == .ansi then verb (optimizeForm d g) else none
  | "MSCK" => verb (repairForm d)
  | "CACHE" => verb (cacheForm d g)
  | "UNCACHE" => verb (uncacheForm d)
  | "ATTACH" => verb (attachForm g)
  | "DETACH" => if d == .ansi then verb detachForm else none
  | "GRANT" => verb (grantForm d)
  | "REVOKE" => verb (revokeForm d)
  | _ => none

/-- What a word starts as a command on a session or a server, as `dataCommand` does. -/
def sessionCommand (key : String) : Option (Reader String) :=
  let verb (r : Reader Unit) : Option (Reader String) := some (do r; return key)
  match key with
  | "START" => verb (do expectKey "TRANSACTION"; transactionModes)
  | "BEGIN" => verb (beginForm d)
  | "COMMIT" => verb chainClause
  | "END" => some (do chainClause; return "COMMIT")
  | "ROLLBACK" => verb rollbackForm
  | "SAVEPOINT" => verb (discard name)
  | "RELEASE" => verb (do discard (acceptKey "SAVEPOINT"); discard name)
  | "SET" => verb (setForm d g)
  | "SHOW" => verb (showForm d g)
  | "USE" => verb (useForm d)
  | "PRAGMA" => verb (pragmaForm d)
  | "DISCARD" => verb discardForm
  | "LISTEN" => if d == .postgres then verb (discard name) else none
  | "UNLISTEN" =>
    if d == .postgres then verb (do unless ← accept "*" do discard name) else none
  | "NOTIFY" => if d == .postgres then verb (notifyForm d) else none
  | "LOAD" => if d == .postgres || d == .ansi then verb (discard name) else none
  | "INSTALL" => if d == .ansi then verb (discard name) else none
  | "KILL" => verb (killForm d)
  | "FLUSH" => if d == .ansi then verb (flushForm d) else none
  | _ => none

/-- What a word starts as a command on statements and cursors, as `dataCommand` does. -/
def statementCommand (key : String) : Option (Reader String) :=
  let verb (r : Reader Unit) : Option (Reader String) := some (do r; return key)
  match key with
  | "EXPLAIN" | "DESC" | "DESCRIBE" => verb (explainForm d g key)
  | "CALL" => verb (callForm d g interval)
  | "PREPARE" => verb (prepareForm d g)
  | "EXECUTE" | "EXEC" => some (do executeForm d g; return "EXECUTE")
  | "DEALLOCATE" => verb deallocateForm
  | "DECLARE" => verb (declareForm d g)
  | "FETCH" => verb (fetchCursorForm d)
  | "CLOSE" => verb closeForm
  | "ASSERT" => verb (do discard (expr g); discard (afterKey "AS" (expr g)))
  | _ => none

/-- What a word starts as a command, behind the word: a reader that yields the word which the
command starts with when it is written out.  Nothing if the word starts no command. -/
def commandForm (key : String) : Option (Reader String) :=
  dataCommand d g interval key <|> sessionCommand d g key <|> statementCommand d g interval key

end Reader

end SqlFragments
