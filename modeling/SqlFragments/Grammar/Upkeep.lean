import SqlFragments.Grammar.Property

/-!
# Upkeep

The commands that look after tables, databases and servers.  They are read to check them; nothing
of them is kept.  Each command stands behind the word that it starts with.

* `Reader.analyzeForm`, `Reader.optimizeForm`, `Reader.repairForm`, `Reader.truncateForm`,
  `Reader.commentForm`: tables
* `Reader.cacheForm`, `Reader.uncacheForm`: tables kept at hand
* `Reader.attachForm`, `Reader.detachForm`: databases
* `Reader.killForm`, `Reader.flushForm`: servers
-/

namespace SqlFragments

namespace Reader

variable (d : Dialect) (g : Nested)

/-! ## Tables -/

/-- What is found out about a table, if that is said. -/
def analyzeClause : Reader Bool := do
  match ← acceptOneOf ["PARTITION", "FOR", "CACHE", "NOSCAN", "COMPUTE"] with
  | some "PARTITION" => discard (parens (expressions g)); return true
  | some "FOR" =>
    expectKey "COLUMNS"
    discard (attempt (sepBy name))
    return true
  | some "CACHE" => expectKey "METADATA"; return true
  | some "NOSCAN" => return true
  | some _ => expectKey "STATISTICS"; return true
  | none => return false

/-- Facts about a table gathered. -/
def analyzeForm : Reader Unit := do
  expectKey "TABLE"
  discard (path d)
  discard <| whileSome do
    if ← analyzeClause g then return some ()
    else return none

/-- The files of a table put in order. -/
def optimizeForm : Reader Unit := do
  expectKey "TABLE"
  discard (path d)
  onCluster
  if ← acceptKey "PARTITION" then
    if ← acceptKey "ID" then discard name else discard (expr g)
  discard (acceptKey "FINAL")
  if ← acceptKey "DEDUPLICATE" then discard (afterKey "BY" (expr g))

/-- The partitions of a table brought in line with its files. -/
def repairForm : Reader Unit := do
  discard (acceptKey "REPAIR")
  expectKey "TABLE"
  discard (path d)
  discard <| attempt do
    discard (acceptOneOf ["ADD", "DROP", "SYNC"])
    expectKey "PARTITIONS"

/-- All rows of tables gone at once. -/
def truncateForm : Reader Unit := do
  discard (acceptKey "TABLE")
  discard (acceptKey "ONLY")
  discard (sepBy (path d))
  discard (afterKey "PARTITION" (parens (expressions g)))
  if d == .postgres || d == .ansi then
    unless ← acceptKeys ["RESTART", "IDENTITY"] do discard (acceptKeys ["CONTINUE", "IDENTITY"])
    discard dependentsClause
  onCluster

/-- A remark on a table or another thing. -/
def commentForm : Reader Unit := do
  ifPresent
  expectKey "ON"
  discard (expectOneOf ["COLUMN", "DATABASE", "EXTENSION", "ROLE", "SCHEMA", "TABLE", "USER"])
  discard (path d)
  expectKey "IS"
  unless ← acceptKey "NULL" do discard (literalText d)

/-! ## Tables kept at hand -/

/-- A query that a word comes first in, possibly behind `as`. -/
def cachedQuery : Reader Unit := do
  match ← peek with
  | some (.word _) =>
    discard (acceptKey "AS")
    discard g.query
  | _ => expected "a query"

/-- A table to be kept at hand, with the query that its rows come from.  Only at the end of the
text can the query be left out. -/
def cacheForm : Reader Unit := do
  unless ← acceptKey "TABLE" do
    discard (path d)
    expectKey "TABLE"
  discard (path d)
  if (← remaining) != 0 then
    discard (settingListAfter d g ["OPTIONS"])
    if (← remaining) != 0 then cachedQuery g

/-- A table that need not be kept at hand any more. -/
def uncacheForm : Reader Unit := do
  expectKey "TABLE"
  ifPresent
  discard (path d)

/-! ## Databases -/

def attachForm : Reader Unit := do
  discard (acceptKey "DATABASE")
  discard (expr g)
  expectKey "AS"
  discard name

/-- A database that is let go. -/
def detachForm : Reader Unit := do
  discard (acceptKey "DATABASE")
  ifPresent
  discard name

/-! ## Servers -/

/-- A connection or what runs on it stopped, by its number. -/
def killForm : Reader Unit := do
  let kind ← acceptOneOf ["CONNECTION", "QUERY", "MUTATION"]
  natural
  if kind == some "MUTATION" && d != .ansi then expected "CONNECTION or QUERY"

/-- The tables that are closed, and what is done with them, at most `fuel` words of that.  The
first symbol that is no word is taken and ends them. -/
def flushedTables : Nat → Reader Unit
  | 0 => return
  | fuel + 1 => do
    match ← peek with
    | some (.word w) =>
      if w.isFree then discard (sepBy (path d))
      else
        skip 1
        match w.key with
        | "WITH" => discard (acceptKeys ["READ", "LOCK"])
        | "FOR" => discard (acceptKey "EXPORT")
        | _ => pure ()
      flushedTables fuel
    | _ => skip 1

/-- What a server writes out or forgets. -/
def flushForm : Reader Unit := do
  unless ← acceptKey "NO_WRITE_TO_BINLOG" do discard (acceptKey "LOCAL")
  match ← expectOneOf ["BINARY", "ENGINE", "ERROR", "GENERAL", "HOSTS", "PRIVILEGES",
    "OPTIMIZER_COSTS", "RELAY", "SLOW", "STATUS", "USER_RESOURCES", "LOGS", "TABLES"] with
  | "BINARY" | "ENGINE" | "ERROR" | "GENERAL" | "SLOW" => expectKey "LOGS"
  | "RELAY" =>
    expectKey "LOGS"
    discard (afterKeys ["FOR", "CHANNEL"] (path d))
  | "TABLES" => flushedTables d ((← remaining) + 1)
  | _ => return

end Reader

end SqlFragments
