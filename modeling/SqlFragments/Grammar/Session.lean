import SqlFragments.Grammar.Property

/-!
# Sessions

The commands on transactions and on the settings of a session.  They are read to check them;
nothing of them is kept.  Each command stands behind the word that it starts with.

* `Reader.transactionModes`, `Reader.chainClause`, `Reader.rollbackForm`: transactions
* `Reader.setForm`, `Reader.showForm`, `Reader.useForm`: settings and listings
* `Reader.notifyForm`, `Reader.pragmaForm`, `Reader.discardForm`: other commands
-/

namespace SqlFragments

namespace Reader

variable (d : Dialect) (g : Nested)

/-! ## Transactions -/

def transactionMode : Reader Bool := do
  if ← acceptKeys ["ISOLATION", "LEVEL"] then
    unless ← acceptKeys ["READ", "UNCOMMITTED"] do
      unless ← acceptKeys ["READ", "COMMITTED"] do
        unless ← acceptKeys ["REPEATABLE", "READ"] do expectKey "SERIALIZABLE"
    return true
  else if ← acceptKeys ["READ", "ONLY"] then return true
  else acceptKeys ["READ", "WRITE"]

/-- The properties of a transaction, with or without commas; behind a comma one is `required`. -/
def transactionModesFrom (required : Bool) : Nat → Reader Unit
  | 0 => return
  | fuel + 1 => do
    if ← transactionMode then transactionModesFrom (← accept ",") fuel
    else if required then expected "transaction mode"

def transactionModes : Reader Unit := do
  transactionModesFrom false ((← remaining) + 1)

def beginForm : Reader Unit := do
  if d == .ansi then discard (acceptOneOf ["DEFERRED", "IMMEDIATE", "EXCLUSIVE"])
  discard (acceptOneOf ["TRANSACTION", "WORK"])
  transactionModes

/-- What follows the end of a transaction, if that is said. -/
def chainClause : Reader Unit := do
  discard (acceptOneOf ["TRANSACTION", "WORK"])
  if ← acceptKey "AND" then
    discard (acceptKey "NO")
    expectKey "CHAIN"

/-- The end of a transaction that undoes it, wholly or back to a mark. -/
def rollbackForm : Reader Unit := do
  chainClause
  if ← acceptKey "TO" then
    discard (acceptKey "SAVEPOINT")
    discard name

/-! ## Settings -/

def settingValue : Reader Unit := do
  if ← seesQuery then discard g.query else discard (expr g)

/-- The role of a session, behind the word for its scope. -/
def roleForm : Reader Unit := do
  expectKey "ROLE"
  unless ← acceptKey "NONE" do discard name

/-- The characters that a session uses, behind `names`. -/
def namesForm : Reader Unit := do
  unless ← acceptKey "DEFAULT" do
    discard (literalText d)
    discard (afterKey "COLLATE" (literalText d))

/-- What follows the name of a setting, if it is neither an equals sign nor `to`.  A few names have
forms of their own; those of transactions must be written in capitals. -/
def specialSetting (ranged : Bool) (setting : List Name) : Reader Unit := do
  let plain := match setting with
    | [n] => if n.quote.isNone then String.ofList n.value else ""
    | _ => ""
  if plain.toUpper == "TIMEZONE" then discard (expr g)
  else if plain == "CHARACTERISTICS" then
    expectKeys ["AS", "TRANSACTION"]
    transactionModes
  else if plain == "TRANSACTION" && !ranged then
    if ← acceptKey "SNAPSHOT" then constant d else transactionModes
  else expected "equals sign or TO"

/-- A new value of the one setting with a name, or of several settings between parentheses. -/
def variableForm (ranged : Bool) : Reader Unit := do
  let assigns : Reader Bool := do
    if ← accept "=" then return true else acceptKey "TO"
  if ← acceptKeys ["TIME", "ZONE"] then
    if ← assigns then discard (sepBy (settingValue g)) else discard (expr g)
  else if d != .postgres && (← seesMark "(") then
    discard names
    unless ← assigns do expected "equals sign or TO"
    discard (parens (sepBy (settingValue g)))
  else
    let setting ← path d
    let isNames := match setting with
      | [n] => n.quote.isNone && (String.ofList n.value).toUpper == "NAMES"
      | _ => false
    if d == .ansi && isNames then namesForm d
    else if ← assigns then discard (sepBy (settingValue g))
    else specialSetting d g ranged setting

def setForm : Reader Unit := do
  let scope ← acceptOneOf ["SESSION", "LOCAL", "HIVEVAR"]
  if scope == some "HIVEVAR" then
    expect ":"
    variableForm d g true
  else if (← attempt roleForm).isNone then variableForm d g scope.isSome

/-! ## Listings -/

/-- What the entries of a listing are chosen by, if that is said. -/
def showFilter : Reader Bool := do
  if (← acceptOneOf ["LIKE", "ILIKE"]).isSome then discard (literalText d); return true
  else if ← acceptKey "WHERE" then discard (expr g); return true
  else return (← attempt (literalText d)).isSome

/-- Where the entries of a listing lie, if that is said. -/
def showPlace : Reader Unit := do
  if (← acceptOneOf ["FROM", "IN"]).isSome then
    match ← acceptOneOf ["ACCOUNT", "DATABASE", "SCHEMA", "TABLE", "VIEW"] with
    | some kind =>
      let ahead := (← keyAt 0, ← keyAt 1)
      let nameless := ahead == ("STARTS", "WITH") || ahead.1 == "LIMIT"
      unless (kind == "DATABASE" || kind == "SCHEMA") && nameless do
        discard (attempt (path d))
    | none =>
      discard (path d)
      if (← acceptOneOf ["FROM", "IN"]).isSome then discard name

def showClauses : Reader Unit := do
  if d == .snowflake then
    discard (showFilter d g)
    showPlace d
  else
    showPlace d
    discard (showFilter d g)
  discard (afterKeys ["STARTS", "WITH"] (constant d))
  if ← acceptKey "LIMIT" then
    unless ← acceptKey "ALL" do discard (expr g)
  discard (afterKey "FROM" (constant d))

/-- A listing of tables and the like, or the value of a setting, whose name is all that follows up
to an equals sign. -/
def showForm : Reader Unit := do
  discard (acceptKey "TERSE")
  let extended ← acceptKey "EXTENDED"
  let full ← acceptKey "FULL"
  discard (acceptKey "SESSION")
  discard (acceptKey "GLOBAL")
  let outside ← acceptKey "EXTERNAL"
  if (← acceptOneOf ["COLUMNS", "FIELDS", "VIEWS"]).isSome then showClauses d g
  else if ← acceptKeys ["MATERIALIZED", "VIEWS"] then showClauses d g
  else if ← acceptKey "TABLES" then
    unless outside do discard (acceptKey "HISTORY")
    showClauses d g
  else if ← acceptKey "FUNCTIONS" then discard (showFilter d g)
  else if extended || full then expected "columns or tables"
  else if ← acceptKey "CREATE" then
    discard (expectOneOf ["TABLE", "TRIGGER", "FUNCTION", "PROCEDURE", "EVENT", "VIEW"])
    discard (path d)
  else if ← acceptKey "COLLATION" then discard (showFilter d g)
  else if (← acceptKey "VARIABLES") && d == .ansi then discard (showFilter d g)
  else if (← acceptKey "STATUS") && d == .ansi then discard (showFilter d g)
  else if (← acceptOneOf ["DATABASES", "SCHEMAS"]).isSome then
    discard (acceptKey "HISTORY")
    showClauses d g
  else modify fun s => s.dropWhile fun p => p.symbol != .mark "="

/-! ## Other commands -/

/-- The database, schema or role that is used from now on. -/
def useForm : Reader Unit := do
  let kind ←
    if d == .snowflake then
      acceptOneOf ["DATABASE", "SCHEMA", "WAREHOUSE", "ROLE", "SECONDARY"]
    else pure none
  if kind == some "SECONDARY" then
    discard (expectOneOf ["ROLES", "ROLE"])
    unless (← acceptOneOf ["NONE", "ALL"]).isSome do discard (sepBy name)
  else discard (path d)

/-- A message to those who listen, with or without a text. -/
def notifyForm : Reader Unit := do
  discard name
  if ← accept "," then discard (literalText d)

def pragmaValue : Reader Unit := do
  if (← constantKind d) == .other then expected "number or string or ? placeholder"

/-- A setting of the engine, possibly with a new value. -/
def pragmaForm : Reader Unit := do
  discard (path d)
  if ← seesMark "(" then parens (pragmaValue d)
  else if ← accept "=" then pragmaValue d

/-- What a session forgets. -/
def discardForm : Reader Unit :=
  discard (expectOneOf ["ALL", "PLANS", "SEQUENCES", "TEMP", "TEMPORARY"])

end Reader

end SqlFragments
