import SqlFragments.Grammar.Change

/-!
# Definitions of tables

A new table has columns and constraints between parentheses, and a long row of clauses behind
them.  The clauses stand in a fixed order, but in Snowflake in any order.

* `Reader.tableConstraint`: a constraint on a whole table
* `Reader.tableElements`: the columns and constraints of a table
* `Reader.storageClauses`: how the rows of a table are kept in files
* `Reader.createTable`, `Reader.createSnowflakeTable`, `Reader.createExternalTable`: new tables
-/

namespace SqlFragments

namespace Reader

variable (d : Dialect) (g : Nested)

/-! ## Constraints and columns -/

/-- How an index is kept, if that is said. -/
def indexMethod : Reader Bool := do
  return (← afterKey "USING" (expectOneOf ["BTREE", "HASH"])).isSome

def indexOptions : Reader Unit :=
  discard <| whileSome do
    if ← indexMethod then return some ()
    else if ← acceptKey "COMMENT" then
      discard (literalText d)
      return some ()
    else return none

/-- The name of an index, if it is given.  Any word before the columns is taken for it. -/
def optionalName : Reader Unit :=
  discard (attempt name)

/-- Whether nulls are told apart, if that is said. -/
def nullsDistinct : Reader Unit := do
  if ← acceptKey "NULLS" then
    discard (acceptKey "NOT")
    expectKey "DISTINCT"

/-- The columns of a constraint that an index upholds. -/
def indexedColumns : Reader Unit := do
  optionalName
  discard indexMethod
  discard names
  indexOptions d
  constraintTiming

/-- The columns that refer to another table, behind `foreign`. -/
def foreignKey : Reader Unit := do
  expectKey "KEY"
  discard names
  expectKey "REFERENCES"
  discard (path d)
  discard names
  referenceActions
  constraintTiming

/-- A constraint on a whole table, if one comes next. -/
def tableConstraint : Reader Bool := do
  let named := (← afterKey "CONSTRAINT" name).isSome
  let wide := d == .ansi
  match ← keyAt 0 with
  | "UNIQUE" =>
    skip 1
    if (← acceptOneOf ["KEY", "INDEX"]).isSome && !wide then expected "an index name or columns"
    nullsDistinct
    indexedColumns d
    return true
  | "PRIMARY" =>
    skip 1
    expectKey "KEY"
    indexedColumns d
    return true
  | "FOREIGN" =>
    skip 1
    foreignKey d
    return true
  | "CHECK" =>
    skip 1
    discard (parens (expr g))
    return true
  | key =>
    if wide && !named && (key == "INDEX" || key == "KEY") then
      skip 1
      unless ← seesKey ["USING"] do optionalName
      discard indexMethod
      discard names
      return true
    else if wide && !named && (key == "FULLTEXT" || key == "SPATIAL") then
      skip 1
      discard (acceptOneOf ["KEY", "INDEX"])
      optionalName
      discard names
      return true
    else if named then expected "PRIMARY, UNIQUE, FOREIGN, or CHECK"
    else return false

/-- A part of a table: a constraint or a column; whether it is a column.  The name of a column is a
word here. -/
def tableElement : Reader Bool := do
  if ← tableConstraint d g then return false
  else
    match ← peek with
    | some (.word _) => columnDefinition d g; return true
    | _ => expected "column name or constraint definition"

/-- The parts of a table between parentheses, if they are given; whether a column is among them. -/
def tableElements : Reader Bool := do
  if ← acceptMarks ["(", ")"] then return false
  else if ← seesMark "(" then return (← parens (sepBy (tableElement d g))).any id
  else return false

/-! ## Files -/

/-- How the values of a row are set apart, as long as that is said.  A word that starts such a
phrase but does not go on with it ends them. -/
def rowDelimiters : Nat → Reader Unit
  | 0 => return
  | fuel + 1 => do
    let phrase : Option (List String) := match ← keyAt 0 with
      | "FIELDS" | "LINES" => some ["TERMINATED", "BY"]
      | "COLLECTION" => some ["ITEMS", "TERMINATED", "BY"]
      | "MAP" => some ["KEYS", "TERMINATED", "BY"]
      | "NULL" => some ["DEFINED", "AS"]
      | _ => none
    if let some phrase := phrase then
      let isField ← acceptKey "FIELDS"
      unless isField do skip 1
      if ← acceptKeys phrase then
        discard name
        if isField then discard (afterKeys ["ESCAPED", "BY"] name)
        rowDelimiters fuel

/-- The form of a row in a file, behind `row`. -/
def rowFormat : Reader Unit := do
  expectKey "FORMAT"
  match ← acceptOneOf ["SERDE", "DELIMITED"] with
  | some "SERDE" => discard (literalText d)
  | _ => rowDelimiters ((← remaining) + 1)

/-- The format of the files of a table, behind `stored`. -/
def storedForm : Reader Unit := do
  expectKey "AS"
  if ← acceptKey "INPUTFORMAT" then
    discard (expr g)
    expectKey "OUTPUTFORMAT"
    discard (expr g)
  else fileFormat

/-- How the rows of a table are kept in files, if that is said. -/
def storageClauses : Reader Unit :=
  discard <| whileSome do
    if ← acceptKey "ROW" then rowFormat d; return some ()
    else if ← acceptKey "STORED" then storedForm g; return some ()
    else if ← acceptKey "LOCATION" then discard (literalText d); return some ()
    else if ← settingListAfter d g ["WITH", "SERDEPROPERTIES"] then return some ()
    else return none

/-- The columns that part a table, if they are given. -/
def partColumns : Reader Unit :=
  discard <| afterKeys ["PARTITIONED", "BY"] (parens (discard (sepBy (columnDefinition d g))))

/-- The buckets that the rows of a table go to, if they are given. -/
def buckets : Reader Unit := do
  if d == .ansi then
    discard <| afterKeys ["CLUSTERED", "BY"] do
      discard names
      discard (afterKeys ["SORTED", "BY"] (parens (orderEntries d g)))
      expectKey "INTO"
      amount d
      expectKey "BUCKETS"

/-! ## Clauses of a table -/

/-- A word that is a value of its own. -/
def wordValue : Reader Unit := do
  match ← next with
  | some (.word _) => return
  | _ => expected "identifier"

/-- The engine that keeps a table, if it is given. -/
def engineClause : Reader Unit := do
  if ← acceptKey "ENGINE" then
    expect "="
    wordValue
    discard optionalNames

/-- The number that rows are counted from, if it is given. -/
def countFrom : Reader Unit := do
  if ← acceptKey "AUTO_INCREMENT" then
    discard (accept "=")
    smallNatural

/-- The ordering in which a table keeps its rows, if it is given. -/
def keptOrder : Reader Unit := do
  if ← acceptKeys ["ORDER", "BY"] then
    if ← seesMark "(" then discard (parens (sepByOr (expr g) ")")) else discard (expr g)

/-- How the rows of a table are laid out, if that is said. -/
def layoutClauses : Reader Unit := do
  if d == .bigQuery || d == .postgres || d == .ansi then
    discard (afterKeys ["PARTITION", "BY"] (expr g))
  if d == .bigQuery || d == .ansi then
    discard (afterKeys ["CLUSTER", "BY"] (sepBy name))
    discard (settingListAfter d g ["OPTIONS"])

/-- The characters of a table and their ordering, if they are given. -/
def characterClauses : Reader Unit := do
  discard (afterKeys ["DEFAULT", "CHARSET"] (do expect "="; wordValue))
  discard (afterKey "COLLATE" (do expect "="; wordValue))

/-- What becomes of the rows at the end of a transaction, behind `on commit`. -/
def commitAction : Reader Unit := do
  unless ← acceptKeys ["DELETE", "ROWS"] do
    unless ← acceptKeys ["PRESERVE", "ROWS"] do expectKey "DROP"

/-- A remark on a table, behind the keyword. -/
def remark : Reader Unit := do
  discard (accept "=")
  quotedText "comment"

/-! ## New tables -/

def createTable : Reader Unit := do
  discard ifAbsent
  discard (tableName d)
  onCluster
  if (← acceptOneOf ["LIKE", "ILIKE"]).isSome then discard (anyTableName d)
  discard (afterKey "CLONE" (anyTableName d))
  discard (tableElements d g)
  discard (acceptKeys ["WITHOUT", "ROWID"])
  partColumns d g
  buckets d g
  storageClauses d g
  discard (settingListAfter d g ["WITH"])
  discard (settingListAfter d g ["TBLPROPERTIES"])
  engineClause
  countFrom
  if d == .ansi then discard (afterKeys ["PRIMARY", "KEY"] (expr g))
  keptOrder g
  layoutClauses d g
  characterClauses
  discard (afterKeys ["ON", "COMMIT"] commitAction)
  discard (acceptKey "STRICT")
  discard (afterKey "COMMENT" remark)
  discard (afterKey "AS" g.query)

/-- A table whose rows are in files of others, behind `external`. -/
def createExternalTable : Reader Unit := do
  expectKey "TABLE"
  discard ifAbsent
  discard (path d)
  discard (tableElements d g)
  partColumns d g
  storageClauses d g
  discard (settingListAfter d g ["TBLPROPERTIES"])

/-- A setting that is on or off, behind its name. -/
def switchValue : Reader Unit := do
  expect "="
  discard (expectOneOf ["TRUE", "FALSE"])

/-- A clause of a table of Snowflake, behind the word that it starts with. -/
def snowflakeClause (key : String) : Reader Unit := do
  match key with
  | "COPY" => expectKey "GRANTS"
  | "COMMENT" => remark
  | "CLUSTER" =>
    expectKey "BY"
    discard names
  | "ENABLE_SCHEMA_EVOLUTION" | "CHANGE_TRACKING" => switchValue
  | "DATA_RETENTION_TIME_IN_DAYS" | "MAX_DATA_EXTENSION_TIME_IN_DAYS" => expect "="; natural
  | "DEFAULT_DDL_COLLATION" =>
    expect "="
    discard (literalText d)
  | "WITH" =>
    unless ← seesKey ["AGGREGATION", "TAG", "ROW"] do expected "AGGREGATION or TAG or ROW"
  | "AGGREGATION" =>
    expectKey "POLICY"
    discard (path d)
  | "ROW" =>
    expectKeys ["ACCESS", "POLICY"]
    discard (path d)
    expectKey "ON"
    discard names
  | "TAG" => discard (parens (sepBy (tag d)))
  | "ON" =>
    expectKey "COMMIT"
    commitAction
  | _ => expected "end of statement"

/-- The clauses of a table of Snowflake.  They may follow one another in any order, but a query or
another table to take the columns from ends them; without either there must be `columns`. -/
def snowflakeClauses (columns : Bool) : Nat → Reader Unit
  | 0 => return
  | fuel + 1 => do
    let ended := (← peek).isNone || (← seesMark ";")
    if ended then
      unless columns do expected "more input"
    else if ← seesMark "(" then
      let hasColumns ← tableElements d g
      snowflakeClauses hasColumns fuel
    else
      match ← keyAt 0 with
      | "AS" => skip 1; discard g.query
      | "CLONE" | "LIKE" => skip 1; discard (anyPath d)
      | key =>
        skip 1
        snowflakeClause d key
        snowflakeClauses columns fuel

def createSnowflakeTable : Reader Unit := do
  discard ifAbsent
  discard (path d)
  snowflakeClauses d g false ((← remaining) + 1)

end Reader

end SqlFragments
