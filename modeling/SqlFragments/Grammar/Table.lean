import SqlFragments.Grammar.RowPattern

/-!
# Tables

What a query reads from: tables, queries and functions with a name of their own, joined in chains
that parentheses may group.

* `Reader.aliasUnless`: another name, with or without `as`
* `Reader.tableFactor`, `Reader.joinedTables`: one table, and a chain of joined tables
-/

namespace SqlFragments

namespace Reader

variable (d : Dialect) (g : Nested)

/-! ## Names -/

/-- Another name for a table or a column, if there is one.  Without `as` it cannot be one of the
reserved words. -/
def aliasUnless (reserved : List String) : Reader (Option Name) := do
  let marked ← acceptKey "AS"
  match ← peek with
  | some (.word w) =>
    if marked || !reserved.contains w.key then skip 1; return some ⟨w.value, w.quote⟩
    else return none
  | some (.quoted .single value) => skip 1; return some ⟨value, some '\''⟩
  | some (.quoted .double value) => skip 1; return some ⟨value, some '"'⟩
  | _ => if marked then expected "an identifier after AS" else return none

/-- The names of the columns of a table, each with a type if it is given. -/
def columnNames : Reader Unit := do
  if ← seesMark "(" then
    parens <| discard <| sepBy do
      discard name
      discard (attempt (typeName d g))

/-- Another name for a table, if there is one, with the names of its columns. -/
def tableAlias : Reader (Option Name) := do
  match ← aliasUnless reservedAsTableAlias with
  | some a => columnNames d g; return some a
  | none => return none

/-! ## Clauses of a table -/

/-- The rows of `values`, behind the keyword. -/
def valueRows : Reader (List Expr) := do
  let row : Reader (List Expr) := do
    discard (acceptKey "ROW")
    parens (expressions g)
  return (← sepBy row).flatten

/-- Settings with their values, if there are any. -/
def settings : Reader Unit := do
  let present ← acceptKeyIf (d == .ansi) "SETTINGS"
  if present then
    discard <| sepBy do
      discard name
      expect "="
      constant d

/-- The arguments of a function that makes a table, behind the opening parenthesis. -/
def tableArguments : Reader (List Expr) := do
  if ← accept ")" then return []
  let start : Reader Bool := do
    if d == .ansi then seesKey ["SETTINGS"] else return false
  let args ← whileSome do
    if ← start then return none
    else if ← seesMark ")" then return none
    else
      let e ← argument d g
      if ← accept "," then
        if ← seesMark ")" then expected "an argument"
      else unless ← seesMark ")" do expected ")"
      return some e
  settings d
  expect ")"
  return args

/-- A table, and whether it has been given another name. -/
abbrev Factor := Source × Bool

/-- A call, and the name of the column that its values get, if one is given. -/
def aggregate (interval : Reader Expr) : Reader Expr := do
  match ← next with
  | some (.word w) =>
    let e ← call d g interval [⟨w.value, none⟩]
    discard (afterKey "AS" name)
    return e
  | _ => expected "a function identifier"

def pivotValues : Reader Unit := do
  if ← acceptKey "ANY" then discard (optionalOrder d g)
  else if ← seesQuery then discard g.query
  else
    discard <| sepBy do
      discard (expr g)
      discard (afterKey "AS" name)

/-- The columns that the values of a column become, behind `pivot`; whether the table that comes
out has been given another name. -/
def pivotClause (interval : Reader Expr) : Reader Bool := do
  parens do
    discard (sepBy (aggregate d g interval))
    expectKey "FOR"
    discard (path d)
    expectKey "IN"
    parens (pivotValues d g)
    if ← acceptKeys ["DEFAULT", "ON", "NULL"] then discard (parens (expr g))
  return (← tableAlias d g).isSome

/-- The columns that become values of one column, behind `unpivot`; whether the table that comes
out has been given another name. -/
def unpivotClause : Reader Bool := do
  parens do
    discard name
    expectKey "FOR"
    discard name
    expectKey "IN"
    discard names
  return (← tableAlias d g).isSome

/-- A table with all pivots behind it: whether what comes out has been given another name. -/
def pivots (interval : Reader Expr) (named : Bool) : Reader Bool := do
  let turned ← whileSome do
    match ← acceptOneOf ["PIVOT", "UNPIVOT"] with
    | some "PIVOT" => return some (← pivotClause d g interval)
    | some _ => return some (← unpivotClause d g)
    | none => return none
  return turned.getLastD named

/-! ## Tables from documents -/

/-- What a column gets for a value that is missing or wrong, as long as more of this is said. -/
def documentDefault : Reader (Option Unit) := do
  match ← acceptOneOf ["NULL", "ERROR", "DEFAULT"] with
  | none => return none
  | some key =>
    if key == "DEFAULT" then constant d
    expectKey "ON"
    discard (expectOneOf ["EMPTY", "ERROR"])
    return some ()

/-- A column of a table made from a document; columns nest at most `fuel` deep. -/
def documentColumn : Nat → Reader Unit
  | 0 => expected "a column"
  | fuel + 1 => do
    if ← acceptKey "NESTED" then
      discard (acceptKey "PATH")
      constant d
      expectKey "COLUMNS"
      discard (parens (sepBy (documentColumn fuel)))
    else
      discard name
      if ← acceptKey "FOR" then expectKey "ORDINALITY"
      else
        discard (typeName d g)
        discard (acceptKey "EXISTS")
        expectKey "PATH"
        constant d
        discard (whileSome (documentDefault d))

/-- A table made from a document, behind `json_table`. -/
def documentTable : Reader (List Expr) := parens do
  let e ← expr g
  expect ","
  constant d
  expectKey "COLUMNS"
  discard (parens (sepBy (documentColumn d g ((← remaining) + 1))))
  return [e]

/-- A column of the table that `openjson` makes. -/
def openedColumn : Reader Unit := do
  discard name
  discard (typeName d g)
  match ← peek with
  | some (.quoted .single _) => skip 1
  | _ => pure ()
  if ← acceptKey "AS" then expectKey "JSON"

/-- A table made from a document, behind `openjson`. -/
def openedTable : Reader (List Expr) := do
  let e ← parens do
    let e ← expr g
    if ← accept "," then constant d
    return e
  discard (afterKey "WITH" (parens (sepBy (openedColumn d g))))
  return [e]

/-! ## Single tables -/

/-- A table made from expressions, with another name if it is given. -/
def madeTable (args : List Expr) : Reader Factor := do
  return (.made args, (← tableAlias d g).isSome)

/-- A query in parentheses, behind the opening one. -/
def derivedTable : Reader Factor := do
  let q ← g.query
  expect ")"
  return (.rows q, (← tableAlias d g).isSome)

/-- The elements of arrays as a table, behind `unnest`.  A word `with` in front of other words than
`offset` is passed over. -/
def unnestTable : Reader Factor := do
  let args ← parens (expressions g)
  discard (acceptKeys ["WITH", "ORDINALITY"])
  let named ← tableAlias d g
  if ← acceptKey "WITH" then
    discard (afterKey "OFFSET" (aliasUnless reservedAsColumnAlias))
  return (.made args, named.isSome)

/-- A table by its name, or a function that makes one. -/
def namedTable (interval : Reader Expr) : Reader Factor := do
  let n ← tableName d
  if d == .ansi then discard (afterKey "PARTITION" names)
  if d == .bigQuery then
    discard (afterKeys ["FOR", "SYSTEM_TIME", "AS", "OF"] (expr g))
  let args ← if ← accept "(" then some <$> tableArguments d g else pure none
  discard (acceptKeys ["WITH", "ORDINALITY"])
  let named ← tableAlias d g
  if (← seesKey ["WITH"]) && (← peekAt 1) == some (.mark "(") then
    skip 1
    discard (parens (expressions g))
  let named ← pivots d g interval named.isSome
  let source := match args with
    | some args => Source.made args
    | none => Source.table n
  let matched ← acceptKeyIf (d == .snowflake || d == .ansi) "MATCH_RECOGNIZE"
  if matched then
    rowMatching d g
    return (source, (← tableAlias d g).isSome)
  else return (source, named)

/-! ## Joins -/

/-- Whether a table is a chain of joined tables. -/
def isJoined : Source → Bool
  | .joined .. => true
  | _ => false

/-- The words that start a join, behind `global` and `natural`; nothing if no join follows.  The
result tells whether a condition may follow the table. -/
def joinWords : Reader (Option Bool) := do
  let natural ← acceptKey "NATURAL"
  match ← keyAt 0 with
  | "INNER" | "JOIN" =>
    discard (acceptKey "INNER")
    expectKey "JOIN"
    return some (!natural)
  | "LEFT" | "RIGHT" =>
    skip 1
    unless ← acceptKey "JOIN" do
      discard (expectOneOf ["OUTER", "SEMI", "ANTI"])
      expectKey "JOIN"
    return some (!natural)
  | "ANTI" | "SEMI" =>
    skip 1
    expectKey "JOIN"
    return some (!natural)
  | "FULL" =>
    skip 1
    discard (acceptKey "OUTER")
    expectKey "JOIN"
    return some (!natural)
  | "OUTER" => expected "LEFT, RIGHT, or FULL"
  | _ => if natural then expected "a join type after NATURAL" else return none

def joinCondition : Reader (List Expr) := do
  if ← acceptKey "ON" then return [← expr g]
  else if ← acceptKey "USING" then
    discard names
    return []
  else return []

/-- One join with its table and its condition; nothing if no join follows. -/
def joinClause (factor : Reader Factor) : Reader (Option (Source × List Expr)) := do
  discard (acceptKey "GLOBAL")
  if ← acceptKey "CROSS" then
    discard (expectOneOf ["JOIN", "APPLY"])
    return some ((← factor).1, [])
  else if ← acceptKey "OUTER" then
    expectKey "APPLY"
    return some ((← factor).1, [])
  else if ← acceptKey "ASOF" then
    expectKey "JOIN"
    let (table, _) ← factor
    expectKey "MATCH_CONDITION"
    let e ← parens (expr g)
    return some (table, e :: (← joinCondition g))
  else
    match ← joinWords with
    | none => return none
    | some conditional =>
      let (table, _) ← factor
      return some (table, ← if conditional then joinCondition g else pure [])

def joinChain (factor : Reader Factor) : Reader Factor := do
  let (first, named) ← factor
  let joins ← whileSome (joinClause g factor)
  if joins.isEmpty then return (first, named)
  else return (.joined first (joins.map Prod.fst) (joins.map Prod.snd).flatten, false)

/-- What stands in parentheses if it is no query, behind the opening one: joined tables or, in
some dialects, a single table. -/
def groupedTables (factor : Reader Factor) : Reader Factor := do
  let (source, named) ← joinChain g factor
  if isJoined source then
    expect ")"
    return (source, (← tableAlias d g).isSome)
  else if d == .snowflake || d == .ansi then
    expect ")"
    let renamed := (← tableAlias d g).isSome
    if named && renamed then expected "one alias only"
    return (source, named || renamed)
  else expected "joined table"

/-- Takes a keyword if an opening parenthesis follows it. -/
def acceptCallTo (key : String) : Reader Bool := do
  if (← peekAt 1) == some (.mark "(") then acceptKey key else return false

/-- Takes the keyword of rows that stand in place of a table, if the dialect has them. -/
def acceptRows : Reader Bool := do
  if d == .snowflake || d == .ansi then acceptCallTo "VALUES" else return false

/-- A single table; parentheses nest at most `fuel` deep. -/
def tableFactorWithin (interval : Reader Expr) : Nat → Reader Factor
  | 0 => expected "a table"
  | fuel + 1 => do
    if ← acceptKey "LATERAL" then
      if ← accept "(" then derivedTable d g
      else
        discard (path d)
        expect "("
        let args ← sepByOr (argument d g) ")"
        expect ")"
        madeTable d g args
    else if ← acceptKey "TABLE" then madeTable d g [← parens (expr g)]
    else if ← accept "(" then
      match ← attempt (derivedTable d g) with
      | some (source, named) => return (source, ← pivots d g interval named)
      | none => groupedTables d g (tableFactorWithin interval fuel)
    else if ← acceptRows d then madeTable d g (← valueRows g)
    else
      let unnest ← acceptKeyIf (d != .snowflake) "UNNEST"
      if unnest then unnestTable d g
      else if ← acceptCallTo "JSON_TABLE" then madeTable d g (← documentTable d g)
      else if ← acceptCallTo "OPENJSON" then madeTable d g (← openedTable d g)
      else namedTable d g interval

def tableFactor (interval : Reader Expr) : Reader Factor := do
  tableFactorWithin d g interval ((← remaining) + 1)

def joinedTables (interval : Reader Expr) : Reader Source := do
  return (← joinChain g (tableFactor d g interval)).1

/-- Chains of joined tables with commas between them. -/
def tableList (interval : Reader Expr) : Reader (List Source) :=
  sepBy (joinedTables d g interval)

end Reader

end SqlFragments
