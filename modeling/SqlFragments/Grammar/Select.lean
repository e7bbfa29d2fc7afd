import SqlFragments.Grammar.Table

/-!
# Selections

A selection lists its output columns, the tables it reads from, and up to a dozen clauses on
their rows.  The clauses stand in a fixed order and each may be left out.

* `Reader.outputColumn`, `Reader.outputColumns`: the columns that come out
* `Reader.groupEntry`: what rows are grouped by
* `Reader.selection`: a selection, from its keyword on
-/

namespace SqlFragments

namespace Reader

variable (d : Dialect) (g : Nested)

/-! ## Output columns -/

/-- One name, or several between parentheses. -/
def nameOrNames : Reader Unit := do
  if ← seesMark "(" then discard names else discard name

/-- What is changed in a list of all columns. -/
def wildcardChanges : Reader (List Expr) := do
  let renamed : Reader Unit := do
    discard name
    expectKey "AS"
    discard name
  let wide := d == .ansi || d == .snowflake
  let ilike ← acceptKeyIf wide "ILIKE"
  if ilike then quotedText "ilike pattern"
  else if wide then discard (afterKey "EXCLUDE" nameOrNames)
  if d == .ansi || d == .bigQuery then discard (afterKey "EXCEPT" nameOrNames)
  let replaced ←
    if d != .postgres then
      afterKey "REPLACE" <| parens <| sepBy do
        let e ← expr g
        discard (acceptKey "AS")
        discard name
        return e
    else pure none
  if wide then
    discard <| afterKey "RENAME" do
      if ← seesMark "(" then discard (parens (sepBy renamed)) else renamed
  return replaced.getD []

/-- Whether an expression is the bare word `from`, which cannot be a column here. -/
def isBareFrom : Expr → Bool
  | .column [n] => n.quote.isNone && n.value.map Char.toLower == "from".toList
  | _ => false

def outputColumn : Reader Expr := do
  match ← columnOrWildcard g with
  | .wildcard path =>
    discard (wildcardChanges d g)
    return .wildcard path
  | e =>
    if isBareFrom e then expected "an expression"
    discard (aliasUnless reservedAsColumnAlias)
    return e

/-- Whether another output column follows: a comma does not announce one in the dialects that let
the list end in a comma. -/
def moreColumns : Reader Bool := do
  if ← accept "," then
    if d == .bigQuery || d == .snowflake then
      match ← peek with
      | none => return false
      | some (.word w) => return !reservedAsColumnAlias.contains w.key
      | some (.mark m) => return !([")", ";", "]", "\x7d"].contains m)
      | some _ => return true
    else return true
  else return false

def outputColumns : Reader (List Expr) := do
  itemsWhile (outputColumn d g) (moreColumns d) ((← remaining) + 1)

/-- Whether equal rows are dropped, if that is said. -/
def distinctClause : Reader (List Expr) := do
  let all ← acceptKey "ALL"
  if ← acceptKey "DISTINCT" then
    if all then expected "either ALL or DISTINCT"
    if ← acceptKey "ON" then parens (sepByOr (expr g) ")") else return []
  else return []

/-- The number of rows that come out, if it is given in front of the columns. -/
def topClause : Reader (List Expr) := do
  if ← acceptKey "TOP" then
    let amount ←
      if ← seesMark "(" then pure [← parens (expr g)]
      else
        natural
        pure []
    discard (acceptKey "PERCENT")
    discard (acceptKeys ["WITH", "TIES"])
    return amount
  else return []

/-- The table that the rows go to, if it is given. -/
def intoClause : Reader Unit := do
  if ← acceptKey "INTO" then
    discard (acceptOneOf ["TEMP", "TEMPORARY"])
    discard (acceptKey "UNLOGGED")
    discard (acceptKey "TABLE")
    discard (path d)

/-! ## Clauses on rows -/

/-- The functions that add rows to each row, if there are any. -/
def lateralViews : Reader (List Expr) :=
  whileSome <| afterKeys ["LATERAL", "VIEW"] do
    discard (acceptKey "OUTER")
    let e ← expr g
    discard (path d)
    discard (sepBy (aliasUnless ["WHERE", "GROUP", "CLUSTER", "HAVING", "LATERAL"]))
    return e

/-- Expressions between parentheses, possibly none. -/
def groupTuple : Reader (List Expr) :=
  parens (sepByOr (expr g) ")")

/-- Expressions between parentheses, possibly none, or one without. -/
def groupTupleOrOne : Reader (List Expr) := do
  if ← seesMark "(" then groupTuple g else return [← expr g]

def groupEntry : Reader Expr := do
  if d == .postgres || d == .ansi then
    if ← acceptKeys ["GROUPING", "SETS"] then
      return .many .grouping (← parens (sepBy (groupTuple g))).flatten
    else if (← acceptOneOf ["CUBE", "ROLLUP"]).isSome then
      return .many .grouping (← parens (sepBy (groupTupleOrOne g))).flatten
    else if ← acceptMarks ["(", ")"] then return .many .tuple []
    else expr g
  else expr g

/-- What rows are grouped by, if that is said. -/
def groupClause : Reader (List Expr) := do
  if ← acceptKeys ["GROUP", "BY"] then
    let entries ← if ← acceptKey "ALL" then pure [] else sepBy (groupEntry d g)
    if d == .ansi then
      discard <| whileSome <| afterKey "WITH" (expectOneOf ["ROLLUP", "CUBE", "TOTALS"])
    return entries
  else return []

/-- Expressions behind two keywords, if these come next. -/
def listBy (first : String) : Reader (List Expr) := do
  return (← afterKeys [first, "BY"] (expressions g)).getD []

def namedWindows (interval : Reader Expr) : Reader (List Expr) := do
  let one : Reader (List Expr) := do
    discard name
    expectKey "AS"
    if ← accept "(" then window d g interval
    else if d == .bigQuery || d == .ansi then
      discard name
      return []
    else expected "("
  return (← sepBy one).flatten

/-- Named windows and the condition on what they yield, in either order. -/
def windowClauses (interval : Reader Expr) : Reader (List Expr) := do
  match ← afterKey "WINDOW" (namedWindows d g interval) with
  | some windows => return windows ++ (← afterKey "QUALIFY" (expr g)).toList
  | none =>
    match ← afterKey "QUALIFY" (expr g) with
    | some e => return e :: ((← afterKey "WINDOW" (namedWindows d g interval)).getD [])
    | none => return []

/-- How rows form a hierarchy, if that is said. -/
def hierarchyClause : Reader (List Expr) := do
  unless d == .snowflake || d == .ansi do return []
  let start : Reader Expr := do
    expectKeys ["START", "WITH"]
    expr g
  let links : Reader (List Expr) := do
    expectKeys ["CONNECT", "BY"]
    sepBy g.linked
  match ← keyAt 0 with
  | "CONNECT" =>
    let linked ← links
    return linked ++ [← start]
  | "START" =>
    let e ← start
    return e :: (← links)
  | _ => return []

/-! ## Selections -/

def selection (interval : Reader Expr) : Reader Body := do
  expectKey "SELECT"
  if d == .bigQuery then discard (afterKey "AS" (expectOneOf ["VALUE", "STRUCT"]))
  let distinct ← distinctClause g
  let top ← topClause g
  let columns ← outputColumns d g
  intoClause d
  let sources ← afterKey "FROM" (tableList d g interval)
  let views ← lateralViews d g
  let before ← if d == .ansi then afterKey "PREWHERE" (expr g) else pure none
  let filter ← afterKey "WHERE" (expr g)
  let grouped ← groupClause d g
  let clustered ← listBy g "CLUSTER"
  let distributed ← listBy g "DISTRIBUTE"
  let sorted ← listBy g "SORT"
  let having ← afterKey "HAVING" (expr g)
  let windows ← windowClauses d g interval
  let hierarchy ← hierarchyClause d g
  return .select columns (sources.getD []) filter
    (distinct ++ top ++ views ++ before.toList ++ grouped ++ clustered ++ distributed ++ sorted ++
      having.toList ++ windows ++ hierarchy)

end Reader

end SqlFragments
