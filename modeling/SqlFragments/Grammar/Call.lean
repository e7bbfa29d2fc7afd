import SqlFragments.Grammar.TypeName

/-!
# Calls

A call is a name and arguments in parentheses, with many clauses that may stand with the
arguments or behind the parentheses.

* `Reader.columnOrWildcard`: an expression or `*`
* `Reader.orderEntry`, `Reader.window`: entries of an ordering, and windows
* `Reader.call`: a call behind its name
-/

namespace SqlFragments

namespace Reader

variable (d : Dialect) (g : Nested)

/-- The rest of a chain of names that may end in `*`; nothing if it ends in a name. -/
def wildcardChain (taken : List Name) : Nat → Reader (Option (List Name))
  | 0 => return none
  | fuel + 1 => do
    if ← accept "." then
      match ← next with
      | some (.word w) => wildcardChain (⟨w.value, w.quote⟩ :: taken) fuel
      | some (.quoted .single value) => wildcardChain (⟨value, some '\''⟩ :: taken) fuel
      | some (.mark "*") => return some taken.reverse
      | _ => expected "an identifier or a '*' after '.'"
    else return none

/-- An expression, `*`, or a name followed by `.*`. -/
def columnOrWildcard : Reader Expr := do
  let start ← get
  let fuel := start.length + 1
  let chain ← match ← next with
    | some (.mark "*") => pure (some [])
    | some (.word w) => wildcardChain [⟨w.value, w.quote⟩] fuel
    | some (.quoted .single value) => wildcardChain [⟨value, some '\''⟩] fuel
    | _ => pure none
  match chain with
  | some names => return .wildcard names
  | none =>
    set start
    g.expr 0

/-- The sign between the name and the value of an argument. -/
def argumentSign : Reader Unit := do
  if ← acceptKey "VALUE" then return
  else if ← accept "=>" then return
  else if d == .ansi then expect ":="
  else if d == .postgres then expect ":"
  else expected "argument operator"

/-- An argument, with or without a name.  In PostgreSQL any expression may name an argument. -/
def argument : Reader Expr := do
  let named ← attempt do
    if d == .postgres then
      let key ← expr g
      argumentSign d
      return .binary .namedArgument key (← columnOrWildcard g)
    else
      discard name
      argumentSign d
      columnOrWildcard g
  match named with
  | some e => return e
  | none => columnOrWildcard g

/-- An entry of an ordering, with its filling if the dialect has it. -/
def orderEntry : Reader (List Expr) := do
  let e ← expr g
  discard (acceptOneOf ["ASC", "DESC"])
  unless ← acceptKeys ["NULLS", "FIRST"] do discard (acceptKeys ["NULLS", "LAST"])
  let filling ← if d == .ansi then acceptKeys ["WITH", "FILL"] else pure false
  if filling then
    let low ← afterKey "FROM" (expr g)
    let high ← afterKey "TO" (expr g)
    let step ← afterKey "STEP" (expr g)
    return e :: low.toList ++ high.toList ++ step.toList
  else return [e]

def orderEntries : Reader (List Expr) := do
  return (← sepBy (orderEntry d g)).flatten

def optionalOrder : Reader (List Expr) := do
  return (← afterKeys ["ORDER", "BY"] (orderEntries d g)).getD []

/-- One end of the frame of a window; `interval` reads an interval behind its keyword. -/
def frameBound (interval : Reader Expr) : Reader (List Expr) := do
  if ← acceptKeys ["CURRENT", "ROW"] then return []
  let distance ←
    if ← acceptKey "UNBOUNDED" then pure []
    else
      match ← peek with
      | some (.quoted .single _) => pure [← interval]
      | _ => pure [← expr g]
  discard (expectOneOf ["PRECEDING", "FOLLOWING"])
  return distance

/-- The inside of a window, up to its closing parenthesis. -/
def window (interval : Reader Expr) : Reader (List Expr) := do
  match ← peek with
  | some (.word w) => if w.isFree then skip 1
  | _ => pure ()
  let partition ← afterKeys ["PARTITION", "BY"] (expressions g)
  let order ← optionalOrder d g
  let frame ←
    if ← accept ")" then pure []
    else
      discard (expectOneOf ["ROWS", "RANGE", "GROUPS"])
      let bounds ←
        if ← acceptKey "BETWEEN" then
          let low ← frameBound g interval
          expectKey "AND"
          pure (low ++ (← frameBound g interval))
        else frameBound g interval
      expect ")"
      pure bounds
  return partition.getD [] ++ order ++ frame

/-- Whether nulls are passed over, if that is said. -/
def nullTreatment : Reader Bool := do
  if (← acceptOneOf ["RESPECT", "IGNORE"]).isSome then expectKey "NULLS"; return true
  else return false

/-- What a document is made of for a null, if that is said. -/
def nullClause : Reader Bool := do
  if ← acceptKeys ["ABSENT", "ON", "NULL"] then return true
  else acceptKeys ["NULL", "ON", "NULL"]

/-- What stands for the rest when a list grows too long, if that is said. -/
def overflowFiller : Reader (List Expr) := do
  match ← peek with
  | some (.word w) =>
    if w.key == "WITH" || w.key == "WITHOUT" then return []
    else expected "either filler, WITH, or WITHOUT"
  | some (.quoted form _) =>
    if [.single, .escaped, .unicode, .national, .hexadecimal].contains form then
      return [← expr g]
    else expected "either filler, WITH, or WITHOUT"
  | _ => expected "either filler, WITH, or WITHOUT"

/-- What is done when a list grows too long, if that is said. -/
def overflowClause : Reader (List Expr) := do
  if ← acceptKeys ["ON", "OVERFLOW"] then
    if ← acceptKey "ERROR" then return []
    expectKey "TRUNCATE"
    let filler ← overflowFiller g
    discard (expectOneOf ["WITH", "WITHOUT"])
    expectKey "COUNT"
    return filler
  else return []

/-- The arguments of a call, the expressions of the clauses among them, and whether one of these
says what happens to nulls; up to the closing parenthesis. -/
def arguments : Reader (List Expr × List Expr × Bool) := do
  discard nullClause
  if ← accept ")" then return ([], [], false)
  let all ← acceptKey "ALL"
  let distinct ← acceptKey "DISTINCT"
  if all && distinct then expected "either ALL or DISTINCT"
  let args ← sepBy (argument d g)
  let nulls ← if d == .postgres then pure false else nullTreatment
  let order ← optionalOrder d g
  let limit ← afterKey "LIMIT" (expr g)
  let having ←
    if d == .ansi || d == .bigQuery then
      afterKey "HAVING" do
        discard (expectOneOf ["MIN", "MAX"])
        expr g
    else pure none
  if d == .ansi then discard (afterKey "SEPARATOR" (constant d))
  let filler ← overflowClause g
  discard nullClause
  expect ")"
  return (args, order ++ limit.toList ++ having.toList ++ filler, nulls)

/-- The condition on the rows of an aggregate.  Words that start such a clause but do not make
one are taken and forgotten. -/
def filterClause : Reader (List Expr) := do
  if ← acceptKey "FILTER" then
    if ← accept "(" then
      if ← acceptKey "WHERE" then
        let e ← expr g
        expect ")"
        return [e]
  return []

/-- A call behind its name; `interval` reads an interval behind its keyword. -/
def call (interval : Reader Expr) (callee : List Name) : Reader Expr := do
  expect "("
  let onQuery ← if d == .snowflake then seesQuery else pure false
  if onQuery then
    let q ← g.query
    expect ")"
    return .callOn callee q
  let (first, firstClauses, firstNulls) ← arguments d g
  let again ← if d == .ansi then accept "(" else pure false
  let (args, clauses, nulls) ←
    if again then
      let (args, clauses, nulls) ← arguments d g
      pure (args, first ++ firstClauses ++ clauses, nulls)
    else pure (first, firstClauses, firstNulls)
  let within ← afterKeys ["WITHIN", "GROUP"] <| parens do
    expectKeys ["ORDER", "BY"]
    orderEntries d g
  let filter ← if d == .postgres then filterClause g else pure []
  unless nulls do discard nullTreatment
  let windowed ← afterKey "OVER" do
    if ← accept "(" then window d g interval
    else
      discard name
      pure []
  return .call callee args (clauses ++ within.getD [] ++ filter ++ windowed.getD [])

end Reader

end SqlFragments
