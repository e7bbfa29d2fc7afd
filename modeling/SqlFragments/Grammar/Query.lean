import SqlFragments.Grammar.Change

/-!
# Queries

A query names other queries in front, has a body, and may order and limit the rows that come out.
A body is a selection, a query in parentheses, or a list of rows; set operations combine bodies.

* `Reader.namedQuery`: a query with a name, for the use of the query behind it
* `Reader.queryBody`: a body; intersections are formed before unions and differences
* `Reader.query`: a query
-/

namespace SqlFragments

namespace Reader

variable (d : Dialect) (g : Nested) (interval : Reader Expr)

/-! ## Bodies -/

/-- A query with a name, in front of the query that may use it. -/
def namedQuery : Reader Query := do
  discard name
  unless ← acceptKey "AS" do
    columnNames d g
    expectKey "AS"
  if d == .postgres then
    unless ← acceptKey "MATERIALIZED" do discard (acceptKeys ["NOT", "MATERIALIZED"])
  let q ← parens g.query
  discard (afterKey "FROM" name)
  return q

/-- A table in place of a selection, behind `table`: a name, or two with a dot. -/
def bareTable : Reader Unit := do
  let first ← next
  let second ← next
  let third ← next
  let isWord : Option Symbol → Bool
    | some (.word _) => true
    | _ => false
  unless isWord first && (second != some (.mark ".") || isWord third) do expected "table name"

/-- A body without set operations. -/
def simpleBody : Reader Body := do
  if ← seesKey ["SELECT"] then selection d g interval
  else if ← seesMark "(" then return .query (← parens g.query)
  else if ← acceptKey "VALUES" then return .values (← valueRows g)
  else if ← acceptKey "TABLE" then
    bareTable
    return .other
  else expected "SELECT, VALUES, or a subquery in the query body"

/-- How a set operation treats equal rows and which columns it pairs, if that is said. -/
def setQuantifier : Reader Unit := do
  unless ← acceptKeys ["DISTINCT", "BY", "NAME"] do
    unless ← acceptKeys ["BY", "NAME"] do
      if ← acceptKey "ALL" then discard (acceptKeys ["BY", "NAME"])
      else discard (acceptKey "DISTINCT")

/-- The operand of an intersection, and further intersections behind it. -/
def intersections : Reader Body := do
  let first ← simpleBody d g interval
  let rest ← whileSome <| afterKey "INTERSECT" do
    setQuantifier
    simpleBody d g interval
  return rest.foldl .combined first

/-- A body.  Intersections are formed first; unions and differences group from the left. -/
def queryBody : Reader Body := do
  let first ← intersections d g interval
  let rest ← whileSome do
    if (← acceptOneOf ["UNION", "EXCEPT"]).isSome then
      setQuantifier
      return some (← intersections d g interval)
    else return none
  return rest.foldl .combined first

/-! ## Clauses on the rows that come out -/

/-- The values of the rows that fill gaps in the ordering, if they are given. -/
def interpolation : Reader Unit := do
  if ← acceptKey "INTERPOLATE" then
    if ← seesMark "(" then
      discard <| parens <| sepByOr (do
        discard name
        discard (afterKey "AS" (expr g))) ")"

/-- The number of rows that are left out, behind its keyword. -/
def offsetAmount : Reader Unit := do
  discard (expr g)
  discard (acceptOneOf ["ROW", "ROWS"])

/-- A limit and an offset in either order; the results tell which of them have been met. -/
def limitRound (limited skipped : Bool) : Reader (Bool × Bool) := do
  let limit ← if limited then pure false else acceptKey "LIMIT"
  let limited ←
    if limit then
      if ← acceptKey "ALL" then pure false
      else
        discard (expr g)
        pure true
    else pure limited
  let offset ← if skipped then pure false else acceptKey "OFFSET"
  if offset then offsetAmount g
  let skipped := skipped || offset
  let comma ← if d == .ansi && limited && !skipped then accept "," else pure false
  if comma then discard (expr g)
  return (limited, skipped || comma)

def fetchForm : Reader Unit := do
  discard (expectOneOf ["FIRST", "NEXT"])
  if (← acceptOneOf ["ROW", "ROWS"]).isNone then
    constant d
    discard (acceptKey "PERCENT")
    discard (expectOneOf ["ROW", "ROWS"])
  unless ← acceptKey "ONLY" do expectKeys ["WITH", "TIES"]

/-- A text between parentheses, if it is given. -/
def optionalText : Reader Unit := do
  if ← seesMark "(" then parens (discard (literalText d))

/-- The document that the rows are written as, behind `for`; nothing if none is asked for. -/
def documentForm : Reader Bool := do
  let options (words : Reader Unit) : Reader Unit :=
    discard <| whileSome do
      if ← accept "," then words; return some ()
      else return none
  if ← acceptKey "XML" then
    match ← expectOneOf ["RAW", "AUTO", "EXPLICIT", "PATH"] with
    | "RAW" | "PATH" => optionalText d
    | _ => pure ()
    options do
      if ← acceptKey "BINARY" then expectKey "BASE64"
      else if ← acceptKey "ROOT" then parens (discard (literalText d))
      else discard (acceptOneOf ["ELEMENTS", "TYPE"])
    return true
  else if ← acceptKey "JSON" then
    discard (expectOneOf ["AUTO", "PATH"])
    options do
      if ← acceptKey "ROOT" then parens (discard (literalText d))
      else discard (acceptOneOf ["INCLUDE_NULL_VALUES", "WITHOUT_ARRAY_WRAPPER"])
    return true
  else acceptKey "BROWSE"

/-- The locks on the rows, or the document that they are written as, at most `fuel` of them. -/
def forClauses : Nat → Reader Unit
  | 0 => return
  | fuel + 1 => do
    if ← acceptKey "FOR" then
      unless ← documentForm d do
        discard (expectOneOf ["UPDATE", "SHARE"])
        discard (afterKey "OF" (path d))
        unless ← acceptKey "NOWAIT" do discard (acceptKeys ["SKIP", "LOCKED"])
        forClauses fuel

/-- The ordering of the rows that come out, if there is one. -/
def queryOrder : Reader Unit := do
  if ← acceptKeys ["ORDER", "BY"] then
    discard (orderEntries d g)
    if d == .ansi then interpolation g

/-- All that may stand behind a body. -/
def queryTail : Reader Unit := do
  queryOrder d g
  let (limited, skipped) ← limitRound d g false false
  discard (limitRound d g limited skipped)
  if d == .ansi then discard (afterKey "BY" (expressions g))
  settings d
  discard (afterKey "FETCH" (fetchForm d))
  forClauses d ((← remaining) + 1)
  if d == .ansi then
    if ← acceptKey "FORMAT" then
      unless ← acceptKey "NULL" do discard name

def query : Reader Query := do
  let named ← afterKey "WITH" do
    discard (acceptKey "RECURSIVE")
    sepBy (namedQuery d g)
  if ← acceptKey "INSERT" then
    discard (insertForm d g)
    return .mk (named.getD []) .other
  else if ← acceptKey "UPDATE" then
    updateForm d g interval
    return .mk (named.getD []) .other
  else
    let body ← queryBody d g interval
    queryTail d g
    return .mk (named.getD []) body

end Reader

end SqlFragments
