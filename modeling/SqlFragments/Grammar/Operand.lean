import SqlFragments.Grammar.Binding
import SqlFragments.Grammar.Call

/-!
# Operands

An operand is what an operator applies to: a constant, a column, a call, something in
parentheses, or one of the forms that a keyword starts.

* `Reader.reservedForm`: the forms that start with a keyword
* `Reader.nameForm`: a column, a call, or whatever else a word may start
* `Reader.operand`: an operand
-/

namespace SqlFragments

namespace Reader

variable (d : Dialect) (g : Nested)

/-! ## Forms with a syntax of their own -/

def dateTimeField : Reader Unit := do
  let custom := d != .bigQuery
  match ← next with
  | some (.word w) =>
    if w.key == "WEEK" then
      let day ← if d == .bigQuery || d == .ansi then accept "(" else pure false
      if day then
        discard name
        expect ")"
    else unless custom || dateTimeFields.contains w.key do expected "date/time field"
  | some (.quoted .single _) => unless custom do expected "date/time field"
  | _ => expected "date/time field"

/-- An interval behind its keyword; `value` reads a single operand. -/
def intervalValue (value : Reader Expr) : Reader Expr := do
  let e ← if d == .bigQuery then expr g else value
  let unit ← keyAt 0
  let hasUnit := temporalUnits.contains unit
  if hasUnit then dateTimeField d
  else if d == .bigQuery then expected "a unit after the literal value"
  if hasUnit && (unit == "SECOND") then optionalPrecision 2
  else
    optionalPrecision 1
    if ← acceptKey "TO" then
      let last ← keyAt 0
      dateTimeField d
      if last == "SECOND" then optionalPrecision 1
  return .unary .interval e

def caseForm : Reader Expr := do
  let subject ←
    if ← acceptKey "WHEN" then pure []
    else
      let e ← expr g
      expectKey "WHEN"
      pure [e]
  let branch : Reader (Expr × Expr) := do
    let condition ← expr g
    expectKey "THEN"
    return (condition, ← expr g)
  let branches ← itemsWhile branch (acceptKey "WHEN") ((← remaining) + 1)
  let otherwise ← afterKey "ELSE" (expr g)
  expectKey "END"
  return .many .choice
    (subject ++ otherwise.toList ++ branches.map Prod.fst ++ branches.map Prod.snd)

/-- A conversion to a type or a character set, behind its keyword. -/
def convertForm : Reader Expr := parens do
  let e ← expr g
  if ← acceptKey "USING" then discard (path d)
  else
    expect ","
    discard (typeName d g)
    discard (afterKeys ["CHARACTER", "SET"] (path d))
  return .many .conversion [e]

def castForm : Reader Expr := parens do
  let e ← expr g
  expectKey "AS"
  discard (typeName d g)
  if ← acceptKey "FORMAT" then
    constant d
    if ← acceptKeys ["AT", "TIME", "ZONE"] then constant d
  return .unary .cast e

/-- The test whether a query has rows, behind its keyword. -/
def existsForm : Reader Expr := do
  return .exists (← parens g.query)

def extractForm : Reader Expr := parens do
  dateTimeField d
  unless ← acceptKey "FROM" do
    unless d == .snowflake || d == .ansi do expected "'FROM' or ','"
    expect ","
  return .unary .extract (← expr g)

/-- A number or a point in time rounded up or down, behind the keyword. -/
def roundForm (form : UnaryForm) : Reader Expr := parens do
  let e ← expr g
  if ← acceptKey "TO" then dateTimeField d
  else if ← accept "," then
    unless (← constantKind d) == .number do expected "a number"
  return .unary form e

/-- The place of a text in another one; nothing but a call if `in` is missing. -/
def positionForm (interval : Reader Expr) (w : Word) : Reader Expr := do
  let special ← attempt <| parens do
    let part ← g.expr (d.strength .between)
    expectKey "IN"
    return Expr.binary .position part (← expr g)
  match special with
  | some e => return e
  | none => call d g interval [⟨w.value, w.quote⟩]

def substringForm : Reader Expr := parens do
  let e ← expr g
  let comma ← accept ","
  let start ←
    if comma then pure [← expr g]
    else pure (← afterKey "FROM" (expr g)).toList
  let length ←
    if ← acceptKey "FOR" then pure [← expr g]
    else if ← accept "," then pure [← expr g]
    else pure []
  return .many .substring (e :: start ++ length)

/-- A text with a part replaced, behind the keyword. -/
def overlayForm : Reader Expr := parens do
  let e ← expr g
  expectKey "PLACING"
  let what ← expr g
  expectKey "FROM"
  let start ← expr g
  let length ← afterKey "FOR" (expr g)
  return .many .overlay ([e, what, start] ++ length.toList)

/-- A text without characters at its ends, behind the keyword. -/
def trimForm : Reader Expr := parens do
  discard (acceptOneOf ["BOTH", "LEADING", "TRAILING"])
  let first ← expr g
  if ← acceptKey "FROM" then return .many .trim [← expr g, first]
  else if (← accept ",") && d != .postgres then
    return .many .trim (first :: (← expressions g))
  else return .many .trim [first]

/-- A full text search, behind the keyword. -/
def matchForm : Reader Expr := do
  discard names
  expectKey "AGAINST"
  parens do
    constant d
    if ← acceptKeys ["IN", "NATURAL", "LANGUAGE", "MODE"] then
      discard (acceptKeys ["WITH", "QUERY", "EXPANSION"])
    else unless ← acceptKeys ["IN", "BOOLEAN", "MODE"] do
      discard (acceptKeys ["WITH", "QUERY", "EXPANSION"])
  return .constant

/-- The elements of an array, behind the opening bracket. -/
def arrayForm : Reader Expr := do
  let items ← sepByOr (expr g) "]"
  expect "]"
  return .many .array items

/-- A struct, behind its keyword.  Fields get names only if the type gives them none. -/
def structForm : Reader Expr := do
  let typed := (← structFieldList (do
    return (← typeWithin d g ((← remaining) + 1)).2))
  if typed == some true then expected "a struct"
  let field : Reader Expr := do
    let e ← expr g
    if ← acceptKey "AS" then
      if typed.isSome then expected "a field without a name"
      discard name
      return .unary .named e
    else return e
  return .many .struct (← parens (sepBy field))

/-- Keys and values, with commas between the pairs. -/
def entries (key : Reader (List Expr)) : Reader Expr := do
  let entry : Reader (List Expr) := do
    let k ← key
    expect ":"
    return k ++ [← expr g]
  return .many .dictionary (← sepBy entry).flatten

def mapForm : Reader Expr := do
  if ← accept "\x7d" then return .many .dictionary []
  else
    let map ← entries g (do return [← expr g])
    expect "\x7d"
    return map

/-- What an opening brace starts, behind it: a call, or a dictionary. -/
def braceForm (interval : Reader Expr) : Reader Expr := do
  let special ← attempt do
    expectKey "FN"
    call d g interval (← path d)
  match special with
  | some e =>
    expect "\x7d"
    return e
  | none =>
    if d == .snowflake || d == .ansi then
      let dictionary ← entries g (do discard name; return [])
      expect "\x7d"
      return dictionary
    else expected "an expression"

/-- What an opening parenthesis starts, behind it: a query, an expression, or a tuple; possibly
with a field behind the closing parenthesis. -/
def parenForm : Reader Expr := do
  let e ←
    if ← seesQuery then pure (Expr.subquery (← g.query))
    else
      match ← expressions g with
      | [e] => pure (.unary .parenthesised e)
      | es => pure (.many .tuple es)
  expect ")"
  if ← accept "." then
    match ← next with
    | some (.word _) => return .unary .field e
    | _ => expected "identifier"
  else return e

/-! ## Words -/

/-- The form that a word starts as a keyword, behind the word; nothing if it starts none. -/
def reservedForm (value : Reader Expr) (w : Word) : Reader (Option Expr) := do
  let callee : List Name := [⟨w.value, w.quote⟩]
  let interval := intervalValue d g value
  match w.key with
  | "TRUE" | "FALSE" | "NULL" => return some .constant
  | "CURRENT_CATALOG" | "CURRENT_USER" | "SESSION_USER" | "USER" =>
    if d == .postgres || d == .ansi then return some (.call callee [] []) else return none
  | "CURRENT_TIMESTAMP" | "CURRENT_TIME" | "CURRENT_DATE" | "LOCALTIME" | "LOCALTIMESTAMP" =>
    if ← accept "(" then
      let (args, clauses, _) ← arguments d g
      return some (.call callee args clauses)
    else return some (.call callee [] [])
  | "CASE" => return some (← caseForm g)
  | "CONVERT" => return some (← convertForm d g)
  | "TRY_CONVERT" => if d == .ansi then return some (← convertForm d g) else return none
  | "CAST" | "TRY_CAST" | "SAFE_CAST" => return some (← castForm d g)
  | "EXISTS" => return some (← existsForm g)
  | "EXTRACT" => return some (← extractForm d g)
  | "CEIL" => return some (← roundForm d g .ceiling)
  | "FLOOR" => return some (← roundForm d g .floor)
  | "POSITION" =>
    if ← seesMark "(" then return some (← positionForm d g interval w) else return none
  | "SUBSTRING" => return some (← substringForm g)
  | "OVERLAY" => return some (← overlayForm g)
  | "TRIM" => return some (← trimForm d g)
  | "INTERVAL" => return some (← interval)
  | "ARRAY" =>
    if ← accept "[" then return some (← arrayForm g)
    else if ← seesMark "(" then return some (.callOn callee (← parens g.query))
    else return none
  | "NOT" =>
    if ← acceptKey "EXISTS" then return some (← existsForm g)
    else return some (.unary (.operator "not") (← g.expr (d.strength .not)))
  | "PRIOR" =>
    if g.inRelation then return some (.unary .prior (← g.expr (d.strength .sum))) else return none
  | "MATCH" => if d == .ansi then return some (← matchForm d) else return none
  | "STRUCT" =>
    if d == .bigQuery || d == .ansi then return some (← structForm d g) else return none
  | "MAP" =>
    let braces ← if d == .ansi then accept "\x7b" else pure false
    if braces then return some (← mapForm g) else return none
  | _ => return none

/-- The rest of a chain of names, and whether it ends in `*`, which only PostgreSQL allows. -/
def nameChain (taken : List Name) : Nat → Reader (List Name × Bool)
  | 0 => return (taken.reverse, false)
  | fuel + 1 => do
    if ← accept "." then
      match ← next with
      | some (.word w) => nameChain (⟨w.value, w.quote⟩ :: taken) fuel
      | some (.quoted .single value) => nameChain (⟨value, some '\''⟩ :: taken) fuel
      | some (.mark "*") =>
        if d == .postgres then return (taken.reverse, true)
        else expected "an identifier after '.'"
      | _ => expected "an identifier or a '*' after '.'"
    else return (taken.reverse, false)

/-- What a word starts as a name, behind the word: a column, a call, a side of an outer join, or
a text in some character set. -/
def nameForm (interval : Reader Expr) (w : Word) : Reader Expr := do
  match ← peek with
  | some (.mark "(") | some (.mark ".") =>
    let (names, wildcard) ← nameChain d [⟨w.value, w.quote⟩] ((← remaining) + 1)
    if wildcard then return .wildcard names
    else if ← seesMark "(" then
      let outer ← if d == .snowflake then acceptMarks ["(", "+", ")"] else pure false
      if outer then return .unary .outerJoin (.column names)
      else call d g interval names
    else return .column names
  | some (.quoted form _) =>
    if w.value.head? == some '_' && [.single, .double, .hexadecimal].contains form then
      skip 1
      return .constant
    else return .column [⟨w.value, w.quote⟩]
  | _ => return .column [⟨w.value, w.quote⟩]

/-- What a word starts, behind the word, and whether that is all of the operand.  If it fails as
a keyword it may still be a name. -/
def wordForm (value : Reader Expr) (w : Word) : Reader (Expr × Bool) := do
  let interval := intervalValue d g value
  match ← trial (reservedForm d g value w) with
  | .ok (some e) => return (e, false)
  | .ok none => return (← nameForm d g interval w, false)
  | .error e =>
    if (reservedAsIdentifier d).contains w.key then throw e
    match ← trial (nameForm d g interval w) with
    | .ok name => return (name, true)
    | .error _ => throw e

/-! ## Operands -/

/-- The operators that only PostgreSQL has in front of an operand. -/
def postgresSigns : List String :=
  ["!!", "|/", "||/", "@", "~"]

/-- What a symbol starts, from that symbol on, and whether that is all of the operand. -/
def symbolForm (value : Reader Expr) : Reader (Expr × Bool) := do
  match ← next with
  | some (.word w) => wordForm d g value w
  | some (.number _ _) => return (.constant, false)
  | some (.quoted .escaped _) =>
    if d == .postgres || d == .ansi then return (.constant, false) else expected "an expression"
  | some (.quoted _ _) | some (.placeholder _) => return (.constant, false)
  | some (.mark m) =>
    if m == "+" || m == "-" then
      return (.unary (.operator m) (← g.expr (d.strength .product)), false)
    else if d == .postgres && postgresSigns.contains m then
      return (.unary (.operator m) (← g.expr (d.strength .sum)), false)
    else if m == "[" then return (← arrayForm g, false)
    else if m == "(" then return (← parenForm g, false)
    else if m == "\x7b" then return (← braceForm d g (intervalValue d g value), false)
    else if m == ":" || m == "@" then
      match ← next with
      | some (.word _) | some (.number _ false) => return (.constant, false)
      | _ => expected "placeholder"
    else expected "an expression"
  | _ => expected "an expression"

/-- A constant written as a type and a text, or an interval. -/
def typedConstant (value : Reader Expr) : Reader Expr := do
  match ← typeName d g with
  | .interval => intervalValue d g value
  | .custom => expected "a constant of a standard type"
  | .standard =>
    discard (literalText d)
    return .constant

/-- An operand; intervals may stand in front of one another at most `fuel` times. -/
def operandWithin : Nat → Reader Expr
  | 0 => expected "an expression"
  | fuel + 1 => do
    let value := operandWithin fuel
    match ← attempt (typedConstant d g value) with
    | some e => return e
    | none =>
      let (e, whole) ← symbolForm d g value
      if whole then return e
      else if ← acceptKey "COLLATE" then
        discard (path d)
        return .unary .collation e
      else return e

def operand : Reader Expr := do
  operandWithin d g ((← remaining) + 1)

end Reader

end SqlFragments
