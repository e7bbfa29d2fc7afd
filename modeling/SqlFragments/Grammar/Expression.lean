import SqlFragments.Grammar.Operand

/-!
# Expressions

An expression is an operand with operators behind it.  Operators that bind more tightly than the
ones around them take their operands first; operators that bind equally group from the left.

* `Reader.infixForm`: what an operator makes of the expression in front of it
* `Reader.operators`: the operators behind an operand
* `Reader.subexpr`: an expression up to an operator that does not bind tightly enough
-/

namespace SqlFragments

/-- Whether a mark is an operator with an operand on either side. -/
def isInfixMark (d : Dialect) (m : String) : Bool :=
  match m with
  | "//" => d == .ansi
  | "<<" | ">>" | "&&" | "^@" => d == .postgres || d == .ansi
  | "#" => d == .postgres
  | m =>
    ["=", "==", "<", "<=", "<>", ">", ">=", "+", "-", "*", "/", "%", "||", "|", "^", "&", "~", "~*",
     "!~", "!~*", "~~", "~~*", "!~~", "!~~*", "<=>", "->", "->>", "#>", "#>>", "@>", "<@", "#-",
     "@?", "@@", "?", "?&", "?|"].contains m

/-- Whether an operator compares, so that it may stand in front of `any` and `all`. -/
def isComparison (op : String) : Bool :=
  [">", "<", ">=", "<=", "=", "==", "<>"].contains op

namespace Reader

variable (d : Dialect) (g : Nested)

/-! ## What operators make -/

/-- The name of an operator in a schema, behind `operator`. -/
def operatorName : Reader Unit := parens do
  discard (itemsWhile next (accept ".") ((← remaining) + 1))

/-- The right side of an operator that binds with the given strength. -/
def rightSide (strength : Nat) (op : String) (left : Expr) : Reader Expr := do
  if (← acceptOneOf ["ANY", "ALL", "SOME"]).isSome then
    expect "("
    let right ←
      if ← seesQuery then
        modify (⟨.mark "(", false⟩ :: ·)
        g.expr strength
      else
        let e ← g.expr strength
        expect ")"
        pure e
    unless isComparison op do expected "a comparison"
    return .binary .quantified left right
  else return .binary (.operator op) left (← g.expr strength)

def isForm (e : Expr) : Reader Expr := do
  let negated ← acceptKey "NOT"
  match ← acceptOneOf ["NULL", "TRUE", "FALSE", "UNKNOWN"] with
  | some key => return .unary (.test ((if negated then "is not " else "is ") ++ key.toLower)) e
  | none =>
    expectKeys ["DISTINCT", "FROM"]
    return .binary .distinct e (← expr g)

def inForm (e : Expr) : Reader Expr := do
  if ← acceptKey "UNNEST" then return .binary .unnest e (← parens (expr g))
  else parens do
    if ← seesQuery then return .amongRows e (← g.query)
    else return .many .among (e :: (← expressions g))

def betweenForm (e : Expr) : Reader Expr := do
  let low ← g.expr (d.strength .between)
  expectKey "AND"
  let high ← g.expr (d.strength .between)
  return .many .between [e, low, high]

/-- A pattern, and the character that escapes its wildcards if it is given. -/
def patternForm (e : Expr) : Reader Expr := do
  let pattern ← g.expr (d.strength .like)
  discard (afterKey "ESCAPE" (literalText d))
  return .binary .pattern e pattern

/-- What a match, negated or not, makes of an expression. -/
def matchingForm (e : Expr) : Reader Expr := do
  discard (acceptKey "NOT")
  let regexp ← acceptKey "REGEXP"
  let rlike ← acceptKey "RLIKE"
  if regexp || rlike then return .binary .regularExpression e (← g.expr (d.strength .like))
  else if ← acceptKey "IN" then inForm g e
  else if ← acceptKey "BETWEEN" then betweenForm d g e
  else if (← acceptOneOf ["LIKE", "ILIKE"]).isSome then
    discard (acceptKey "ANY")
    patternForm d g e
  else if ← acceptKeys ["SIMILAR", "TO"] then patternForm d g e
  else expected "IN or BETWEEN after NOT"

/-- The position in a container, or the ends of a range of positions, behind the bracket. -/
def subscriptForm (e : Expr) : Reader Expr := do
  let low ← if ← accept ":" then pure none else pure (some (← expr g))
  if ← accept "]" then return .many .subscript (e :: low.toList)
  if low.isSome then expect ":"
  if ← accept "]" then return .many .subscript (e :: low.toList)
  let high ← expr g
  if ← accept "]" then return .many .subscript (e :: low.toList ++ [high])
  expect ":"
  if ← accept "]" then return .many .subscript (e :: low.toList ++ [high])
  let step ← expr g
  expect "]"
  return .many .subscript (e :: low.toList ++ [high, step])

def pathKey : Reader Unit := do
  match ← next with
  | some (.word w) =>
    unless w.quote == none || w.quote == some '"' do expected "variant object key name"
  | some (.quoted .double _) => return
  | _ => expected "variant object key name"

/-- The steps of a path in a document; all but the first start with a dot or a bracket. -/
def pathSteps (first : Bool) : Nat → Reader (List Expr)
  | 0 => return []
  | fuel + 1 => do
    if ← accept (if first then ":" else ".") then
      pathKey
      pathSteps false fuel
    else if ← accept "[" then
      let e ← expr g
      expect "]"
      return e :: (← pathSteps false fuel)
    else return []

/-- What a path makes of a document. -/
def pathForm (e : Expr) : Reader Expr := do
  return .many .path (e :: (← pathSteps g true ((← remaining) + 1)))

/-- The further keys of nested values behind the first bracket.  A dot goes on with a whole
expression. -/
def furtherKeys : Nat → Reader (List Expr)
  | 0 => return []
  | fuel + 1 => do
    if ← accept "[" then
      let e ← expr g
      expect "]"
      return e :: (← furtherKeys fuel)
    else if ← accept "." then
      let e ← expr g
      return e :: (← furtherKeys fuel)
    else return []

/-- The keys of nested values, behind the bracket. -/
def keysForm (e : Expr) : Reader Expr := do
  let first ← expr g
  expect "]"
  return .many .subscript (e :: first :: (← furtherKeys g ((← remaining) + 1)))

/-! ## Operators -/

/-- What the operator that comes next makes of the expression in front of it; `strength` is that
of the operator. -/
def infixForm (strength : Nat) (e : Expr) : Reader Expr := do
  match ← peek with
  | some (.mark m) =>
    if isInfixMark d m then
      skip 1
      rightSide g strength m e
    else if m == "::" then
      skip 1
      discard (typeName d g)
      return .unary .cast e
    else if m == "!" && d == .postgres then
      skip 1
      return .unary (.operator "!") e
    else if d == .snowflake && (m == "[" || m == ":") then pathForm g e
    else if m == "[" then
      skip 1
      if d == .bigQuery then keysForm g e else subscriptForm g e
    else expected "an operator"
  | some (.custom op) =>
    skip 1
    rightSide g strength (String.ofList op) e
  | some (.word w) =>
    match w.key with
    | "AND" | "OR" | "XOR" =>
      skip 1
      rightSide g strength w.key.toLower e
    | "OPERATOR" =>
      unless d == .postgres || d == .ansi do expected "an operator"
      skip 1
      operatorName
      rightSide g strength "operator" e
    | "IS" =>
      skip 1
      isForm g e
    | "AT" =>
      skip 3
      return .binary .timeZone e (← g.expr strength)
    | "NOT" | "IN" | "BETWEEN" | "LIKE" | "ILIKE" | "SIMILAR" | "REGEXP" | "RLIKE" =>
      matchingForm d g e
    | _ => expected "an operator"
  | _ => expected "an operator"

/-- The operators behind an expression that bind more tightly than `strength`; at most `fuel` of
them. -/
def operators (strength : Nat) : Nat → Expr → Reader Expr
  | 0, e => return e
  | fuel + 1, e => do
    let ahead ← strengthAhead d
    if strength ≥ ahead then return e
    else operators strength fuel (← infixForm d g ahead e)

/-- An expression up to an operator that does not bind more tightly than `strength`. -/
def subexpr (strength : Nat) : Reader Expr := do
  let e ← operand d g
  operators d g strength ((← remaining) + 1) e

end Reader

end SqlFragments
