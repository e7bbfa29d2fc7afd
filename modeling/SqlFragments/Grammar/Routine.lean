import SqlFragments.Grammar.TypeName

/-!
# Functions, procedures and triggers

Their definitions name arguments with types and say what is done when they are called.  They are
read to check them; nothing of them is kept.

* `Reader.routineName`: a function or a procedure with the types of its arguments
* `Reader.createFunction`, `Reader.createProcedure`, `Reader.createTrigger`, `Reader.createMacro`
* `Reader.dropRoutine`, `Reader.dropTrigger`
-/

namespace SqlFragments

namespace Reader

variable (d : Dialect) (g : Nested)

/-! ## Arguments -/

/-- An argument of a function: its type, and in front of it possibly a direction and a name.  A
type that nobody knows is the name. -/
def routineArgument : Reader Unit := do
  discard (acceptOneOf ["IN", "OUT", "INOUT"])
  if (← typeName d g) == .custom then discard (typeName d g)
  let preset ← if ← acceptKey "DEFAULT" then pure true else accept "="
  if preset then discard (expr g)

/-- The arguments of a function, between parentheses. -/
def routineArguments : Reader Unit :=
  parens (discard (sepByOr (routineArgument d g) ")"))

/-- A function or a procedure, with its arguments if they are given. -/
def routineName : Reader Unit := do
  discard (path d)
  if ← seesMark "(" then routineArguments d g

def typedName : Reader Unit := do
  discard name
  discard (typeName d g)

/-! ## Functions -/

/-- The text that a function is written as. -/
def routineText : Reader Unit := do
  match ← peek with
  | some (.quoted .dollar _) => skip 1
  | _ => discard (literalText d)

/-- A clause of a function, if one comes next; the result is its kind. -/
def functionClause : Reader (Option String) := do
  match ← keyAt 0 with
  | "AS" => skip 1; routineText d; return some "body"
  | "RETURN" => skip 1; discard (expr g); return some "body"
  | "LANGUAGE" => skip 1; discard name; return some "language"
  | "IMMUTABLE" | "STABLE" | "VOLATILE" => skip 1; return some "behaviour"
  | "STRICT" => skip 1; return some "nulls"
  | "PARALLEL" =>
    skip 1
    discard (expectOneOf ["UNSAFE", "RESTRICTED", "SAFE"])
    return some "parallel"
  | _ =>
    if ← acceptKeys ["CALLED", "ON", "NULL", "INPUT"] then return some "nulls"
    else if ← acceptKeys ["RETURNS", "NULL", "ON", "NULL", "INPUT"] then return some "nulls"
    else return none

/-- What a function yields, if that is said. -/
def returnsClause : Reader Unit :=
  discard (afterKey "RETURNS" (typeName d g))

/-- A function with clauses in any order. -/
def createClauseFunction : Reader Unit := do
  discard (path d)
  routineArguments d g
  returnsClause d g
  discard (distinctClauses (functionClause d g) [] ((← remaining) + 1))

/-- A function of BigQuery, whose clauses have a fixed order.  Its options may stand on either
side of the body. -/
def createOptionFunction : Reader Unit := do
  discard ifAbsent
  discard (path d)
  discard (parens (sepByOr (typedName d g) ")"))
  returnsClause d g
  unless ← acceptKey "DETERMINISTIC" do discard (acceptKeys ["NOT", "DETERMINISTIC"])
  discard (afterKey "LANGUAGE" name)
  let elsewhere := (← afterKeys ["REMOTE", "WITH", "CONNECTION"] (path d)).isSome
  let settled ← settingListAfter d g ["OPTIONS"]
  unless elsewhere do
    expectKey "AS"
    discard (expr g)
    unless settled do discard (settingListAfter d g ["OPTIONS"])

def createFunction : Reader Unit := do
  match d with
  | .ansi | .postgres => createClauseFunction d g
  | .bigQuery => createOptionFunction d g
  | .snowflake => expected "an object type after CREATE"

/-! ## Macros and procedures -/

def macroArgument : Reader Unit := do
  discard name
  let preset ← if ← accept ":=" then pure true else accept "=>"
  if preset then discard (expr g)

/-- A new macro, which stands for an expression or a table. -/
def createMacro : Reader Unit := do
  unless d == .ansi do expected "an object type after CREATE"
  discard (path d)
  discard (parens (sepByOr (macroArgument g) ")"))
  expectKey "AS"
  if ← acceptKey "TABLE" then discard g.query else discard (expr g)

/-- The arguments of a procedure, behind the parenthesis.  Arguments may be left out, and a comma
may end them. -/
def procedureArguments : Nat → Reader Unit
  | 0 => expected "the end of the list"
  | fuel + 1 => do
    if let some (.word _) ← peek then typedName d g
    let comma ← accept ","
    unless ← accept ")" do
      unless comma do expected "a comma or a closing parenthesis"
      procedureArguments fuel

def createProcedure : Reader Unit := do
  discard (path d)
  unless ← acceptMarks ["(", ")"] do
    if ← accept "(" then procedureArguments d g ((← remaining) + 1)
  expectKeys ["AS", "BEGIN"]
  discard (statementsWith g.statement ((← remaining) + 1))
  expectKey "END"

/-! ## Triggers -/

def triggerEvent : Reader Unit := do
  match ← expectOneOf ["INSERT", "UPDATE", "DELETE", "TRUNCATE"] with
  | "UPDATE" => discard (afterKey "OF" (sepBy name))
  | _ => return

/-- The names that a trigger gives to the rows before and after, at most `fuel` of them.  A word
for one of them that no table follows ends them. -/
def transitionTables : Nat → Reader Unit
  | 0 => return
  | fuel + 1 => do
    if (← acceptOneOf ["OLD", "NEW"]).isSome then
      if ← acceptKey "TABLE" then
        discard (acceptKey "AS")
        discard (path d)
        transitionTables fuel

def createTrigger : Reader Unit := do
  unless d == .ansi || d == .postgres do expected "an object type after CREATE"
  discard (path d)
  unless (← acceptOneOf ["BEFORE", "AFTER"]).isSome do expectKeys ["INSTEAD", "OF"]
  discard (itemsWhile triggerEvent (acceptKey "OR") ((← remaining) + 1))
  expectKey "ON"
  discard (path d)
  discard (afterKey "FROM" (anyPath d))
  constraintTiming
  if ← acceptKey "REFERENCING" then transitionTables d ((← remaining) + 1)
  expectKey "FOR"
  discard (acceptKey "EACH")
  discard (expectOneOf ["ROW", "STATEMENT"])
  discard (afterKey "WHEN" (expr g))
  expectKey "EXECUTE"
  discard (expectOneOf ["FUNCTION", "PROCEDURE"])
  routineName d g

/-! ## Dropping -/

def dropRoutine : Reader Unit := do
  ifPresent
  discard (sepBy (routineName d g))
  discard dependentsClause

def dropTrigger : Reader Unit := do
  unless d == .ansi || d == .postgres do expected "an object type after DROP"
  ifPresent
  discard (path d)
  expectKey "ON"
  discard (path d)
  discard dependentsClause

end Reader

end SqlFragments
