import SqlFragments.Grammar.TypeName

/-!
# Cursors, variables and prepared statements

The commands that declare things for a while and use them.  They are read to check them; nothing
of them is kept.  Each command stands behind the word that it starts with.

* `Reader.declareForm`: cursors and variables
* `Reader.fetchCursorForm`, `Reader.closeForm`: the use of a cursor
* `Reader.prepareForm`, `Reader.executeForm`, `Reader.deallocateForm`: prepared statements
-/

namespace SqlFragments

namespace Reader

variable (d : Dialect) (g : Nested)

/-! ## Declarations -/

/-- A cursor on the rows of a query. -/
def declareCursor : Reader Unit := do
  discard name
  discard (acceptKey "BINARY")
  discard (acceptOneOf ["INSENSITIVE", "ASENSITIVE"])
  unless ← acceptKey "SCROLL" do discard (acceptKeys ["NO", "SCROLL"])
  expectKey "CURSOR"
  if (← acceptOneOf ["WITH", "WITHOUT"]).isSome then expectKey "HOLD"
  expectKey "FOR"
  discard g.query

/-- Variables of one type.  The type may be left out if a value is given. -/
def declareVariables : Reader Unit := do
  discard (sepBy name)
  if ← seesKey ["DEFAULT"] then
    skip 1
    discard (expr g)
  else
    discard (typeName d g)
    discard (afterKey "DEFAULT" (expr g))

/-- The first value of a variable, if it is given. -/
def firstValue : Reader Bool := do
  let given ← if ← acceptKey "DEFAULT" then pure true else accept ":="
  if given then discard (expr g)
  return given

/-- Whether a word may start another declaration: it must have no meaning, even in quotes. -/
def startsDeclaration (w : Word) : Bool :=
  !grammarWords.contains (String.ofList (w.value.flatMap capital))

/-- A declaration of Snowflake: a cursor, a set of results, an exception or a variable. -/
def snowflakeDeclaration : Reader Unit := do
  discard name
  if ← acceptKey "CURSOR" then
    expectKey "FOR"
    if ← seesKey ["SELECT"] then discard g.query else discard (expr g)
  else if ← acceptKey "RESULTSET" then discard (firstValue g)
  else if ← acceptKey "EXCEPTION" then
    if ← seesMark "(" then discard (expr g)
  else unless ← firstValue g do
    if let some (.word _) ← peek then
      discard (typeName d g)
      discard (firstValue g)

/-- Declarations of Snowflake with semicolons between them, at most `fuel` of them. -/
def snowflakeDeclarations : Nat → Reader Unit
  | 0 => return
  | fuel + 1 => do
    snowflakeDeclaration d g
    if ← seesMark ";" then
      if let some (.word w) ← peekAt 1 then
        if startsDeclaration w then
          skip 1
          snowflakeDeclarations fuel

def declareForm : Reader Unit := do
  match d with
  | .bigQuery => declareVariables d g
  | .snowflake => snowflakeDeclarations d g ((← remaining) + 1)
  | _ => declareCursor g

/-! ## Cursors -/

def fetchedRows : Reader Unit := do
  match ← acceptOneOf ["NEXT", "PRIOR", "FIRST", "LAST", "ABSOLUTE", "RELATIVE", "FORWARD",
    "BACKWARD", "ALL"] with
  | some "FORWARD" | some "BACKWARD" => unless ← acceptKey "ALL" do amount d
  | some "ABSOLUTE" | some "RELATIVE" | none => amount d
  | some _ => return

/-- Rows fetched by a cursor. -/
def fetchCursorForm : Reader Unit := do
  fetchedRows d
  discard (expectOneOf ["FROM", "IN"])
  discard name
  discard (afterKey "INTO" (path d))

/-- A cursor closed, or all. -/
def closeForm : Reader Unit := do
  unless ← acceptKey "ALL" do discard name

/-! ## Prepared statements -/

/-- A statement with a name, for later. -/
def prepareForm : Reader Unit := do
  discard name
  if ← seesMark "(" then discard (parens (sepBy (typeName d g)))
  expectKey "AS"
  discard g.statement

/-- A prepared statement executed, with values for its places. -/
def executeForm : Reader Unit := do
  discard (path d)
  if ← seesMark "(" then discard (parens (sepByOr (expr g) ")"))
  else
    let bare := (← peek).isNone || (← seesMark ";") || (← seesKey ["USING"])
    unless bare do discard (expressions g)
  discard (afterKey "USING" (expressions g))

/-- A prepared statement that is forgotten. -/
def deallocateForm : Reader Unit := do
  discard (acceptKey "PREPARE")
  discard name

end Reader

end SqlFragments
