import SqlFragments.Grammar.Definition
import SqlFragments.Grammar.Query

/-!
# Alterations

The commands that alter tables, views and their like.  They are read to check them; nothing of
them is kept.

* `Reader.alterColumn`: a change of a column
* `Reader.alterTable`: a change of a table
* `Reader.alterForm`: anything altered
-/

namespace SqlFragments

namespace Reader

variable (d : Dialect) (g : Nested)

/-! ## Columns -/

/-- How the values of a column come about from now on, behind the words for that. -/
def addGeneration : Reader Unit := do
  unless ← acceptKey "ALWAYS" do discard (acceptKeys ["BY", "DEFAULT"])
  expectKeys ["AS", "IDENTITY"]
  optionalSequence d

/-- A change of a column, behind its name. -/
def alterColumn : Reader Unit := do
  if ← acceptKeys ["SET", "NOT", "NULL"] then return
  else if ← acceptKeys ["DROP", "NOT", "NULL"] then return
  else if ← acceptKeys ["SET", "DEFAULT"] then discard (expr g)
  else if ← acceptKeys ["DROP", "DEFAULT"] then return
  else if ← acceptKeys ["ADD", "GENERATED"] then addGeneration d
  else
    let typed ← acceptKeys ["SET", "DATA", "TYPE"]
    unless typed do
      unless ← acceptKeyIf (d == .postgres) "TYPE" do expected "SET or DROP after ALTER COLUMN"
    discard (typeName d g)
    if d == .postgres then discard (afterKey "USING" (expr g))

/-- The place of a column among the others, if it is given. -/
def columnPlace : Reader Unit := do
  if d == .ansi then
    unless ← acceptKey "FIRST" do discard (afterKey "AFTER" name)

/-- A new type of a column, with its properties and its place. -/
def retypedColumn : Reader Unit := do
  discard name
  discard (typeName d g)
  discard <| whileSome do
    if ← columnProperty d g then return some ()
    else return none
  columnPlace d

/-! ## Parts of tables -/

/-- The rows of a partition, by the values that they have. -/
def partition : Reader Unit :=
  discard (parens (expressions g))

/-- A selection that is kept with a table. -/
def keptSelection : Reader Unit := parens do
  expectKey "SELECT"
  discard (outputColumns d g)
  discard (groupClause d g)
  queryOrder d g

/-- A new part of a table, behind `add`. -/
def addPart : Reader Unit := do
  unless ← tableConstraint d g do
    if ← acceptKeyIf (d == .ansi) "PROJECTION" then
      discard ifAbsent
      discard name
      keptSelection d g
    else
      discard ifAbsent
      let parts ← whileSome (afterKey "PARTITION" (partition g))
      if parts.isEmpty then
        discard (acceptKey "COLUMN")
        if d != .snowflake then discard ifAbsent
        columnDefinition d g
        columnPlace d

/-- A part of a table with a new name, behind `rename`. -/
def renamePart : Reader Unit := do
  let constraint ← acceptKeyIf (d == .postgres) "CONSTRAINT"
  let whole ← if constraint then pure false else acceptKey "TO"
  if whole then discard (path d)
  else
    unless constraint do discard (acceptKey "COLUMN")
    discard name
    expectKey "TO"
    discard name

/-- A part of a table that goes, behind `drop`.  The word for a primary key or a kept selection is
passed over in the dialects that do not know it. -/
def dropPart : Reader Unit := do
  let wide := d == .ansi
  if ← acceptKeys ["IF", "EXISTS", "PARTITION"] then partition g
  else if ← acceptKey "PARTITION" then partition g
  else if ← acceptKey "CONSTRAINT" then
    ifPresent
    discard name
    discard (acceptKey "CASCADE")
  else if (← acceptKeys ["PRIMARY", "KEY"]) && wide then return
  else if (← acceptKey "PROJECTION") && wide then
    ifPresent
    discard name
  else if ← acceptKeys ["CLUSTERING", "KEY"] then return
  else
    discard (acceptKey "COLUMN")
    ifPresent
    discard name
    discard (acceptKey "CASCADE")

/-- A rule or a trigger, by its name. -/
def ruleOrTrigger : Reader Unit := do
  discard (expectOneOf ["RULE", "TRIGGER"])
  discard name

/-- Rules, triggers or the guarding of rows put out of action or, if `on`, into it. -/
def switchPart (on : Bool) : Reader Unit := do
  unless ← acceptKeys ["ROW", "LEVEL", "SECURITY"] do
    if on then discard (acceptOneOf ["ALWAYS", "REPLICA"])
    ruleOrTrigger

/-- A kept selection that is cleared or brought up to date. -/
def keptSelectionName : Reader Unit := do
  ifPresent
  discard name
  discard (afterKeys ["IN", "PARTITION"] name)

/-- A part of the rows of a table. -/
def tablePart : Reader Unit := do
  discard (expectOneOf ["PART", "PARTITION"])
  discard (expr g)

/-- A change of a table that only the default dialect knows, if one comes next. -/
def alterParts : Reader Bool := do
  match ← acceptOneOf ["ATTACH", "DETACH", "FREEZE", "UNFREEZE"] with
  | some "ATTACH" | some "DETACH" => tablePart g; return true
  | some _ =>
    tablePart g
    discard (afterKeys ["WITH"] (do expectKey "NAME"; name))
    return true
  | none => return false

/-! ## Tables -/

/-- A change of a table of the rarer kinds, which are not told apart by a word of their own. -/
def alterOther : Reader Unit := do
  if d == .postgres || d == .ansi then
    if ← acceptKeys ["OWNER", "TO"] then
      discard name
      return
  if d == .ansi then
    if ← alterParts g then return
  if ← acceptKeys ["CLUSTER", "BY"] then discard (parens (expressions g))
  else if ← acceptKeys ["SUSPEND", "RECLUSTER"] then return
  else if ← acceptKeys ["RESUME", "RECLUSTER"] then return
  else
    unless ← settingListAfter d g ["SET", "TBLPROPERTIES"] do
      expected "ADD, RENAME, PARTITION, SWAP, DROP, or SET TBLPROPERTIES after ALTER TABLE"

/-- A change of a table, behind words for kept selections that do not count. -/
def alterTableNow : Reader Unit := do
  match ← acceptOneOf ["DROP", "PARTITION", "CHANGE", "MODIFY", "ALTER", "SWAP"] with
  | some "DROP" => dropPart d g
  | some "PARTITION" =>
    partition g
    expectKeys ["RENAME", "TO", "PARTITION"]
    partition g
  | some "CHANGE" =>
    discard (acceptKey "COLUMN")
    discard name
    retypedColumn d g
  | some "MODIFY" =>
    discard (acceptKey "COLUMN")
    retypedColumn d g
  | some "ALTER" =>
    discard (acceptKey "COLUMN")
    discard name
    alterColumn d g
  | some _ =>
    expectKey "WITH"
    discard (path d)
  | none => alterOther d g

/-- A change of a table.  Where kept selections are unknown, the words for their upkeep are passed
over. -/
def alterTable : Reader Unit := do
  match ← acceptOneOf ["ADD", "RENAME", "DISABLE", "ENABLE"] with
  | some "ADD" => addPart d g
  | some "RENAME" => renamePart d
  | some "DISABLE" => switchPart false
  | some _ => switchPart true
  | none =>
    if (← acceptKeys ["CLEAR", "PROJECTION"]) && d == .ansi then keptSelectionName
    else if (← acceptKeys ["MATERIALIZE", "PROJECTION"]) && d == .ansi then keptSelectionName
    else alterTableNow d g

/-! ## Altering -/

def alterTableForm : Reader Unit := do
  ifPresent
  discard (acceptKey "ONLY")
  discard (path d)
  onCluster
  discard (sepBy (alterTable d g))
  unless (← afterKey "LOCATION" name).isSome do
    discard (afterKeys ["SET", "LOCATION"] name)

def alterView : Reader Unit := do
  discard (path d)
  discard optionalNames
  discard (settingListAfter d g ["WITH"])
  expectKey "AS"
  discard g.query

def alterForm : Reader Unit := do
  match ← expectOneOf ["VIEW", "TABLE", "INDEX", "ROLE", "POLICY"] with
  | "VIEW" => alterView d g
  | "INDEX" =>
    discard (path d)
    expectKeys ["RENAME", "TO"]
    discard (path d)
  | "ROLE" => alterRole d g
  | "POLICY" => alterPolicy d g
  | _ => alterTableForm d g

end Reader

end SqlFragments
