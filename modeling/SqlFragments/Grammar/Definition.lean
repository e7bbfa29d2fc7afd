import SqlFragments.Grammar.Authority
import SqlFragments.Grammar.Routine
import SqlFragments.Grammar.Stage
import SqlFragments.Grammar.TableDefinition

/-!
# Definitions

The commands that create and drop tables, views and their like.  They are read to check them;
nothing of them is kept.  Each command stands behind the word that it starts with.

* `Reader.createView`, `Reader.createIndex`, …: the kinds of things that can be created
* `Reader.createForm`: anything created
* `Reader.dropForm`: anything dropped
-/

namespace SqlFragments

namespace Reader

variable (d : Dialect) (g : Nested)

/-! ## Views and indexes -/

def viewColumn : Reader Unit := do
  discard name
  let settled ←
    if d == .bigQuery || d == .ansi then settingListAfter d g ["OPTIONS"] else pure false
  if !settled && (d == .snowflake || d == .ansi) then
    discard (afterKey "COMMENT" (quotedText "string literal"))

def createView : Reader Unit := do
  let wide := d == .bigQuery || d == .ansi
  if wide then discard ifAbsent
  discard (tableName d)
  if ← seesMark "(" then discard (parens (sepByOr (viewColumn d g) ")"))
  discard (settingListAfter d g ["WITH"])
  if ← acceptKey "CLUSTER" then
    expectKey "BY"
    discard optionalNames
  if wide then discard (settingListAfter d g ["OPTIONS"])
  if d == .ansi then discard (afterKey "TO" (path d))
  if d == .snowflake || d == .ansi then quotedTextAfter "COMMENT"
  expectKey "AS"
  discard g.query
  if d == .ansi then discard (acceptKeys ["WITH", "NO", "SCHEMA", "BINDING"])

/-- An index.  It may go without a name unless it is only created if it is not there. -/
def createIndex : Reader Unit := do
  discard (acceptKey "CONCURRENTLY")
  let guarded ← ifAbsent
  let nameless ← if guarded then pure false else acceptKey "ON"
  unless nameless do
    discard (path d)
    expectKey "ON"
  discard (path d)
  discard (afterKey "USING" name)
  discard (parens (orderEntries d g))
  discard (afterKey "INCLUDE" names)
  nullsDistinct
  if d == .postgres || d == .ansi then discard (afterKey "WITH" (parens (expressions g)))
  discard (afterKey "WHERE" (expr g))

/-! ## Schemas and databases -/

/-- A schema, by its name or its owner. -/
def createSchema : Reader Unit := do
  discard ifAbsent
  if ← acceptKey "AUTHORIZATION" then discard name
  else
    discard (path d)
    discard (afterKey "AUTHORIZATION" name)

def createDatabase : Reader Unit := do
  discard ifAbsent
  discard (path d)
  discard <| whileSome do
    if (← acceptOneOf ["LOCATION", "MANAGEDLOCATION"]).isSome then
      return some (← literalText d)
    else return none

def createExtension : Reader Unit := do
  discard ifAbsent
  discard name
  if ← acceptKey "WITH" then
    discard (afterKey "SCHEMA" name)
    discard (afterKey "VERSION" name)
    discard (acceptKey "CASCADE")

/-- A table whose rows come from a module. -/
def createVirtualTable : Reader Unit := do
  expectKey "TABLE"
  discard ifAbsent
  discard (path d)
  expectKey "USING"
  discard name
  discard optionalNames

/-! ## Sequences, types and secrets -/

def createSequence : Reader Unit := do
  discard ifAbsent
  discard (path d)
  discard (afterKey "AS" (typeName d g))
  sequenceProperties d
  if ← acceptKeys ["OWNED", "BY"] then
    unless ← acceptKey "NONE" do discard (path d)

def typePart : Reader Unit := do
  typedName d g
  discard (afterKey "COLLATE" (path d))

/-- The parts of a type, behind the parenthesis; a comma may end them. -/
def typeParts : Nat → Reader Unit
  | 0 => expected "the end of the list"
  | fuel + 1 => do
    typePart d g
    let comma ← accept ","
    unless ← accept ")" do
      unless comma do expected "a comma or a closing parenthesis"
      typeParts fuel

/-- A type that is made of parts. -/
def createType : Reader Unit := do
  discard (path d)
  expectKey "AS"
  unless ← acceptMarks ["(", ")"] do
    if ← accept "(" then typeParts d g ((← remaining) + 1)

/-- The name of a type that lists its values, with the words up to the list. -/
def labelTypeHead : Reader Unit := do
  expectKey "TYPE"
  discard (path d)
  expectKeys ["AS", "ENUM"]

/-- A secret.  A symbol that is no name may stand for its name or its place. -/
def createSecret : Reader Unit := do
  discard ifAbsent
  unless ← seesMark "(" do
    let placed ← if ← acceptKey "IN" then pure (← anyName).isSome else do
      discard anyName
      pure false
    unless placed do discard (afterKey "IN" anyName)
  parens do
    expectKey "TYPE"
    discard name
    if ← accept "," then
      discard <| sepBy do
        discard name
        discard name

/-! ## Creating -/

/-- Something that can only be created anew, behind the words in front of its kind. -/
def createNew : Reader Unit := do
  if ← acceptKeys ["UNIQUE", "INDEX"] then createIndex d g
  else
    match ← expectOneOf ["EXTENSION", "INDEX", "VIRTUAL", "SCHEMA", "DATABASE", "ROLE", "SEQUENCE",
      "TYPE", "PROCEDURE"] with
    | "EXTENSION" => createExtension
    | "INDEX" => createIndex d g
    | "VIRTUAL" => createVirtualTable d
    | "SCHEMA" => createSchema d
    | "DATABASE" => createDatabase d
    | "ROLE" => createRole d
    | "SEQUENCE" => createSequence d g
    | "TYPE" => createType d g
    | _ => createProcedure d g

/-- Something new, as all dialects have it. -/
def createCommon : Reader Unit := do
  let replaces ← acceptKeys ["OR", "REPLACE"]
  discard (acceptKeys ["OR", "ALTER"])
  discard (acceptKey "LOCAL")
  discard (acceptKey "GLOBAL")
  discard (acceptKey "TRANSIENT")
  discard (acceptOneOf ["TEMP", "TEMPORARY"])
  if ← acceptKeys ["CONSTRAINT", "TRIGGER"] then createTrigger d g
  else
    match ← acceptOneOf ["TABLE", "MATERIALIZED", "VIEW", "POLICY", "EXTERNAL", "FUNCTION",
      "TRIGGER", "MACRO", "SECRET"] with
    | some "TABLE" => createTable d g
    | some "MATERIALIZED" => expectKey "VIEW"; createView d g
    | some "VIEW" => createView d g
    | some "POLICY" => createPolicy d g
    | some "EXTERNAL" => createExternalTable d g
    | some "FUNCTION" => createFunction d g
    | some "TRIGGER" => createTrigger d g
    | some "MACRO" => createMacro d g
    | some _ => createSecret
    | none => if replaces then expected "a table or a view" else createNew d g

/-- Something new in Snowflake: a stage, a table with clauses in any order, or what all dialects
have.  Some words in front may only stand before the first two. -/
def createSnowflake : Reader Unit := do
  let start ← get
  discard (acceptKeys ["OR", "REPLACE"])
  let ranged := (← acceptOneOf ["LOCAL", "GLOBAL"]).isSome
  let lifetime ← acceptOneOf ["TEMP", "TEMPORARY", "VOLATILE", "TRANSIENT"]
  if ← acceptKey "STAGE" then createStage d
  else if ← acceptKey "TABLE" then createSnowflakeTable d g
  else if ranged || lifetime == some "VOLATILE" || lifetime == some "TRANSIENT" then
    expected "a stage or a table"
  else
    set start
    createCommon d g

def createForm : Reader Unit := do
  match d with
  | .snowflake => createSnowflake d g
  | .postgres =>
    match ← attempt (labelTypeHead d) with
    | some _ => discard (parens (sepByOr name ")"))
    | none => createCommon d g
  | _ => createCommon d g

/-! ## Dropping -/

def dropSecret : Reader Unit := do
  ifPresent
  discard name
  discard (afterKey "FROM" anyName)

/-- Things with names that go.  Roles go without a word on what depends on them. -/
def dropNamed (kind : String) : Reader Unit := do
  ifPresent
  discard (sepBy (path d))
  if kind != "ROLE" then
    discard dependentsClause
    discard (acceptKey "PURGE")

def dropForm : Reader Unit := do
  if d == .ansi then discard (acceptKey "TEMPORARY")
  match ← expectOneOf ["TABLE", "VIEW", "INDEX", "ROLE", "SCHEMA", "DATABASE", "SEQUENCE", "STAGE",
    "TYPE", "FUNCTION", "POLICY", "PROCEDURE", "SECRET", "TRIGGER"] with
  | "FUNCTION" | "PROCEDURE" => dropRoutine d g
  | "POLICY" => dropPolicy d
  | "SECRET" => dropSecret
  | "TRIGGER" => dropTrigger d
  | kind => dropNamed d kind

end Reader

end SqlFragments
