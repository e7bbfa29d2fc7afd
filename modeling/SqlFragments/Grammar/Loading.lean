import SqlFragments.Grammar.Stage

/-!
# Loading and unloading

The commands that bring rows in from files and write them out.  They are read to check them;
nothing of them is kept.

* `Reader.copyForm`: rows copied between a table and a file
* `Reader.copyIntoForm`: rows loaded from a stage
* `Reader.unloadForm`: the rows of a query written to files
-/

namespace SqlFragments

namespace Reader

variable (d : Dialect) (g : Nested)

/-! ## Copying -/

/-- A switch that is on if nothing else is said. -/
def optionalSwitch : Reader Unit :=
  discard (acceptOneOf ["TRUE", "FALSE"])

def copyOption : Reader Unit := do
  match ← expectOneOf ["FORMAT", "FREEZE", "DELIMITER", "NULL", "HEADER", "QUOTE", "ESCAPE",
    "FORCE_QUOTE", "FORCE_NOT_NULL", "FORCE_NULL", "ENCODING"] with
  | "FORMAT" => discard name
  | "FREEZE" | "HEADER" => optionalSwitch
  | "DELIMITER" | "QUOTE" | "ESCAPE" => literalChar d
  | "NULL" | "ENCODING" => discard (literalText d)
  | _ => discard names

/-- An option of a copy to or from a text with commas, in the older form. -/
def olderTextOption : Reader Unit := do
  match ← expectOneOf ["HEADER", "QUOTE", "ESCAPE", "FORCE"] with
  | "HEADER" => return
  | "FORCE" =>
    unless ← acceptKeys ["NOT", "NULL"] do expectKey "QUOTE"
    discard (sepBy name)
  | _ =>
    discard (acceptKey "AS")
    literalChar d

/-- An option of a copy in the older form, without parentheses. -/
def olderOption : Reader Unit := do
  match ← expectOneOf ["BINARY", "DELIMITER", "NULL", "CSV"] with
  | "BINARY" => return
  | "DELIMITER" =>
    discard (acceptKey "AS")
    literalChar d
  | "NULL" =>
    discard (acceptKey "AS")
    discard (literalText d)
  | _ => discard (whileSome (attempt (olderTextOption d)))

/-- Rows that are given in place, up to a backslash with a dot or to the end. -/
def rowsInPlace : Nat → Reader Unit
  | 0 => return
  | fuel + 1 => do
    match ← next with
    | none => return
    | some (.mark "\\") =>
      unless ← accept "." do
        skip 1
        rowsInPlace fuel
    | some _ => rowsInPlace fuel

/-- The rows that are copied, and whether they are those of a query. -/
def copySource : Reader Bool := do
  if ← seesMark "(" then
    discard (parens g.query)
    return true
  else
    discard (path d)
    discard optionalNames
    return false

/-- Rows copied between a table and a file.  Those of a query are only written. -/
def copyForm : Reader Unit := do
  let isQuery ← copySource d g
  let way ← expectOneOf ["FROM", "TO"]
  if isQuery && way == "FROM" then expected "TO"
  let place ← acceptOneOf ["STDIN", "STDOUT", "PROGRAM"]
  if place.isNone || place == some "PROGRAM" then discard (literalText d)
  discard (acceptKey "WITH")
  if ← seesMark "(" then discard (parens (sepBy (copyOption d)))
  discard (whileSome (attempt (olderOption d)))
  if place == some "STDIN" then
    expect ";"
    rowsInPlace ((← remaining) + 1)

/-! ## Loading from a stage -/

/-- The number of a column of a file. -/
def fileColumn : Reader Unit := do
  match ← next with
  | some (.placeholder text) =>
    let digits := text.drop 1
    unless !digits.isEmpty && digits.all Char.isDigit && decimalValue digits ≤ 0x7FFFFFFF do
      expected "file_col_num"
  | _ => expected "file_col_num"

/-- A word; what it means does not matter. -/
def anyWord : Reader Unit := do
  match ← next with
  | some (.word _) => return
  | _ => expected "identifier"

/-- A column of the files that are loaded, or a part of one. -/
def loadedColumn : Reader Unit := do
  if let some (.word _) ← peek then
    skip 1
    expect "."
  fileColumn
  if ← accept ":" then anyWord
  discard (afterKey "AS" anyWord)

/-- The stage that rows are loaded from. -/
def loadedStage : Reader Unit := do
  stageName d
  stagePlace
  discard (afterKey "AS" anyWord)

/-- Rows loaded from a stage, with or without a change on their way. -/
def copyIntoForm : Reader Unit := do
  stageName d
  expectKey "FROM"
  if ← accept "(" then
    expectKey "SELECT"
    discard (sepBy loadedColumn)
    expectKey "FROM"
    loadedStage d
    expect ")"
  else loadedStage d
  if ← acceptKey "FILES" then
    expect "="
    discard (parens (sepBy (quotedText "file token")))
  quotedTextAfter "PATTERN"
  stageFormat
  symbolAfter "VALIDATION_MODE"

/-! ## Unloading -/

/-- The first word of a query, with the parentheses in front of it. -/
def queryHead : Reader String := do
  let symbols := (← get).map Placed.symbol
  let opening := symbols.takeWhile (· == .mark "(")
  let key := (symbols.drop opening.length).head?.elim "" Symbol.key
  return String.ofList (List.replicate opening.length '(') ++ key

/-- The rows of a query written to files; the result is the text up to the first blank when the
command is written out. -/
def unloadForm : Reader String := do
  expect "("
  let head ← queryHead
  discard g.query
  expect ")"
  expectKey "TO"
  discard name
  discard (settingListAfter d g ["WITH"])
  return "UNLOAD(" ++ head

end Reader

end SqlFragments
