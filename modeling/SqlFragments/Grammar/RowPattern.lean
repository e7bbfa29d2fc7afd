import SqlFragments.Grammar.Call

/-!
# Patterns of rows

A table can be searched for runs of rows that match a pattern.  A pattern is made of symbols for
rows, one after the other or as alternatives, each with a quantifier if it may repeat.

* `Reader.rowPattern`: a pattern
* `Reader.rowMatching`: a search for runs of rows
-/

namespace SqlFragments

namespace Reader

/-! ## Patterns -/

/-- How often a part of a pattern repeats, if that is said. -/
def patternQuantifier : Reader (Option Unit) := do
  if (← accept "*") || (← accept "+") then return some ()
  else if (← peek) == some (.placeholder ['?']) then skip 1; return some ()
  else if ← accept "\x7b" then
    if ← accept "," then smallNatural
    else
      smallNatural
      if ← accept "," then
        unless ← seesMark "\x7d" do smallNatural
    expect "\x7d"
    return some ()
  else return none

/-- A part of a pattern; `group` reads what stands in parentheses. -/
def patternPart (group : Reader Unit) : Reader Unit := do
  match ← peek with
  | some (.mark "^") | some (.placeholder ['$']) => skip 1
  | some (.mark "\x7b") =>
    expect "\x7b"
    expect "-"
    discard name
    expect "-"
    expect "\x7d"
  | some (.mark "(") => parens group
  | some (.word w) =>
    skip 1
    if w.quote.isNone && w.value == "PERMUTE".toList then discard names
  | _ => discard name

/-- A pattern; parentheses nest, and alternatives follow one another, at most `fuel` deep. -/
def rowPattern : Nat → Reader Unit
  | 0 => expected "a pattern"
  | fuel + 1 => do
    let part : Reader Unit := do
      patternPart (rowPattern fuel)
      discard (whileSome patternQuantifier)
    let more : Reader Bool := do
      return !(← seesMark ")") && !(← seesMark "|")
    discard (itemsWhile part more ((← remaining) + 1))
    if ← accept "|" then rowPattern fuel

/-! ## Searches -/

variable (d : Dialect) (g : Nested)

/-- Which rows come out for each match, if that is said. -/
def rowsPerMatch : Reader Unit := do
  unless ← acceptKeys ["ONE", "ROW", "PER", "MATCH"] do
    if ← acceptKeys ["ALL", "ROWS", "PER", "MATCH"] then
      unless ← acceptKeys ["SHOW", "EMPTY", "MATCHES"] do
        unless ← acceptKeys ["OMIT", "EMPTY", "MATCHES"] do
          discard (acceptKeys ["WITH", "UNMATCHED", "ROWS"])

/-- Where the search goes on behind a match, if that is said. -/
def afterMatch : Reader Unit := do
  if ← acceptKeys ["AFTER", "MATCH", "SKIP"] then
    unless ← acceptKeys ["PAST", "LAST", "ROW"] do
      unless ← acceptKeys ["TO", "NEXT", "ROW"] do
        expectKey "TO"
        discard (expectOneOf ["FIRST", "LAST"])
        discard name

/-- A search for runs of rows, behind `match_recognize`. -/
def rowMatching : Reader Unit := parens do
  discard (afterKeys ["PARTITION", "BY"] (expressions g))
  discard (optionalOrder d g)
  discard <| afterKey "MEASURES" <| sepBy do
    discard (expr g)
    discard (acceptKey "AS")
    discard name
  rowsPerMatch
  afterMatch
  expectKey "PATTERN"
  parens do rowPattern ((← remaining) + 1)
  expectKey "DEFINE"
  discard <| sepBy do
    discard name
    expectKey "AS"
    discard (expr g)

end Reader

end SqlFragments
