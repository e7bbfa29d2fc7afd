import SqlFragments.Grammar.Constant
import SqlFragments.Grammar.Nested

/-!
# Properties

Tables, columns, sequences and the like have properties, which stand behind their names.  They
are read to check them; nothing of them is kept.

* `Reader.distinctClauses`: clauses in any order, none of them twice
* `Reader.settingList`, `Reader.settingListAfter`: settings with their values
* `Reader.sequenceProperties`: the properties of a sequence
* `Reader.constraintTiming`, `Reader.references`: when a constraint holds, and what it refers to
* `Reader.columnProperty`, `Reader.columnProperties`: the properties of a column
-/

namespace SqlFragments

namespace Reader

variable (d : Dialect) (g : Nested)

/-! ## Clauses in general -/

/-- Clauses in any order, each kind at most once.  `clause` yields the kind of the clause that it
has read, or nothing if none follows; the kinds in `met` have been met already. -/
def distinctClauses (clause : Reader (Option String)) (met : List String) :
    Nat → Reader (List String)
  | 0 => return met
  | fuel + 1 => do
    match ← clause with
    | none => return met
    | some kind =>
      if met.contains kind then expected "each clause once at most"
      else distinctClauses clause (kind :: met) fuel

/-- What becomes of the things that depend on one that goes, if that is said. -/
def dependentsClause : Reader (Option String) :=
  acceptOneOf ["CASCADE", "RESTRICT"]

/-- The guard that nothing happens if a thing is there already; whether it is given. -/
def ifAbsent : Reader Bool :=
  acceptKeys ["IF", "NOT", "EXISTS"]

/-- The guard that nothing happens if a thing is not there. -/
def ifPresent : Reader Unit :=
  discard (acceptKeys ["IF", "EXISTS"])

/-- The cluster of servers that a command runs on, if it is given. -/
def onCluster : Reader Unit :=
  discard (afterKeys ["ON", "CLUSTER"] name)

/-! ## Settings with values -/

/-- The columns that a table is clustered by, from the keyword on. -/
def clusteredSetting : Reader Unit := do
  if ← acceptKeys ["CLUSTERED", "COLUMNSTORE", "INDEX", "ORDER"] then discard names
  else if ← acceptKeys ["CLUSTERED", "COLUMNSTORE", "INDEX"] then return
  else
    expectKeys ["CLUSTERED", "INDEX"]
    parens <| discard <| sepBy do
      discard name
      discard (acceptOneOf ["ASC", "DESC"])

/-- The ranges of values that a table is parted by, behind the keyword. -/
def rangeSetting : Reader Unit := parens do
  discard name
  expectKey "RANGE"
  discard (acceptOneOf ["LEFT", "RIGHT"])
  expectKeys ["FOR", "VALUES"]
  discard (parens (expressions g))

/-- A setting: a name with its value, or one of a few forms that lay out a table. -/
def setting : Reader Unit := do
  let key ← if d == .ansi then keyAt 0 else pure ""
  match key with
  | "HEAP" => skip 1
  | "PARTITION" => skip 1; rangeSetting g
  | "CLUSTERED" => clusteredSetting
  | _ =>
    discard name
    expect "="
    discard (expr g)

def settingList : Reader Unit :=
  parens (discard (sepBy (setting d g)))

/-- Settings between parentheses behind some keywords, if these come next; whether they do. -/
def settingListAfter (keys : List String) : Reader Bool := do
  return (← afterKeys keys (settingList d g)).isSome

/-- A tag: a name with a text. -/
def tag : Reader Unit := do
  discard name
  expect "="
  discard (literalText d)

/-! ## Sequences -/

/-- The properties of a sequence, in their order. -/
def sequenceProperties : Reader Unit := do
  if ← acceptKey "INCREMENT" then
    discard (acceptKey "BY")
    signedAmount d
  if ← acceptKey "MINVALUE" then signedAmount d else discard (acceptKeys ["NO", "MINVALUE"])
  if ← acceptKey "MAXVALUE" then signedAmount d else discard (acceptKeys ["NO", "MAXVALUE"])
  if ← acceptKey "START" then
    discard (acceptKey "WITH")
    signedAmount d
  if ← acceptKey "CACHE" then signedAmount d
  unless ← acceptKeys ["NO", "CYCLE"] do discard (acceptKey "CYCLE")

/-- The properties of the sequence that numbers the rows, if they are given. -/
def optionalSequence : Reader Unit := do
  if ← seesMark "(" then parens (sequenceProperties d)

/-! ## Constraints -/

/-- What a change of a row does to the rows that refer to it. -/
def referenceAction : Reader Unit := do
  unless ← acceptKeys ["SET", "NULL"] do
    unless ← acceptKeys ["SET", "DEFAULT"] do
      unless ← acceptKeys ["NO", "ACTION"] do
        discard (expectOneOf ["RESTRICT", "CASCADE"])

/-- What happens when a row that is referred to goes or changes, each of them said once at most. -/
def referenceActions : Reader Unit := do
  let onDelete : Reader Bool := do
    return (← afterKeys ["ON", "DELETE"] referenceAction).isSome
  let onUpdate : Reader Bool := do
    return (← afterKeys ["ON", "UPDATE"] referenceAction).isSome
  if ← onDelete then discard onUpdate
  else if ← onUpdate then discard onDelete

/-- One word on when a constraint is checked, given whether its deferral, its start and its
enforcement are known; what is known then, or nothing if no such word follows. -/
def timingWord (deferral start enforcement : Bool) : Reader (Option (Bool × Bool × Bool)) := do
  let deferred ←
    if deferral then pure false
    else if ← acceptKeys ["NOT", "DEFERRABLE"] then pure true
    else acceptKey "DEFERRABLE"
  if deferred then return some (true, start, enforcement)
  let initial ← if start then pure false else acceptKey "INITIALLY"
  if initial then
    discard (expectOneOf ["DEFERRED", "IMMEDIATE"])
    return some (deferral, true, enforcement)
  let enforced ←
    if enforcement then pure false
    else if ← acceptKey "ENFORCED" then pure true
    else acceptKeys ["NOT", "ENFORCED"]
  if enforced then return some (deferral, start, true)
  else return none

/-- When a constraint is checked, if that is said; nothing is said twice. -/
def constraintTiming : Reader Unit := do
  if let some (a, b, c) ← timingWord false false false then
    if let some (a, b, c) ← timingWord a b c then
      discard (timingWord a b c)

/-- The table that a column refers to, behind `references`. -/
def references : Reader Unit := do
  discard (path d)
  discard optionalNames
  referenceActions
  constraintTiming

/-! ## Columns -/

/-- The number that the rows of a column start from, and its increment, if they are given. -/
def optionalNumbering : Reader Unit := do
  if ← seesMark "(" then
    parens do
      signedAmount d
      expect ","
      signedAmount d

/-- How a column numbers its rows, behind the keyword. -/
def numbering : Reader Unit := do
  if ← seesMark "(" then optionalNumbering d
  else if ← acceptKey "START" then
    signedAmount d
    expectKey "INCREMENT"
    signedAmount d
  discard (acceptOneOf ["ORDER", "NOORDER"])

/-- The policy that guards a column, behind its kind. -/
def columnPolicy : Reader Unit := do
  discard name
  discard (afterKey "USING" names)

/-- A property that only Snowflake has, if one comes next. -/
def snowflakeProperty : Reader Bool := do
  let start ← get
  discard (acceptKey "WITH")
  if (← acceptOneOf ["IDENTITY", "AUTOINCREMENT"]).isSome then numbering d; return true
  else if ← acceptKeys ["MASKING", "POLICY"] then columnPolicy; return true
  else if ← acceptKeys ["PROJECTION", "POLICY"] then columnPolicy; return true
  else if ← acceptKey "TAG" then discard (parens (sepBy (tag d))); return true
  else
    set start
    return false

/-- How the values of a column come about, behind `generated`; whether that is said. -/
def generation : Reader Bool := do
  if ← acceptKeys ["ALWAYS", "AS", "IDENTITY"] then optionalSequence d; return true
  else if ← acceptKeys ["BY", "DEFAULT", "AS", "IDENTITY"] then optionalSequence d; return true
  else if ← acceptKeys ["ALWAYS", "AS"] then
    if ← seesMark "(" then
      discard (parens (expr g))
      if d == .postgres then expectKey "STORED"
      else discard (acceptOneOf ["STORED", "VIRTUAL"])
      return true
    else return false
  else return false

/-- The properties that start with a word which only some dialects know in this place.  In the
others the word is passed over, and the property that follows it counts. -/
def laterProperty : Reader Bool := do
  let known := d == .ansi
  if (← acceptKey "AUTO_INCREMENT") && known then return true
  if (← acceptKey "AUTOINCREMENT") && known then return true
  if (← acceptKey "ASC") && known then return true
  if (← acceptKey "DESC") && known then return true
  if (← acceptKeys ["ON", "UPDATE"]) && known then discard (expr g); return true
  if ← acceptKey "GENERATED" then return ← generation d g
  if d == .bigQuery || d == .ansi then
    if ← settingListAfter d g ["OPTIONS"] then return true
  if (← acceptKey "AS") && known then
    discard (parens (expr g))
    discard (acceptOneOf ["STORED", "VIRTUAL"])
    return true
  if (← acceptKey "IDENTITY") && known then optionalNumbering d; return true
  if known then
    if ← acceptKeys ["ON", "CONFLICT"] then
      discard (expectOneOf ["ROLLBACK", "ABORT", "FAIL", "IGNORE", "REPLACE"])
      return true
  return false

/-- A property of a column that is made from an expression, if one comes next. -/
def computedProperty : Reader Bool := do
  if ← acceptKey "DEFAULT" then discard (expr g); return true
  else if d != .ansi then return false
  else if (← acceptOneOf ["MATERIALIZED", "ALIAS"]).isSome then discard (expr g); return true
  else if ← acceptKey "EPHEMERAL" then
    unless (← seesMark ",") || (← seesMark ")") do discard (expr g)
    return true
  else return false

def columnProperty : Reader Bool := do
  if d == .snowflake then
    if ← snowflakeProperty d then return true
  if ← acceptKeys ["CHARACTER", "SET"] then discard (path d); return true
  else if ← acceptKeys ["NOT", "NULL"] then return true
  else if ← acceptKey "COMMENT" then quotedText "string"; return true
  else if ← acceptKey "NULL" then return true
  else if ← computedProperty d g then return true
  else if ← acceptKeys ["PRIMARY", "KEY"] then constraintTiming; return true
  else if ← acceptKey "UNIQUE" then constraintTiming; return true
  else if ← acceptKey "REFERENCES" then references d; return true
  else if ← acceptKey "CHECK" then discard (parens (expr g)); return true
  else laterProperty d g

/-- The properties of a column of a new table; a constraint among them may have a name. -/
def columnProperties : Reader Unit :=
  discard <| whileSome do
    if ← acceptKey "CONSTRAINT" then
      discard name
      unless ← columnProperty d g do expected "constraint details after CONSTRAINT"
      return some ()
    else if ← columnProperty d g then return some ()
    else if ← acceptKeyIf (d == .snowflake || d == .ansi) "COLLATE" then
      discard (path d)
      return some ()
    else return none

end Reader

end SqlFragments
