import SqlFragments.Grammar.Property

/-!
# Type names

Types stand in casts, in column definitions, and in front of texts that are constants of a type.
A type is read to its end; of what it says, only its kind is kept.

* `TypeKind`: a standard type, an interval, or a type with a name of its own
* `Reader.typeName`: a type
* `Reader.columnDefinition`: a column with its type and its properties
-/

namespace SqlFragments

/-- The kinds of types. -/
inductive TypeKind where
  | standard
  | interval
  | custom
deriving DecidableEq, Repr

namespace Reader

variable (d : Dialect) (g : Nested)

/-! ## Types without inner types -/

/-- One or two numbers between parentheses, if any. -/
def optionalPrecision (most : Nat) : Reader Unit := do
  if ← accept "(" then
    natural
    if most > 1 then
      if ← accept "," then natural
    expect ")"

/-- The length of a type of texts, if it is given. -/
def optionalLength : Reader Unit := do
  if ← accept "(" then
    unless ← acceptKey "MAX" do
      natural
      discard (acceptOneOf ["CHARACTERS", "OCTETS"])
    expect ")"

/-- Whether a type of times has a time zone, if that is said. -/
def optionalTimeZone : Reader Unit := do
  if (← acceptOneOf ["WITH", "WITHOUT"]).isSome then expectKeys ["TIME", "ZONE"]

/-- The texts that a value is one of, each with a number if it is given. -/
def members : Reader Unit :=
  parens <| discard <| sepBy do
    discard (literalText d)
    if ← accept "=" then signedAmount d

/-- Words, numbers and texts between the parentheses behind a type of its own name. -/
def modifiers : Nat → Reader Unit
  | 0 => expected "type modifiers"
  | fuel + 1 => do
    match ← next with
    | some (.mark ")") => return
    | some (.mark ",") | some (.word _) | some (.number _ _) | some (.quoted .single _) =>
      modifiers fuel
    | _ => expected "type modifiers"

/-- Types written as one word, and those with a length or a precision behind it. -/
def plainTypes : List String :=
  ["BOOLEAN", "BOOL", "REAL", "FLOAT4", "FLOAT32", "FLOAT64", "FLOAT8", "INT16", "INT32", "INT64",
   "INT128", "INT256", "UINT8", "UINT16", "UINT32", "UINT64", "UINT128", "UINT256", "TINYBLOB",
   "MEDIUMBLOB", "LONGBLOB", "UUID", "DATE", "DATE32", "JSON", "JSONB", "REGCLASS", "TEXT",
   "TINYTEXT", "MEDIUMTEXT", "LONGTEXT", "BYTEA", "TRIGGER"]

/-- Types with one number between parentheses at most. -/
def preciseTypes : List String :=
  ["FLOAT", "CLOB", "BINARY", "VARBINARY", "BLOB", "BYTES", "DATETIME", "TIMESTAMPTZ", "TIMETZ",
   "STRING"]

def integerTypes : List String :=
  ["TINYINT", "INT2", "SMALLINT", "MEDIUMINT", "INT", "INT4", "INT8", "INTEGER", "BIGINT"]

def decimalTypes : List String :=
  ["NUMERIC", "DECIMAL", "DEC", "BIGNUMERIC", "BIGDECIMAL"]

/-- A standard type that starts with the given word, if there is one without inner types. -/
def simpleType (key : String) : Reader Bool := do
  if plainTypes.contains key then return true
  else if preciseTypes.contains key then optionalPrecision 1; return true
  else if integerTypes.contains key then
    optionalPrecision 1
    discard (acceptKey "UNSIGNED")
    return true
  else if decimalTypes.contains key then optionalPrecision 2; return true
  else if key == "DOUBLE" then discard (acceptKey "PRECISION"); return true
  else if key == "VARCHAR" || key == "NVARCHAR" then optionalLength; return true
  else if key == "CHAR" || key == "CHARACTER" then
    if ← acceptKey "VARYING" then optionalLength
    else if ← acceptKeys ["LARGE", "OBJECT"] then optionalPrecision 1
    else optionalLength
    return true
  else if key == "BIT" then
    discard (acceptKey "VARYING")
    optionalPrecision 1
    return true
  else if key == "TIMESTAMP" || key == "TIME" then
    optionalPrecision 1
    optionalTimeZone
    return true
  else if key == "DATETIME64" then
    parens do
      natural
      if ← accept "," then discard (literalText d)
    return true
  else if key == "FIXEDSTRING" then parens natural; return true
  else if key == "ENUM" || key == "ENUM8" || key == "ENUM16" then members d; return true
  else if key == "SET" then
    parens (discard (sepBy (quotedText "a string")))
    return true
  else return false

/-- A type of its own name, with what stands in parentheses behind it. -/
def customType : Reader TypeKind := do
  discard (path d)
  if ← accept "(" then modifiers ((← remaining) + 1)
  return .custom

/-! ## Structs -/

/-- The bracket `>` that ends a type, unless the `>>` of an inner type has ended it already; the
result tells whether a `>` is left over. -/
def closeAngle (already : Bool) : Reader Bool := do
  if already then return false
  else if ← accept ">" then return false
  else if ← accept ">>" then return true
  else expected ">"

/-- The fields of a struct.  A field may leave a `>` over only if it is the last one. -/
def structFields (field : Reader Bool) : Nat → Reader Bool
  | 0 => expected "the end of the fields"
  | fuel + 1 => do
    let left ← field
    if ← accept "," then
      if left then expected ">" else structFields field fuel
    else return left

/-- A field of a struct: its name, which may be missing, and its type; whether a `>` is left
over. -/
def structField (type : Reader Bool) : Reader Bool := do
  match ← peekAt 0, ← peekAt 1 with
  | some (.word _), some (.word _) => discard name
  | _, _ => pure ()
  type

/-- The fields of a struct between angle brackets, if they are given; whether a `>` is left over
behind them. -/
def structFieldList (type : Reader Bool) : Reader (Option Bool) := do
  if ← accept "<" then
    let left ← structFields (structField type) ((← remaining) + 1)
    return some (← closeAngle left)
  else return none

/-! ## Types and columns -/

/-- A column of a table, whose type is read by `type`. -/
def columnDefinitionWith (type : Reader Unit) : Reader Unit := do
  discard name
  type
  if ← acceptKey "COLLATE" then discard (path d)
  columnProperties d g

/-- A standard type that starts with the given word and may have inner types; `type` reads these,
and tells whether a `>` is left over.  Nothing if there is no such type. -/
def compoundType (type : Reader Bool) (key : String) : Reader (Option Bool) := do
  let whole : Reader Unit := do
    if ← type then expected "a data type"
  let wide := d == .ansi
  match key with
  | "ARRAY" =>
    if d == .snowflake then return some false
    else
      expect "<"
      return some (← closeAngle (← type))
  | "STRUCT" =>
    if d == .bigQuery || wide then return some ((← structFieldList type).getD false)
    else return none
  | "UNION" =>
    if wide then
      parens <| discard <| sepBy do
        discard name
        whole
      return some false
    else return none
  | "NULLABLE" | "LOWCARDINALITY" =>
    if wide then parens whole; return some false else return none
  | "MAP" =>
    if wide then
      parens do whole; expect ","; whole
      return some false
    else return none
  | "TUPLE" =>
    if wide then
      parens (discard (sepBy (structField type)))
      return some false
    else return none
  | "NESTED" =>
    if wide then
      parens (discard (sepBy (columnDefinitionWith d g whole)))
      return some false
    else return none
  | _ => return none

/-- The brackets that make an array of a type, if any. -/
def arrayBrackets : Reader Bool := do
  let brackets ← whileSome do
    if ← accept "[" then
      unless d == .bigQuery || d == .snowflake do discard (attempt natural)
      expect "]"
      return some ()
    else return none
  return !brackets.isEmpty

/-- A type, and whether a `>` of its last `>>` is left over; inner types lie at most `fuel`
deep. -/
def typeWithin : Nat → Reader (TypeKind × Bool)
  | 0 => expected "a data type name"
  | fuel + 1 => do
    let key ← keyAt 0
    match ← peek with
    | some (.word _) => pure ()
    | _ => expected "a data type name"
    let start ← get
    skip 1
    let (kind, left) ←
      if key == "INTERVAL" then pure (TypeKind.interval, false)
      else if ← simpleType d key then pure (.standard, false)
      else
        match ← compoundType d g (do return (← typeWithin fuel).2) key with
        | some left => pure (.standard, left)
        | none => do
          set start
          pure (← customType d, false)
    return (if ← arrayBrackets d then .standard else kind, left)

def typeName : Reader TypeKind := do
  let (kind, left) ← typeWithin d g ((← remaining) + 1)
  if left then expected "a data type" else return kind

def columnDefinition : Reader Unit :=
  columnDefinitionWith d g (discard (typeName d g))

end Reader

end SqlFragments
