import SqlFragments.Grammar.Property

/-!
# Roles, policies and rights

Roles own things, policies say which rows a role may see, and rights say what it may do.  The
commands on them are read to check them; nothing of them is kept.

* `Reader.createRole`, `Reader.alterRole`: roles and their options
* `Reader.createPolicy`, `Reader.alterPolicy`, `Reader.dropPolicy`: policies
* `Reader.grantForm`, `Reader.revokeForm`: rights given and taken away
-/

namespace SqlFragments

namespace Reader

variable (d : Dialect) (g : Nested)

/-! ## Roles -/

/-- A password, or none. -/
def password : Reader Unit := do
  unless ← acceptKey "NULL" do constant d

/-- Options of a role that are on or off, each with the words for that. -/
def roleSwitches : List (String × String) :=
  [("LOGIN", "NOLOGIN"), ("INHERIT", "NOINHERIT"), ("BYPASSRLS", "NOBYPASSRLS"),
   ("CREATEDB", "NOCREATEDB"), ("CREATEROLE", "NOCREATEROLE"), ("SUPERUSER", "NOSUPERUSER"),
   ("REPLICATION", "NOREPLICATION")]

/-- An option of a role, if one comes next; the result is its kind. -/
def roleOption : Reader (Option String) := do
  let key ← keyAt 0
  match roleSwitches.find? fun (on, off) => key == on || key == off with
  | some (kind, _) => skip 1; return some kind
  | none =>
    match ← acceptOneOf ["PASSWORD", "CONNECTION", "VALID"] with
    | some "PASSWORD" => password d; return some "PASSWORD"
    | some "CONNECTION" =>
      expectKey "LIMIT"
      amount d
      return some "CONNECTION"
    | some kind =>
      expectKey "UNTIL"
      constant d
      return some kind
    | none => return none

/-- An option of a new role, if one comes next; the result is its kind. -/
def newRoleOption : Reader (Option String) := do
  match ← roleOption d with
  | some kind => return some kind
  | none =>
    match ← acceptOneOf ["IN", "ROLE", "USER", "ADMIN"] with
    | some "IN" =>
      let kind ← expectOneOf ["ROLE", "GROUP"]
      discard (sepBy name)
      return some ("IN " ++ kind)
    | some kind =>
      discard (sepBy name)
      return some kind
    | none => return none

def createRole : Reader Unit := do
  discard ifAbsent
  discard (sepBy (path d))
  discard (acceptKey "WITH")
  if d == .postgres then
    discard (distinctClauses (newRoleOption d) [] ((← remaining) + 1))

/-- A new value of a setting of a role, behind `set`. -/
def roleSetting : Reader Unit := do
  discard (path d)
  unless ← acceptKeys ["FROM", "CURRENT"] do
    unless ← accept "=" do expectKey "TO"
    unless ← acceptKey "DEFAULT" do discard (expr g)

def alterRole : Reader Unit := do
  unless d == .postgres do expected "another kind of thing to alter"
  discard name
  discard (afterKeys ["IN", "DATABASE"] (anyPath d))
  if ← acceptKey "RENAME" then
    expectKey "TO"
    discard name
  else if ← acceptKey "SET" then roleSetting d g
  else if ← acceptKey "RESET" then
    unless ← acceptKey "ALL" do discard (path d)
  else
    discard (acceptKey "WITH")
    let options ← whileSome do return (← attempt (roleOption d)).join
    if options.isEmpty then expected "option"

/-! ## Policies -/

/-- The roles that a policy is for, and its conditions on old and new rows, as far as they are
given. -/
def policyClauses : Reader Unit := do
  discard (afterKey "TO" (sepBy name))
  discard (afterKey "USING" (parens (expr g)))
  discard (afterKeys ["WITH", "CHECK"] (parens (expr g)))

/-- A policy and the table that it guards. -/
def policyName : Reader Unit := do
  discard name
  expectKey "ON"
  discard (path d)

def createPolicy : Reader Unit := do
  policyName d
  discard (afterKey "AS" (expectOneOf ["PERMISSIVE", "RESTRICTIVE"]))
  discard (afterKey "FOR" (expectOneOf ["ALL", "SELECT", "INSERT", "UPDATE", "DELETE"]))
  policyClauses g

def alterPolicy : Reader Unit := do
  policyName d
  if ← acceptKey "RENAME" then
    expectKey "TO"
    discard name
  else policyClauses g

def dropPolicy : Reader Unit := do
  ifPresent
  policyName d
  discard dependentsClause

/-! ## Rights -/

/-- A right; a few of them may be rights on some columns only. -/
def right : Reader Unit := do
  let key ← expectOneOf ["CONNECT", "CREATE", "DELETE", "EXECUTE", "INSERT", "REFERENCES",
    "SELECT", "TEMPORARY", "TRIGGER", "TRUNCATE", "UPDATE", "USAGE"]
  if ["INSERT", "REFERENCES", "SELECT", "UPDATE"].contains key then discard optionalNames

/-- Rights, and what they are rights on. -/
def rights : Reader Unit := do
  if ← acceptKey "ALL" then discard (acceptKey "PRIVILEGES")
  else discard (sepBy right)
  expectKey "ON"
  unless ← acceptKeys ["ALL", "TABLES", "IN", "SCHEMA"] do
    unless ← acceptKeys ["ALL", "SEQUENCES", "IN", "SCHEMA"] do
      discard (acceptOneOf ["SEQUENCE", "SCHEMA", "TABLE"])
  discard (sepBy (path d))

def grantForm : Reader Unit := do
  rights d
  expectKey "TO"
  discard (sepBy name)
  discard (acceptKeys ["WITH", "GRANT", "OPTION"])
  discard (afterKeys ["GRANTED", "BY"] name)

def revokeForm : Reader Unit := do
  rights d
  expectKey "FROM"
  discard (sepBy name)
  discard (afterKeys ["GRANTED", "BY"] name)
  discard dependentsClause

end Reader

end SqlFragments
