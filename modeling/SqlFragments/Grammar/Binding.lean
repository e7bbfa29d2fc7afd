import SqlFragments.Grammar.Reader

/-!
# Binding strengths

How tightly the operators hold their operands.  The dialect of PostgreSQL has an order of its
own; all others share one.

* `Binding`, `Dialect.strength`: the classes of operators and their strengths
* `Reader.strengthAhead`: the strength of the operator that comes next
-/

namespace SqlFragments

/-- Classes of operators that bind equally. -/
inductive Binding where
  | or
  | and
  | not
  | is
  | like
  | between
  | equality
  | other
  | pipe
  | caret
  | ampersand
  | xor
  | sum
  | product
  | timeZone
  | collation
  | bracket
  | cast
deriving DecidableEq, Repr

def Dialect.strength (d : Dialect) (b : Binding) : Nat :=
  if d = .postgres then
    match b with
    | .or => 10
    | .and => 20
    | .not => 30
    | .is => 40
    | .equality => 50
    | .between | .like => 60
    | .other | .pipe | .ampersand => 70
    | .xor => 75
    | .sum => 80
    | .product => 90
    | .caret => 100
    | .timeZone => 110
    | .collation => 120
    | .bracket => 130
    | .cast => 140
  else
    match b with
    | .or => 5
    | .and => 10
    | .not => 15
    | .other => 16
    | .is => 17
    | .like => 19
    | .between | .equality => 20
    | .pipe => 21
    | .caret => 22
    | .ampersand => 23
    | .xor => 24
    | .sum => 30
    | .product => 40
    | .timeZone => 41
    | .collation | .bracket | .cast => 50

/-- The class of an operator written as a mark. -/
def markBinding (d : Dialect) (m : String) : Option Binding :=
  if ["=", "<", "<=", "<>", ">", ">=", "==", "~", "~*", "!~", "!~*", "~~", "~~*", "!~~", "!~~*",
      "<=>"].contains m then some .equality
  else if m == "|" then some .pipe
  else if m == "&" then some .ampersand
  else if m == "^" then some .caret
  else if m == "+" || m == "-" then some .sum
  else if ["*", "/", "//", "%"].contains m then some .product
  else if m == "::" then some .cast
  else if m == "[" then some .bracket
  else if m == "||" then some (if d == .postgres then .other else .product)
  else if ["#", ">>", "<<"].contains m then some (if d == .postgres then .other else .caret)
  else if ["!", "&&", "^@"].contains m then some (if d == .postgres then .other else .cast)
  else if m == ":" then if d == .snowflake then some .cast else none
  else if ["->", "->>", "#>", "#>>", "@>", "<@", "#-", "@?", "@@", "?", "?&", "?|"].contains m then
    some .other
  else none

/-- Whether a keyword starts a match with a pattern. -/
def isPatternKey (key : String) : Bool :=
  ["LIKE", "ILIKE", "RLIKE", "REGEXP", "SIMILAR"].contains key

/-- The class of an operator written as a word, given the words behind it. -/
def keyBinding (d : Dialect) (key second third : String) : Option Binding :=
  match key with
  | "OR" => some .or
  | "AND" => some .and
  | "XOR" => some .xor
  | "AT" => if second == "TIME" && third == "ZONE" then some .timeZone else none
  | "NOT" =>
    if second == "IN" || second == "BETWEEN" then some .between
    else if isPatternKey second then some .like
    else none
  | "IS" => some .is
  | "IN" | "BETWEEN" | "OPERATOR" => some .between
  | "DIV" => some .product
  | "COLLATE" => if d == .postgres then some .collation else none
  | key => if isPatternKey key then some .like else none

namespace Reader

/-- The strength of the operator that comes next; 0 if none does. -/
def strengthAhead (d : Dialect) : Reader Nat := do
  let binding ← match ← peek with
    | some (.word w) => pure (keyBinding d w.key (← keyAt 1) (← keyAt 2))
    | some (.mark m) => pure (markBinding d m)
    | some (.custom _) => pure (some .other)
    | _ => pure none
  return (binding.map d.strength).getD 0

end Reader

end SqlFragments
