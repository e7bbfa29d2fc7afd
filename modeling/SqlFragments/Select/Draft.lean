import SqlFragments.Condition.Tree
import SqlFragments.Diagnostic
import SqlFragments.Order.Item
import SqlFragments.Select.Column

/-!
# Select statements in the making

The parts of a statement are collected in any order and written in the order of SQL's clauses.

* `SelectDraft`: the parts collected so far, with one operation for each way to add to them
* `SelectDraft.build`: the statement, if it has a table and a column
-/

namespace SqlFragments

/-- Why a draft is no statement yet. -/
inductive Incomplete where
  | noTable
  | noColumns
deriving DecidableEq, Repr

def Incomplete.message : Incomplete → Text
  | noTable => "No table to select from".toList
  | noColumns => "No columns to select".toList

def Incomplete.diagnostic (e : Incomplete) : Diagnostic :=
  .ofError .builderIncomplete e.message

/-- A named subquery in front of the statement. -/
structure NamedQuery where
  name : Text
  body : Text
deriving DecidableEq, Repr

/-- The kinds of join. -/
inductive JoinKind where
  | left
  | inner
deriving DecidableEq, Repr

/-- A joined table. -/
structure Join where
  kind : JoinKind
  table : Text
  name : Text
  on : Text
deriving DecidableEq, Repr

/-- The parts of a select statement. -/
structure SelectDraft where
  queries : List NamedQuery
  columns : List OutputColumn
  source : Option (Text × Text)
  joins : List Join
  filter : Option Condition
  groupBy : List Text
  having : Option Condition
  orderBy : List OrderItem
  limit : Option Nat
  offset : Option Nat

/-- The largest number of rows that a statement can speak of: 2^64 - 1. -/
def maxRows : Nat :=
  0xFFFFFFFFFFFFFFFF

namespace SelectDraft

def empty : SelectDraft :=
  ⟨[], [], none, [], none, [], none, [], none, none⟩

/-! ## Adding parts -/

/-- One more named subquery. -/
def withQuery (d : SelectDraft) (name body : Text) : SelectDraft :=
  { d with queries := d.queries ++ [⟨name, body⟩] }

/-- One more output column, as it is. -/
def addColumn (d : SelectDraft) (expression : Text) : SelectDraft :=
  { d with columns := d.columns ++ [⟨expression, none, none⟩] }

/-- One more output column, read from the table with the alias `source`. -/
def addColumnFrom (d : SelectDraft) (expression source : Text) : SelectDraft :=
  { d with columns := d.columns ++ [⟨expression, nonBlank source, none⟩] }

/-- One more output column, with an alias of its own. -/
def addColumnAs (d : SelectDraft) (expression source name : Text) : SelectDraft :=
  { d with columns := d.columns ++ [⟨expression, nonBlank source, nonBlank name⟩] }

/-- The table to select from, in place of any other. -/
def selectFrom (d : SelectDraft) (table name : Text) : SelectDraft :=
  { d with source := some (table, name) }

/-- One more joined table; `on` is given the alias of the table. -/
def joinTable (d : SelectDraft) (kind : JoinKind) (table name : Text) (on : Text → Text) :
    SelectDraft :=
  { d with joins := d.joins ++ [⟨kind, table, name, on name⟩] }

/-- The condition on rows, in place of any other. -/
def filterBy (d : SelectDraft) (condition : Condition) : SelectDraft :=
  { d with filter := some condition }

/-- More columns to group by; blank ones are passed over. -/
def groupOn (d : SelectDraft) (columns : List Text) : SelectDraft :=
  { d with groupBy := d.groupBy ++ columns.filter fun c => !c.trim.isEmpty }

/-- The condition on groups, in place of any other. -/
def havingAll (d : SelectDraft) (condition : Condition) : SelectDraft :=
  { d with having := some condition }

/-- One more entry of the ordering, unless its column is blank. -/
def orderOn (d : SelectDraft) (column : Text) (direction : Direction) (nulls : NullPlace) :
    SelectDraft :=
  if column.trim.isEmpty then d
  else { d with orderBy := d.orderBy ++ [⟨column.trim, direction, nulls⟩] }

/-- The entries of an ordering given as text. -/
def orderText (d : SelectDraft) (text : Text) : SelectDraft :=
  { d with orderBy := d.orderBy ++ parseOrder text }

/-- The largest number of rows, in place of any other. -/
def limitTo (d : SelectDraft) (n : Nat) : SelectDraft :=
  { d with limit := some n }

/-- The number of rows to pass over, in place of any other. -/
def skip (d : SelectDraft) (n : Nat) : SelectDraft :=
  { d with offset := some n }

/-- A limit of one row more than asked for, which tells whether there are more. -/
def limitPlusOne (d : SelectDraft) (n : Nat) : SelectDraft :=
  d.limitTo (min (n + 1) maxRows)

/-- A limit that goes no further than `max`. -/
def limitWithMax (d : SelectDraft) (requested max : Nat) : SelectDraft :=
  d.limitTo (min requested max)

end SelectDraft

/-! ## Writing the statement -/

def NamedQuery.toText (q : NamedQuery) : Text :=
  q.name ++ " as ( ".toList ++ q.body.trim ++ " )".toList

def JoinKind.toText : JoinKind → Text
  | left => "left join ".toList
  | inner => "inner join ".toList

def Join.toText (j : Join) : Text :=
  j.kind.toText ++ j.table ++ ' ' :: j.name ++ " on ".toList ++ Text.trim j.on

/-- The parts of a list behind a word; no clause for an empty list. -/
def listClause (word : String) (parts : List Text) : List Text :=
  if parts.isEmpty then [] else [word.toList ++ ' ' :: Text.join ", ".toList parts]

/-- A condition behind a word; no clause for an empty condition. -/
def conditionClause (word : String) (condition : Option Condition) : List Text :=
  match condition with
  | some c => if c.isEmpty then [] else [word.toList ++ ' ' :: c.toText]
  | none => []

/-- A number behind a word. -/
def numberClause (word : String) (n : Option Nat) : List Text :=
  match n with
  | some n => [word.toList ++ ' ' :: Nat.toDigits 10 n]
  | none => []

/-- The clause that names the table; a blank alias is left out. -/
def tableClause (table name : Text) : Text :=
  "from ".toList ++ table ++ if name.trim.isEmpty then [] else " as ".toList ++ name

namespace SelectDraft

/-- The clauses of a statement that selects from the given table, in order. -/
def clauses (d : SelectDraft) (table name : Text) : List Text :=
  listClause "with" (d.queries.map NamedQuery.toText) ++
    listClause "select" (d.columns.map OutputColumn.toText) ++
    [tableClause table name] ++
    d.joins.map Join.toText ++
    conditionClause "where" d.filter ++
    listClause "group by" (d.groupBy.map lowerKeywords) ++
    conditionClause "having" d.having ++
    listClause "order by" (d.orderBy.map OrderItem.toText) ++
    numberClause "limit" d.limit ++
    numberClause "offset" d.offset

/-- The statement.  A missing table is noticed before missing columns. -/
def build (d : SelectDraft) : Except Incomplete Text :=
  match d.source with
  | none => .error .noTable
  | some (table, name) =>
    if d.columns.isEmpty then .error .noColumns
    else .ok (Text.join [' '] (d.clauses table name))

end SelectDraft

end SqlFragments
