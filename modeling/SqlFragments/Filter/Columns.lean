import SqlFragments.Column.Reference
import SqlFragments.Grammar.Tree

/-!
# Columns of a condition

The columns that the condition of a query names.  Queries inside the condition have columns of
their own and are passed over; so are the operands of the few forms that do not filter by them.

* `Expr.columns`: the bare names of the columns of an expression, in order
* `Query.filter`: the condition of the selection that a query starts with
* `sortedNames`: names in order and without repetition
* `Query.filterColumns`: the columns that a query filters by
-/

namespace SqlFragments

/-! ## Expressions -/

/-- Whether the columns of the operand count. -/
def UnaryForm.reports : UnaryForm → Bool
  | outerJoin | prior | named | field => false
  | _ => true

/-- Whether the columns of the operands count. -/
def BinaryForm.reports : BinaryForm → Bool
  | regularExpression | namedArgument => false
  | _ => true

/-- Whether the columns of the operands count. -/
def ManyForm.reports : ManyForm → Bool
  | tuple | among | between | choice | substring | trim => true
  | _ => false

/-- The bare name of the column that a chain of names refers to. -/
def pathColumn (path : List Name) : Text :=
  columnName (Text.join ['.'] (path.map Name.text))

mutual

/-- The bare names of the columns of an expression, in order. -/
def Expr.columns : Expr → List Text
  | .column path => [pathColumn path]
  | .constant => []
  | .wildcard _ => []
  | .unary form e => if form.reports then e.columns else []
  | .binary form left right => if form.reports then left.columns ++ right.columns else []
  | .many form es => if form.reports then Expr.columnsOfAll es else []
  | .call _ arguments _ => Expr.columnsOfAll arguments
  | .callOn _ _ => []
  | .exists _ => []
  | .amongRows e _ => e.columns
  | .subquery _ => []

/-- The bare names of the columns of some expressions, in order. -/
def Expr.columnsOfAll : List Expr → List Text
  | [] => []
  | e :: rest => e.columns ++ Expr.columnsOfAll rest

end

/-! ## Queries -/

mutual

/-- The condition of the selection that a query starts with, if it has one. -/
def Query.filter : Query → Option Expr
  | .mk _ body => body.filter

/-- The condition of the selection that a body starts with, if it has one: of bodies that are
combined, the first one counts. -/
def Body.filter : Body → Option Expr
  | .select _ _ filter _ => filter
  | .query q => q.filter
  | .combined left _ => left.filter
  | .values _ => none
  | .other => none

end

/-! ## Names in order -/

/-- A name put in its place among names in order, unless it is one of them already. -/
def insertName (a : Text) : List Text → List Text
  | [] => [a]
  | b :: rest =>
    if a < b then a :: b :: rest else if a = b then b :: rest else b :: insertName a rest

/-- Names in the order of their characters, each of them once. -/
def sortedNames (names : List Text) : List Text :=
  names.foldr insertName []

/-- The bare names of the columns that a query filters by, in order and each of them once. -/
def Query.filterColumns (q : Query) : List Text :=
  match q.filter with
  | some e => sortedNames e.columns
  | none => []

end SqlFragments
