import SqlFragments.Column.Reference
import SqlFragments.Text.LowerCase
import SqlFragments.Token.Render

/-!
# Conditions for any table alias

A condition is written against bare columns or against some alias of its own.  Before it is
attached to a joined table, its references to known columns are pointed at the placeholder `%s`,
which is then filled with the alias of the join:

    ax.salary > (SELECT AVG(by.salary) FROM emp1)
    %s.salary > (SELECT AVG(salary) FROM emp1)

Inside a subquery the outer alias does not apply, so known columns lose their qualifier there.
The `and` and `or` that join the predicates of the condition itself are written in capitals.

* `Scope`: the open parentheses and the open `between` at a place of a condition
* `redirect`: the new form of a reference to a known column
* `usePlaceholder`: a condition with its known columns behind the placeholder
* `fillPlaceholder`: the placeholder replaced by an alias
-/

namespace SqlFragments

/-- The segment that stands for the alias to come. -/
def placeholder : Text :=
  ['%', 's']

/-- A qualifier with fewer characters than this is left alone. -/
def minQualifierLength : Nat :=
  2

/-- What is open at a place of a condition: its parentheses, innermost first, each with whether
it opens a subquery; and the number of parentheses around a `between` whose `and` is yet to
come. -/
structure Scope where
  brackets : List Bool
  between : Option Nat
deriving DecidableEq, Repr

namespace Scope

def empty : Scope :=
  ⟨[], none⟩

def inSubquery (s : Scope) : Bool :=
  s.brackets.any id

/-- The scope behind a closing parenthesis: a `between` inside it no longer waits. -/
def close (s : Scope) : Scope :=
  let brackets := s.brackets.tail
  ⟨brackets, s.between.filter fun depth => depth ≤ brackets.length⟩

end Scope

/-- The new form of a reference to a known column, or none if the reference stays as it is. -/
def redirect (known : List Text) (inSubquery : Bool) (segments : List Text) :
    Option (List Text) :=
  match segments.getLast? with
  | none => none
  | some column =>
    let qualifier := segments.dropLast
    let length := (qualifier.flatMap unquote).length
    if column == ['*'] || !known.contains (Text.lower (unquote column)) then none
    else if qualifier.isEmpty && inSubquery then none
    else if !qualifier.isEmpty && length < minQualifierLength then none
    else some (if inSubquery then [column] else [placeholder, column])

/-- Whether a keyword joins two predicates. -/
def isConnectorWord (word : Text) : Bool :=
  word.sameLetters "and".toList || word.sameLetters "or".toList

/-- The new form of a keyword, and the scope behind it.  The first `and` behind a `between`, on
the same level, belongs to the `between`. -/
def recaseKeyword (scope : Scope) (word : Text) : Token × Scope :=
  if word.sameLetters "between".toList then
    (.keyword word, { scope with between := some scope.brackets.length })
  else if word.sameLetters "and".toList && scope.between == some scope.brackets.length then
    (.keyword word, { scope with between := none })
  else if !scope.inSubquery && isConnectorWord word then (.keyword word.toAsciiUpper, scope)
  else (.keyword word, scope)

/-- The new form of a token between its neighbours, and the scope behind it. -/
def redirectToken (known : List Text) (scope : Scope) (previous : Option Token) (t : Token)
    (next : Option Token) : Token × Scope :=
  match t with
  | .leftParen =>
    (t, { scope with brackets := next.any (·.isKeyword "select".toList) :: scope.brackets })
  | .rightParen => (t, scope.close)
  | .keyword word => recaseKeyword scope word
  | .identifier segments =>
    if previous.any (·.isKeyword "as".toList) then (t, scope)
    else ((redirect known scope.inSubquery segments).elim t .identifier, scope)
  | _ => (t, scope)

/-- The new forms of the tokens that follow `previous`. -/
def redirectTokens (known : List Text) (scope : Scope) (previous : Option Token) :
    List Token → List Token
  | [] => []
  | t :: rest =>
    let step := redirectToken known scope previous t rest.head?
    step.1 :: redirectTokens known step.2 (some t) rest

/-- The form in which column names are compared. -/
def knownColumn (column : Text) : Text :=
  Text.lower (unquote column.trim)

/-- A condition with its references to known columns behind the placeholder.  Without known
columns, or if blank, the condition stays as it is. -/
def usePlaceholder (columns : List Text) (condition : Text) : Text :=
  if columns.isEmpty || condition.trim.isEmpty then condition
  else render (redirectTokens (columns.map knownColumn) Scope.empty none (tokens condition))

/-- A text with every placeholder replaced by an alias. -/
def fillPlaceholder (aliasName : Text) (s : Text) : Text :=
  s.replaceAll placeholder aliasName

end SqlFragments
