import SqlFragments.Diagnostic
import SqlFragments.Filter.Columns
import SqlFragments.Grammar.Script

/-!
# Reports on a text

What can be said of a text of SQL: the statements in it, and the columns that its first statement
filters by; or why nothing can be said.

* `ScriptError`: a text that cannot be read
* `FilterError`: why there are no columns to report
* `filterColumnsOf`: the columns that the first statement of a text filters by
-/

namespace SqlFragments

/-- A text that cannot be read: why, and where the text came from if that is known. -/
structure ScriptError where
  cause : SyntaxError
  source : Option Text

namespace ScriptError

/-- What the reader of statements says of the error. -/
def detail (e : ScriptError) : Text :=
  "sql parser error: ".toList ++ e.cause.message.toList

def message (e : ScriptError) : Text :=
  "SQL parse error: ".toList ++ e.detail

def diagnostic (e : ScriptError) : Diagnostic :=
  ⟨.sqlParseError, .error, "Failed to parse SQL: ".toList ++ e.detail, e.source⟩

end ScriptError

/-- The statements of a text that came from `source`. -/
def readScript (d : Dialect) (sql : Text) (source : Option Text) :
    Except ScriptError (List Statement) :=
  match Statement.script d sql with
  | .ok statements => .ok statements
  | .error cause => .error ⟨cause, source⟩

/-- Whether the first of some statements is a query. -/
def startsWithQuery : List Statement → Bool
  | .query _ :: _ => true
  | _ => false

/-- Why there are no columns to report. -/
inductive FilterError where
  | emptyStatement
  | parse (e : ScriptError)
  /-- The first statement is no query; `verb` is the word that it starts with. -/
  | unsupported (verb : String)

namespace FilterError

def message : FilterError → Text
  | emptyStatement => "No SQL statement to extract from".toList
  | parse e => e.message
  | unsupported verb => "Not a query: ".toList ++ verb.toList

def diagnostic : FilterError → Diagnostic
  | parse e => e.diagnostic
  | emptyStatement => .ofError .sqlEmptyStatement emptyStatement.message
  | unsupported verb => .ofError .sqlUnsupportedStatement (unsupported verb).message

end FilterError

/-- The bare names of the columns that the first of some statements filters by. -/
def firstFilterColumns : List Statement → Except FilterError (List Text)
  | [] => .error .emptyStatement
  | .query q :: _ => .ok q.filterColumns
  | .command verb :: _ => .error (.unsupported verb)

/-- The bare names of the columns that the first statement of a text filters by, in order and each
of them once. -/
def filterColumnsOf (d : Dialect) (sql : Text) : Except FilterError (List Text) :=
  if Text.isBlank sql then .error .emptyStatement
  else
    match readScript d sql none with
    | .ok statements => firstFilterColumns statements
    | .error e => .error (.parse e)

end SqlFragments
