import SqlFragments.Document.Value

/-!
# Diagnostics

A diagnostic reports what kept a result from being produced, or what may be wrong with it.  Its
code never changes, so that scripts can rely on it; its message is for people.

* `DiagnosticCode`, `Severity`, `Diagnostic`: a diagnostic and its parts
* `Diagnostic.toText`: a diagnostic on one line
* `Diagnostic.toValue`, `Diagnostic.ofValue`: a diagnostic as a document
-/

namespace SqlFragments

/-- What a diagnostic is about. -/
inductive DiagnosticCode where
  /-- SQL that cannot be read. -/
  | sqlParseError
  /-- A text without any statement. -/
  | sqlEmptyStatement
  /-- A statement that is no query. -/
  | sqlUnsupportedStatement
  /-- A selection that lacks a part. -/
  | builderIncomplete
  /-- A configuration that cannot be loaded or saved. -/
  | configError
  /-- A limit on rows that was lowered. -/
  | limitCapped
deriving DecidableEq, Repr

def DiagnosticCode.all : List DiagnosticCode :=
  [sqlParseError, sqlEmptyStatement, sqlUnsupportedStatement, builderIncomplete, configError,
   limitCapped]

def DiagnosticCode.name : DiagnosticCode → Text
  | sqlParseError => "SQL_PARSE_ERROR".toList
  | sqlEmptyStatement => "SQL_EMPTY_STATEMENT".toList
  | sqlUnsupportedStatement => "SQL_UNSUPPORTED_STATEMENT".toList
  | builderIncomplete => "BUILDER_INCOMPLETE".toList
  | configError => "CONFIG_ERROR".toList
  | limitCapped => "LIMIT_CAPPED".toList

def DiagnosticCode.ofName (s : Text) : Option DiagnosticCode :=
  all.find? fun c => c.name == s

/-- How grave a diagnostic is. -/
inductive Severity where
  /-- There is a result, but perhaps not the wanted one. -/
  | warn
  /-- There is no result. -/
  | error
deriving DecidableEq, Repr

def Severity.name : Severity → Text
  | warn => "warn".toList
  | error => "error".toList

def Severity.ofName (s : Text) : Option Severity :=
  [warn, error].find? fun v => v.name == s

def Severity.isBelowError (v : Severity) : Bool :=
  v == warn

/-- A diagnostic.  The location names the input that it is about, such as a file. -/
structure Diagnostic where
  code : DiagnosticCode
  severity : Severity
  message : Text
  location : Option Text
deriving DecidableEq, Repr

namespace Diagnostic

/-- A diagnostic of an error, without a location. -/
def ofError (code : DiagnosticCode) (message : Text) : Diagnostic :=
  ⟨code, .error, message, none⟩

/-- A diagnostic on one line. -/
def toText (d : Diagnostic) : Text :=
  let place := match d.location with
    | some source => " (".toList ++ source ++ [')']
    | none => []
  d.severity.name ++ ['['] ++ d.code.name ++ "]: ".toList ++ d.message ++ place

/-! ## Documents -/

/-- The names of the parts of a diagnostic in a document. -/
def partNames : Text × Text × Text × Text × Text :=
  ("code".toList, "severity".toList, "message".toList, "location".toList, "source".toList)

def toValue (d : Diagnostic) : Value :=
  let (code, severity, message, location, source) := partNames
  .table
    [(code, .text d.code.name), (severity, .text d.severity.name), (message, .text d.message),
     (location, match d.location with
      | some s => .table [(source, .text s)]
      | none => .null)]

/-- The input that the value of a location names: a table with a source, or a list of nothing
else. -/
def sourceOfValue : Value → Option Text
  | .table entries =>
    match Value.find entries "source".toList with
    | some (.text s) => some s
    | _ => none
  | .list [.text s] => some s
  | _ => none

/-- The location that a value stands for; `null` stands for none. -/
def locationOfValue : Value → Option (Option Text)
  | .null => some none
  | v => (sourceOfValue v).map some

/-- The diagnostic with the parts that four values stand for. -/
def ofParts (code severity message location : Value) : Option Diagnostic := do
  let code ← (code.choice Value.isNull).bind DiagnosticCode.ofName
  let severity ← (severity.choice Value.isNull).bind Severity.ofName
  let location ← locationOfValue location
  match message with
  | .text message => some ⟨code, severity, message, location⟩
  | _ => none

/-- The diagnostic that a document stands for: a table with its parts, of which the location may
be missing and others are passed over, or a list of the four parts in order. -/
def ofValue : Value → Option Diagnostic
  | .table entries => do
    let (code, severity, message, location, _) := partNames
    ofParts (← Value.find entries code) (← Value.find entries severity)
      (← Value.find entries message) ((Value.find entries location).getD .null)
  | .list [code, severity, message, location] => ofParts code severity message location
  | _ => none

end Diagnostic

end SqlFragments
