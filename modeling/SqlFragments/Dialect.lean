import SqlFragments.Text.Basic

/-!
# Dialects

The dialects of SQL that statements can be read in.

* `Dialect`, `Dialect.name`: a dialect and its name
* `Dialect.parse`: the dialect that a text names
-/

namespace SqlFragments

/-- A dialect of SQL. -/
inductive Dialect where
  | bigQuery
  | snowflake
  | postgres
  /-- The general dialect, which takes the syntax of the others wherever it can. -/
  | ansi
deriving DecidableEq, Repr

namespace Dialect

/-- The name of a dialect in a configuration. -/
def name : Dialect → Text
  | bigQuery => "bigquery".toList
  | snowflake => "snowflake".toList
  | postgres => "postgres".toList
  | ansi => "ansi".toList

/-- The dialect with exactly the given name. -/
def ofName (s : Text) : Option Dialect :=
  [bigQuery, snowflake, postgres, ansi].find? fun d => d.name == s

/-- The dialect that a text names, white space around it and the case of its ASCII letters
aside; two dialects have a second name.  The error is the name that no dialect has. -/
def parse (s : Text) : Except Text Dialect :=
  let word := s.trim.toAsciiLower
  if word = "postgresql".toList then .ok postgres
  else if word = "generic".toList then .ok ansi
  else
    match ofName word with
    | some d => .ok d
    | none => .error word

end Dialect

end SqlFragments
