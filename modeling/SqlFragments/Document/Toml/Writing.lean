import SqlFragments.Document.Json
import SqlFragments.Document.Toml.Reading

/-!
# Writing TOML

A record is written with one name and its value on every line.

* `Toml.writeName`, `Toml.writeAtom`: names and values as they are written
* `Toml.write`: a record as a document
* `Toml.format`: TOML as a document format
-/

namespace SqlFragments.Toml

/-- A character within quotes: as in JSON, but the last control character of ASCII is escaped
too. -/
def escaped (c : Char) : Text :=
  if c = '\x7f' then "\\u007f".toList else Json.escaped c

/-- A text in quotes. -/
def quoted (s : Text) : Text :=
  '"' :: (s.flatMap escaped ++ ['"'])

/-- A name, in quotes if it needs them. -/
def writeName (name : Text) : Text :=
  if !name.isEmpty && name.all isNameChar then name else quoted name

def writeAtom : Atom → Text
  | .text s => quoted s
  | .number n => (if n < 0 then ['-'] else []) ++ Nat.toDigits 10 n.natAbs

/-- The line of a name and its value. -/
def writeEntry (e : Text × Atom) : Text :=
  writeName e.1 ++ " = ".toList ++ writeAtom e.2 ++ ['\n']

/-- A record as a document.  TOML has no whole numbers beyond 64 bits with a sign. -/
def write (r : Record) : Except Text Text :=
  if ∀ e ∈ r, e.2.Fits then .ok (r.flatMap writeEntry)
  else .error "the number is out of range".toList

/-- TOML as a document format. -/
def format : DocumentFormat where
  write := write
  read := read
  mismatch _ := "a value is of the wrong kind".toList

end SqlFragments.Toml
