import SqlFragments.Text.Basic

/-!
# Column lists

Column lists are written one expression to a line, usually with a comma at the end of the line.
Parentheses are not looked at: an expression on several lines is several entries.

* `splitLines`: a text cut at its line feeds
* `listedColumn`: the expression that a line holds
* `splitColumns`: the expressions of a list
-/

namespace SqlFragments

/-- A text cut at its line feeds. -/
def splitLines : Text → List Text
  | [] => [[]]
  | c :: rest =>
    if c = '\n' then [] :: splitLines rest
    else
      match splitLines rest with
      | line :: more => (c :: line) :: more
      | [] => [[c]]

/-- A line without the white space around it and without one comma at its end. -/
def listedColumn (line : Text) : Text :=
  let trimmed := line.trim
  if trimmed.getLast? == some ',' then Text.trimEnd trimmed.dropLast else trimmed

/-- The expressions of a column list; lines that hold none are passed over. -/
def splitColumns (s : Text) : List Text :=
  ((splitLines s).map listedColumn).filter fun column => !column.isEmpty

end SqlFragments
