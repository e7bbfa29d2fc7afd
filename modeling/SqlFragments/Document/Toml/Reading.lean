import SqlFragments.Document.Toml.Scalar
import SqlFragments.Document.Toml.Table

/-!
# Reading TOML

A TOML document is a sequence of lines: entries, headers of tables, comments and blank lines.

* `Toml.value`: any value, with lists and tables within it
* `Toml.line`: a line and what it does to the tables read so far
* `Toml.read`: the names and values of a document
-/

namespace SqlFragments.Toml

/-! ## Values -/

/-- The elements of a list, up to the closing bracket; a comma may end them. -/
def listItems (item : Reader Value) : Nat → Reader (List Value)
  | 0 => failure
  | n + 1 => do
    gap
    if ← accept [']'] then return []
    let v ← item
    gap
    if ← accept [','] then return v :: (← listItems item n)
    else
      expect [']']
      return [v]

def entry (item : Reader Value) : Reader (List Text × Text × Value) := do
  let (path, name) ← keyPath
  expect ['=']
  blanks
  return (path, name, ← item)

/-- The entries of a table on one line, up to the closing brace. -/
def inlineEntries (item : Reader Value) (entries : Branches) : Nat → Reader Branches
  | 0 => failure
  | n + 1 => do
    let (path, name, v) ← entry item
    blanks
    match assign path name v false entries with
    | none => failure
    | some entries =>
      if ← accept [','] then inlineEntries item entries n
      else
        expect ['\x7d']
        return entries

/-- A table on one line, behind the opening brace. -/
def inlineTable (item : Reader Value) : Reader Value := do
  blanks
  if ← accept ['\x7d'] then return .table []
  else return .table (Branch.entriesToValue (← inlineEntries item [] (← fuel)))

/-- A value; lists and tables nest less than `n` deep in it. -/
def valueWithin : Nat → Reader Value
  | 0 => failure
  | n + 1 => do
    match ← peek with
    | some '"' | some '\'' => return .text (← quotedText)
    | some '[' =>
      modify (·.drop 1)
      if n = 0 then failure
      return .list (← listItems (valueWithin n) (← fuel))
    | some '\x7b' =>
      modify (·.drop 1)
      if n = 0 then failure
      inlineTable (valueWithin n)
    | _ => scalar

def value : Reader Value :=
  valueWithin maxDepth

/-! ## Documents -/

/-- What has been read so far: all tables, and the path of the one that entries go to. -/
structure Progress where
  entries : Branches
  path : List Text

/-- A key between brackets, up to the closing ones. -/
def header (close : Text) : Reader (List Text × Text) := do
  let key ← keyPath
  expect close
  return key

/-- What an optional result continues to; the reader fails if there is none. -/
def require {α : Type} : Option α → Reader α
  | some a => return a
  | none => failure

/-- A line, without its end, and what it does to the tables read so far. -/
def line (p : Progress) : Reader Progress := do
  blanks
  let p ← do
    match ← peek with
    | none | some '\n' | some '\r' | some '#' => pure p
    | some '[' =>
      if ← accept ['[', '['] then
        let (path, name) ← header [']', ']']
        pure ⟨← require (openRow path name p.entries), path ++ [name]⟩
      else
        modify (·.drop 1)
        let (path, name) ← header [']']
        pure ⟨← require (openTable path name p.entries), path ++ [name]⟩
    | some _ =>
      let (path, name, v) ← entry value
      let change := fun _ entries => assign path name v false entries
      pure ⟨← require (descend false change p.path false p.entries), p.path⟩
  blanks
  comment
  return p

/-- All lines of a document. -/
def lines (p : Progress) : Nat → Reader Progress
  | 0 => failure
  | n + 1 => do
    let p ← line p
    if ← lineEnd then lines p n
    else if (← get).isEmpty then return p
    else failure

/-- The names and values of a document.  A mark of the order of bytes may stand in front. -/
def read (s : Text) : Except Text (List (Text × Value)) :=
  let s := if s.head? == some '\ufeff' then s.drop 1 else s
  match (lines ⟨[], []⟩ (s.length + 1)).run s with
  | some (p, _) => .ok (Branch.entriesToValue p.entries)
  | none => .error "the document is malformed".toList

end SqlFragments.Toml
