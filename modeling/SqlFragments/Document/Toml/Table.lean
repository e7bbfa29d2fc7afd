import SqlFragments.Document.Value

/-!
# Tables under construction

While a TOML document is read its tables grow, and how a table came about decides what may be
added to it: a table is described once, by a header or by the keys of one section.

* `Toml.Branch`: a value or a table on its way
* `Toml.descend`: a change of the table at the end of a path
* `Toml.assign`, `Toml.openTable`, `Toml.openRow`: what an entry and the two kinds of headers do
-/

namespace SqlFragments.Toml

/-- What a name of a table stands for while the document is read. -/
inductive Branch where
  | leaf (v : Value)
  /-- A table.  It is `implied` if no header has described it, and `dotted` if the dots of a key
  have made it. -/
  | table (implied dotted : Bool) (entries : List (Text × Branch))
  /-- A list of tables, each from a header of its own. -/
  | rows (rows : List (List (Text × Branch)))

/-- The entries of a table on its way. -/
abbrev Branches := List (Text × Branch)

namespace Branch

mutual

def toValue : Branch → Value
  | leaf v => v
  | table _ _ entries => .table (entriesToValue entries)
  | rows rs => .list (rowsToValue rs)

def entriesToValue : List (Text × Branch) → List (Text × Value)
  | [] => []
  | (name, b) :: rest => (name, b.toValue) :: entriesToValue rest

def rowsToValue : List (List (Text × Branch)) → List Value
  | [] => []
  | entries :: rest => .table (entriesToValue entries) :: rowsToValue rest

end

end Branch

def lookup (name : Text) (entries : Branches) : Option Branch :=
  (entries.find? fun e => e.1 == name).map Prod.snd

/-- Entries with a new branch for a name. -/
def put (name : Text) (b : Branch) : Branches → Branches
  | [] => [(name, b)]
  | e :: rest => if e.1 = name then (name, b) :: rest else e :: put name b rest

/-- Entries with the table at the end of a path changed.  Tables on the path that are missing are
made.  The dots of a key reach no table that a header has described.  The change is told whether
dots have made the table. -/
def descend (dots : Bool) (change : Bool → Branches → Option Branches) :
    List Text → Bool → Branches → Option Branches
  | [], dotted, entries => change dotted entries
  | name :: path, _, entries =>
    match lookup name entries with
    | none => do
      let inner ← descend dots change path dots []
      return put name (.table true dots inner) entries
    | some (.leaf _) => none
    | some (.table implied dotted inner) =>
      if dots && !implied then none
      else do
        let inner ← descend dots change path dotted inner
        return put name (.table implied dotted inner) entries
    | some (.rows rows) => do
      let last ← rows.getLast?
      let last ← descend dots change path false last
      return put name (.rows (rows.dropLast ++ [last])) entries

/-- Entries with a value behind a key of one or more names.  A name is given once; dots add only
to tables that dots have made. -/
def assign (path : List Text) (name : Text) (v : Value) (dotted : Bool) (entries : Branches) :
    Option Branches :=
  descend true (fun dotted entries =>
    if dotted == path.isEmpty then none
    else if (lookup name entries).isSome then none
    else some (put name (.leaf v) entries)) path dotted entries

/-- Entries with a table described by a header. -/
def openTable (path : List Text) (name : Text) (entries : Branches) : Option Branches :=
  descend false (fun _ entries =>
    match lookup name entries with
    | none => some (put name (.table false false []) entries)
    | some (.table true false inner) => some (put name (.table false false inner) entries)
    | some _ => none) path false entries

/-- Entries with one more table in a list of tables. -/
def openRow (path : List Text) (name : Text) (entries : Branches) : Option Branches :=
  descend false (fun _ entries =>
    match lookup name entries with
    | none => some (put name (.rows [[]]) entries)
    | some (.rows rows) => some (put name (.rows (rows ++ [[]])) entries)
    | some _ => none) path false entries

end SqlFragments.Toml
