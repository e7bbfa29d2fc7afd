import SqlFragments.Dialect

/-!
# Statement trees

What a statement is made of, as far as columns can be found in it: expressions, queries and the
tables they read from.  Names keep their quotes; constants keep only that they are constants.

* `Name`: an identifier
* `UnaryForm`, `BinaryForm`, `ManyForm`: what an expression does with one, two or more operands
* `Expr`, `Query`, `Body`, `Source`: expressions, queries, query bodies and tables
* `Statement`: a query, or a command known by its verb

Every kind of expression that can be read in one of the dialects has an image here.  Two kinds have
none, since no dialect reads them: a function written as `x -> e`, and a method called on a value.
-/

namespace SqlFragments

/-- An identifier: its value, and the quote that encloses it. -/
structure Name where
  value : Text
  quote : Option Char
deriving DecidableEq, Repr

/-- A value between quotes, with each quote inside written twice.  A quote that a backslash
precedes, and a quote that is written twice already, stay as they are. -/
def escapeQuotes (q previous : Char) : Text → Text
  | [] => []
  | [c] => if c = q && previous != '\\' then [c, c] else [c]
  | c :: d :: rest =>
    if c = q then
      if previous = '\\' then c :: escapeQuotes q previous (d :: rest)
      else if d = q then c :: c :: escapeQuotes q c rest
      else c :: c :: escapeQuotes q c (d :: rest)
    else c :: escapeQuotes q c (d :: rest)

/-- The name as it is written.  A bracket is closed by its partner, and nothing in it is doubled. -/
def Name.text (n : Name) : Text :=
  match n.quote with
  | none => n.value
  | some '[' => '[' :: n.value ++ [']']
  | some q => q :: escapeQuotes q '\x00' n.value ++ [q]

/-- What is done with one operand. -/
inductive UnaryForm where
  /-- An operator on one side of its operand: a sign, `not`, `!` and the like. -/
  | operator (spelling : String)
  | parenthesised
  /-- `is null`, `is true`, `is false` and `is unknown`, each with or without `not`. -/
  | test (words : String)
  /-- `cast(e as t)`, `try_cast`, `safe_cast` and `e::t`. -/
  | cast
  /-- `e collate c`. -/
  | collation
  /-- `extract(f from e)`. -/
  | extract
  /-- `ceil(e)`, also to a field of a date or to some digits. -/
  | ceiling
  /-- `floor(e)`, also to a field of a date or to some digits. -/
  | floor
  /-- `interval e` with its units. -/
  | interval
  /-- The side of an outer join, written `(+)`. -/
  | outerJoin
  /-- The row above, in a hierarchy. -/
  | prior
  /-- A value with a name, in a struct. -/
  | named
  /-- A field of a composite value, `(e).f`. -/
  | field
deriving DecidableEq, Repr

/-- What is done with two operands. -/
inductive BinaryForm where
  /-- An operator between its operands, `and`, `or` and `xor` among them. -/
  | operator (spelling : String)
  /-- `is distinct from`, negated or not. -/
  | distinct
  /-- A comparison with `any`, `some` or `all` elements. -/
  | quantified
  /-- `position(a in b)`. -/
  | position
  /-- `e at time zone z`. -/
  | timeZone
  /-- `e in unnest(a)`. -/
  | unnest
  /-- The argument of a call, and the expression that names it. -/
  | namedArgument
  /-- A match with a pattern of `like`, `ilike` or `similar to`. -/
  | pattern
  /-- A match with a regular expression, `regexp` or `rlike`. -/
  | regularExpression
deriving DecidableEq, Repr

/-- What is done with any number of operands. -/
inductive ManyForm where
  | tuple
  /-- A value and the list that it is looked for in. -/
  | among
  /-- A value and the two ends of a range. -/
  | between
  /-- The operand, the alternative, the conditions and the results of a `case`. -/
  | choice
  /-- `substring(e from a for b)`, also with commas. -/
  | substring
  /-- `trim(a from e)`, also with commas. -/
  | trim
  /-- `overlay(e placing r from a for b)`. -/
  | overlay
  /-- `convert(e, t)` and `convert(e using c)`. -/
  | conversion
  /-- The elements of `[…]`, with or without `array` in front. -/
  | array
  | struct
  /-- Names or keys with their values, between braces. -/
  | dictionary
  /-- A container and the positions in it, or the keys of nested values. -/
  | subscript
  /-- A document and the expressions of a path in it. -/
  | path
  /-- `grouping sets`, `cube` and `rollup`. -/
  | grouping
deriving DecidableEq, Repr

mutual

/-- An expression. -/
inductive Expr where
  /-- A reference to a column, by one or more names. -/
  | column (path : List Name)
  /-- A literal, also with a type or a character set in front; a placeholder; or a search for a text
  in columns by `match … against`, whose columns are names only. -/
  | constant
  /-- All columns, or all columns of a table. -/
  | wildcard (path : List Name)
  | unary (form : UnaryForm) (operand : Expr)
  | binary (form : BinaryForm) (left right : Expr)
  | many (form : ManyForm) (operands : List Expr)
  /-- A call.  The clauses are the expressions that stand with the arguments but are none:
  orderings, filters, windows, parameters. -/
  | call (name : List Name) (arguments clauses : List Expr)
  /-- A call whose argument is a query. -/
  | callOn (name : List Name) (query : Query)
  | exists (query : Query)
  /-- A value and the query that it is looked for in. -/
  | amongRows (operand : Expr) (query : Query)
  | subquery (query : Query)

/-- A query: the queries it names in front, and its body. -/
inductive Query where
  | mk (named : List Query) (body : Body)

/-- The body of a query. -/
inductive Body where
  /-- The output columns, the tables, the condition on rows if there is one, and the expressions
  of the other clauses. -/
  | select (columns : List Expr) (sources : List Source) (filter : Option Expr)
      (clauses : List Expr)
  | query (query : Query)
  /-- Two bodies joined by a set operation. -/
  | combined (left right : Body)
  | values (rows : List Expr)
  /-- A table or a command in place of a query. -/
  | other

/-- What a query reads from. -/
inductive Source where
  | table (name : List Name)
  | rows (query : Query)
  /-- A table made from expressions. -/
  | made (arguments : List Expr)
  | joined (left : Source) (rights : List Source) (conditions : List Expr)

end

/-- A statement. -/
inductive Statement where
  | query (q : Query)
  /-- Any other statement, by the word that it starts with. -/
  | command (verb : String)

end SqlFragments
