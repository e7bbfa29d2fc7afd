import SqlFragments.Text.Basic

/-!
# Document values

The values that structured documents are made of, whichever format they are written in, and how a
choice among names is read from them.

* `Value`: a value of a document
* `Value.find`: the value behind a name in a table
* `Value.choice`: a name that a value chooses
-/

namespace SqlFragments

/-- A value of a document. -/
inductive Value where
  | null
  | boolean (b : Bool)
  | integer (n : Int)
  | text (s : Text)
  /-- A value without parts that is none of these: a number with a point, a date. -/
  | scalar
  | list (items : List Value)
  | table (entries : List (Text × Value))
deriving Inhabited

namespace Value

/-- The value behind a name, if the table has one. -/
def find (entries : List (Text × Value)) (name : Text) : Option Value :=
  (entries.find? fun e => e.1 == name).map Prod.snd

/-- The name that a value chooses: a text, or the only name in a table whose value says no more,
as `isEmpty` decides. -/
def choice (isEmpty : Value → Bool) : Value → Option Text
  | text s => some s
  | table [(name, v)] => if isEmpty v then some name else none
  | _ => none

/-- Whether a value is no value. -/
def isNull : Value → Bool
  | null => true
  | _ => false

/-- Whether a value is a list or a table without parts. -/
def isEmpty : Value → Bool
  | list [] => true
  | table [] => true
  | _ => false

end Value

end SqlFragments
