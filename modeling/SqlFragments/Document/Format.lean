import SqlFragments.Document.Value

/-!
# Document formats

How a record is written as a document, and what a document says, is the business of a library for
its format.  Whoever keeps something in documents is given that library as a value, and may rely on
no more of it than that what was written is read back.

* `Atom`, `Record`: what is written
* `DocumentFormat`: a writer and a reader
* `DocumentFormat.Faithful`: what is relied on
-/

namespace SqlFragments

/-- A value that is written: a text or a whole number. -/
inductive Atom where
  | text (s : Text)
  | number (n : Int)
deriving DecidableEq, Repr

/-- The limit of whole numbers of 64 bits with a sign, 2^63: they lie below it, and not below its
negative. -/
def integerLimit : Nat := 0x8000000000000000

namespace Atom

/-- The value that is read back. -/
def toValue : Atom → Value
  | text s => .text s
  | number n => .integer n

/-- Whether a value is a text or a whole number of 64 bits with a sign. -/
def Fits : Atom → Prop
  | text _ => True
  | number n => -(integerLimit : Int) ≤ n ∧ n < integerLimit

instance : DecidablePred Fits
  | text _ => inferInstanceAs (Decidable True)
  | number _ => inferInstanceAs (Decidable (_ ∧ _))

end Atom

/-- Names and their values. -/
abbrev Record := List (Text × Atom)

/-- A library that writes records as documents and reads documents. -/
structure DocumentFormat where
  /-- The document that a record becomes, or why it cannot be written. -/
  write : Record → Except Text Text
  /-- The names and values of a document, or why it is malformed. -/
  read : Text → Except Text (List (Text × Value))
  /-- What is said about a document whose values are not those that are looked for. -/
  mismatch : Text → Text

/-- A record that a format has to take: its names are different, and its values are texts and whole
numbers of 64 bits with a sign. -/
structure Record.Writable (r : Record) : Prop where
  names : (r.map Prod.fst).Nodup
  values : ∀ e ∈ r, e.2.Fits

/-- **What a format is relied on for.**  It takes texts and whole numbers of 64 bits with a sign and
gives them back, in any order, and it refuses larger numbers. -/
structure DocumentFormat.Faithful (f : DocumentFormat) : Prop where
  writes : ∀ r : Record, r.Writable → ∃ s, f.write r = .ok s
  reads : ∀ (r : Record) (s : Text), r.Writable → f.write r = .ok s →
    ∃ entries, f.read s = .ok entries ∧ entries.Perm (r.map fun e => (e.1, e.2.toValue))
  refuses : ∀ (r : Record) (name : Text) (n : Int), (name, .number n) ∈ r → integerLimit ≤ n →
    ∃ reason, f.write r = .error reason

end SqlFragments
