import SqlFragments.Grammar.Keyword
import SqlFragments.Grammar.Reader

/-!
# Constants

Constants are read to check them.  A few clauses ask for a constant of some kind, so the kind is
kept.

* `ConstantKind`, `Reader.constantKind`: constants and their kinds
* `Reader.natural`, `Reader.amount`, `Reader.signedAmount`: whole numbers and other amounts
* `Reader.literalText`: a text that is a constant
-/

namespace SqlFragments

/-- The kinds of constants. -/
inductive ConstantKind where
  | number
  /-- A text in single or double quotes. -/
  | text
  /-- A place for a value. -/
  | placeholder
  | other
deriving DecidableEq, Repr

namespace Reader

def decimalValue (digits : Text) : Nat :=
  digits.foldl (fun n c => 10 * n + (c.toNat - '0'.toNat)) 0

/-- Digits without a point or an exponent, for a number of at most `most`. -/
def naturalUpTo (most : Nat) : Reader Unit := do
  match ← next with
  | some (.number digits _) =>
    unless digits.all Char.isDigit && decimalValue digits ≤ most do expected "literal int"
  | _ => expected "literal int"

/-- Digits without a point or an exponent, for a number below 2^64. -/
def natural : Reader Unit :=
  naturalUpTo 0xFFFFFFFFFFFFFFFF

/-- Digits without a point or an exponent, for a number below 2^32. -/
def smallNatural : Reader Unit :=
  naturalUpTo 0xFFFFFFFF

variable (d : Dialect)

/-- A text that is a constant: in quotes, or a word without meaning. -/
def literalText : Reader Text := do
  match ← next with
  | some (.word w) => if w.isFree then return w.value else expected "literal string"
  | some (.quoted .single s) | some (.quoted .double s) | some (.quoted .unicode s) => return s
  | some (.quoted .escaped s) =>
    if d == .postgres || d == .ansi then return s else expected "literal string"
  | _ => expected "literal string"

/-- A text that is a constant, one byte long. -/
def literalChar : Reader Unit := do
  unless (String.ofList (← literalText d)).utf8ByteSize = 1 do expected "a char"

def quotedText (what : String) : Reader Unit := do
  match ← next with
  | some (.quoted .single _) => return
  | _ => expected what

def constantKind : Reader ConstantKind := do
  match ← next with
  | some (.word w) =>
    if ["TRUE", "FALSE", "NULL"].contains w.key then return .other
    else if w.quote == some '"' then return .text
    else expected "a concrete value"
  | some (.number _ _) => return .number
  | some (.quoted form _) =>
    match form with
    | .single | .double => return .text
    | .escaped => if d == .postgres || d == .ansi then return .other else expected "a value"
    | _ => return .other
  | some (.placeholder _) => return .placeholder
  | some (.mark m) =>
    if m == ":" || m == "@" then
      match ← next with
      | some (.word _) | some (.number _ false) => return .placeholder
      | _ => expected "placeholder"
    else expected "a value"
  | _ => expected "a value"

/-- A constant; what it is does not matter. -/
def constant : Reader Unit :=
  discard (constantKind d)

/-- A number, or a place for one. -/
def amount : Reader Unit := do
  let kind ← constantKind d
  unless kind == .number || kind == .placeholder do expected "literal number"

/-- A number or a place for one, possibly behind a sign. -/
def signedAmount : Reader Unit := do
  unless ← accept "+" do discard (accept "-")
  amount d

end Reader

end SqlFragments
