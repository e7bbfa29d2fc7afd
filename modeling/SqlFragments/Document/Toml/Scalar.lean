import SqlFragments.Document.Format
import SqlFragments.Document.Toml.Text

/-!
# Numbers and dates of TOML

* `Toml.integer`: a whole number, which must fit 64 bits with a sign
* `Toml.decimal`: a number with a point or an exponent
* `Toml.dateTime`: a date, a time of day, or both
* `Toml.scalar`: any of these, or a truth value
-/

namespace SqlFragments.Toml

/-! ## Whole numbers -/

/-- Digits of a class, with single underscores between them. -/
def digitGroups (p : Char → Bool) : Nat → Reader Text
  | 0 => failure
  | n + 1 => do
    let run ← takeRun p
    if run.isEmpty then failure
    else if ← accept ['_'] then return run ++ (← digitGroups p n)
    else return run

/-- The value of digits in a base. -/
def digitsValue (base : Nat) (digits : Text) : Nat :=
  (digits.filterMap hexValue).foldl (fun sum v => base * sum + v) 0

/-- Decimal digits that do not start with a needless zero. -/
def wholeDigits : Reader Text := do
  if ← accept ['0'] then return ['0']
  else digitGroups Char.isDigit (← fuel)

/-- Whether a plus or a minus sign comes next; `true` for a minus. -/
def sign : Reader (Option Bool) := do
  if ← accept ['-'] then return some true
  else if ← accept ['+'] then return some false
  else return none

/-- A whole number.  Other bases than ten take no sign. -/
def integer : Reader Value := do
  let based (base : Nat) : Reader Value := do
    let digits ← digitGroups (fun c => (hexValue c).any (· < base)) (← fuel)
    let n := digitsValue base digits
    if n < integerLimit then return .integer n else failure
  if ← accept "0x".toList then based 16
  else if ← accept "0o".toList then based 8
  else if ← accept "0b".toList then based 2
  else
    let negative := (← sign) == some true
    let n := digitsValue 10 (← wholeDigits)
    if negative then
      if n ≤ integerLimit then return .integer (-n) else failure
    else if n < integerLimit then return .integer n
    else failure

/-! ## Numbers with a point -/

/-- Whether `digits` with `places` of them behind the point, times ten to the power of `exponent`,
lies beyond the greatest number of double precision. -/
def isTooLarge (digits : Text) (places : Nat) (exponent : Int) : Bool :=
  let significant := digits.dropWhile (· == '0')
  let n := digitsValue 10 significant
  let power := exponent - places
  let magnitude := power + significant.length
  if significant.isEmpty || magnitude < 300 then false
  else if magnitude > 310 then true
  else
    let limit := Nat.pow 2 1024 - Nat.pow 2 970
    if power ≥ 0 then n * Nat.pow 10 power.toNat ≥ limit
    else n ≥ limit * Nat.pow 10 (-power).toNat

def exponent : Reader Int := do
  let negative := (← sign) == some true
  let n : Int := digitsValue 10 (← digitGroups Char.isDigit (← fuel))
  return if negative then -n else n

/-- A number with a point or an exponent, or one of the numbers that have no digits. -/
def decimal : Reader Value := do
  let negative := (← sign) == some true
  if ← accept "inf".toList then return .scalar
  else if ← accept "nan".toList then return .scalar
  else
    let whole ← wholeDigits
    let places ← if ← accept ['.'] then digitGroups Char.isDigit (← fuel) else pure []
    let power ← do
      if ← accept ['e'] then some <$> exponent
      else if ← accept ['E'] then some <$> exponent
      else pure none
    if places.isEmpty && power.isNone then failure
    else if !negative && isTooLarge (whole ++ places) places.length (power.getD 0) then failure
    else return .scalar

/-! ## Dates and times -/

/-- A number of exactly `n` digits. -/
def fixedNumber (n : Nat) : Reader Nat := do
  return digitsValue 10 (← takeExactly n Char.isDigit)

def twoDigits (low high : Nat) : Reader Nat := do
  let n ← fixedNumber 2
  if low ≤ n && n ≤ high then return n else failure

def daysInMonth (year month : Nat) : Nat :=
  if month = 2 then
    if year % 4 = 0 && (year % 100 != 0 || year % 400 = 0) then 29 else 28
  else if [4, 6, 9, 11].contains month then 30
  else 31

def date : Reader Unit := do
  let year ← fixedNumber 4
  expect ['-']
  let month ← twoDigits 1 12
  expect ['-']
  discard (twoDigits 1 (daysInMonth year month))

/-- A time of day; a minute may have a leap second. -/
def timeOfDay : Reader Unit := do
  discard (twoDigits 0 23)
  expect [':']
  discard (twoDigits 0 59)
  expect [':']
  discard (twoDigits 0 60)
  if ← accept ['.'] then
    if (← takeRun Char.isDigit).isEmpty then failure

/-- The distance from universal time. -/
def timeOffset : Reader Unit := do
  unless ← accept ['Z'] do
    unless ← accept ['z'] do
      unless (← sign).isSome do failure
      discard (twoDigits 0 23)
      expect [':']
      discard (twoDigits 0 59)

/-- A date, a time of day, or both with or without the distance from universal time. -/
def dateTime : Reader Value := do
  match ← optional date with
  | some () =>
    discard <| optional do
      unless ← accept ['T'] do
        unless ← accept ['t'] do expect [' ']
      timeOfDay
      discard (optional timeOffset)
    return .scalar
  | none =>
    timeOfDay
    return .scalar

/-! ## All of them -/

def scalar : Reader Value := do
  if ← accept "true".toList then return .boolean true
  else if ← accept "false".toList then return .boolean false
  else
    match ← optional dateTime with
    | some v => return v
    | none =>
      match ← optional decimal with
      | some v => return v
      | none => integer

end SqlFragments.Toml
