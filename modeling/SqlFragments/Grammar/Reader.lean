import SqlFragments.Grammar.Symbol
import SqlFragments.Grammar.Tree

/-!
# Readers

A reader takes symbols from the front of a statement and yields what they stand for, or fails.
This file holds the readers that the grammar is put together from.

* `Reader`: a reader of a value
* `attempt`: a reader that may fail without harm
* `accept`, `expect`, `acceptKey`, `expectKey`: one mark or one keyword
* `sepBy`: a list with commas
* `name`, `path`, `tableName`: names, chains of names, and names of tables
-/

namespace SqlFragments

/-- A reader of a value of type `α`. -/
abbrev Reader (α : Type) := StateT (List Placed) (Except SyntaxError) α

namespace Reader

/-! ## Single symbols -/

/-- The failure of a reader that finds something else at its place. -/
def expected {α : Type} (what : String) : Reader α :=
  throw (.expected what)

/-- The symbol `n` places ahead. -/
def peekAt (n : Nat) : Reader (Option Symbol) := do
  return ((← get)[n]?).map Placed.symbol

def peek : Reader (Option Symbol) :=
  peekAt 0

/-- The keyword that the symbol `n` places ahead may be; empty if it can be none. -/
def keyAt (n : Nat) : Reader String := do
  return ((← peekAt n).map Symbol.key).getD ""

/-- Takes the next symbol; at the end of the statement there is none. -/
def next : Reader (Option Symbol) := do
  match ← get with
  | [] => return none
  | s :: rest => set rest; return some s.symbol

/-- Takes `n` symbols, or as many as there are. -/
def skip (n : Nat) : Reader Unit :=
  modify (·.drop n)

/-- The number of symbols to come: a bound on how often anything can be read. -/
def remaining : Reader Nat := do
  return (← get).length

/-- Whether the next symbol is a mark. -/
def seesMark (spelling : String) : Reader Bool := do
  return (← peek) == some (.mark spelling)

/-- Whether the next symbol is one of some keywords. -/
def seesKey (keys : List String) : Reader Bool := do
  let key ← keyAt 0
  return key != "" && keys.contains key

/-- Takes a mark if it comes next. -/
def accept (spelling : String) : Reader Bool := do
  if ← seesMark spelling then skip 1; return true
  else return false

/-- Takes some marks if all of them come next. -/
def acceptMarks (spellings : List String) : Reader Bool := do
  let ahead := ((← get).take spellings.length).map Placed.symbol
  if ahead == spellings.map .mark then skip spellings.length; return true
  else return false

/-- Takes a mark; fails if another symbol comes next. -/
def expect (spelling : String) : Reader Unit := do
  unless ← accept spelling do expected spelling

/-- Takes some keywords if all of them come next. -/
def acceptKeys (keys : List String) : Reader Bool := do
  let ahead := ((← get).take keys.length).map fun s => s.symbol.key
  if ahead == keys then skip keys.length; return true
  else return false

def acceptKey (key : String) : Reader Bool :=
  acceptKeys [key]

/-- Takes a keyword if the dialect has it and it comes next. -/
def acceptKeyIf (known : Bool) (key : String) : Reader Bool :=
  if known then acceptKey key else return false

def acceptOneOf (keys : List String) : Reader (Option String) := do
  let key ← keyAt 0
  if key != "" && keys.contains key then skip 1; return some key
  else return none

/-- Takes some keywords; fails if anything else comes next. -/
def expectKeys (keys : List String) : Reader Unit := do
  unless ← acceptKeys keys do expected (" ".intercalate keys)

/-- Takes a keyword; fails if anything else comes next. -/
def expectKey (key : String) : Reader Unit :=
  expectKeys [key]

/-- Takes one of some keywords; fails if none comes next. -/
def expectOneOf (keys : List String) : Reader String := do
  match ← acceptOneOf keys with
  | some key => return key
  | none => expected (" or ".intercalate keys)

/-! ## Readers from readers -/

/-- What a reader yields, or nothing if it fails; in that case nothing is taken.  Only the
failure of going too deep is not forgiven. -/
def attempt {α : Type} (r : Reader α) : Reader (Option α) := fun s =>
  match r.run s with
  | .ok (a, rest) => .ok (some a, rest)
  | .error .tooDeep => .error .tooDeep
  | .error _ => .ok (none, s)

/-- What a reader yields, or its failure as a value; in that case nothing is taken. -/
def trial {α : Type} (r : Reader α) : Reader (Except SyntaxError α) := fun s =>
  match r.run s with
  | .ok (a, rest) => .ok (.ok a, rest)
  | .error e => .ok (.error e, s)

/-- What a reader yields if a keyword stands in front of it. -/
def afterKey {α : Type} (key : String) (r : Reader α) : Reader (Option α) := do
  if ← acceptKey key then return some (← r)
  else return none

/-- What a reader yields if some keywords stand in front of it. -/
def afterKeys {α : Type} (keys : List String) (r : Reader α) : Reader (Option α) := do
  if ← acceptKeys keys then return some (← r)
  else return none

/-- What a reader yields between parentheses. -/
def parens {α : Type} (r : Reader α) : Reader α := do
  expect "("
  let a ← r
  expect ")"
  return a

/-- Items as long as `more` says that another one follows; at most `fuel` of them. -/
def itemsWhile {α : Type} (item : Reader α) (more : Reader Bool) : Nat → Reader (List α)
  | 0 => expected "the end of the list"
  | fuel + 1 => do
    let a ← item
    if ← more then return a :: (← itemsWhile item more fuel)
    else return [a]

/-- One or more items with commas between them. -/
def sepBy {α : Type} (item : Reader α) : Reader (List α) := do
  itemsWhile item (accept ",") ((← remaining) + 1)

/-- Items with commas between them, or none if `close` comes next. -/
def sepByOr {α : Type} (item : Reader α) (close : String) : Reader (List α) := do
  if ← seesMark close then return []
  else sepBy item

/-- What a reader yields as often as it yields something, at most `fuel` times. -/
def repeated {α : Type} (r : Reader (Option α)) : Nat → Reader (List α)
  | 0 => return []
  | fuel + 1 => do
    match ← r with
    | some a => return a :: (← repeated r fuel)
    | none => return []

/-- What a reader yields as often as it yields something. -/
def whileSome {α : Type} (r : Reader (Option α)) : Reader (List α) := do
  repeated r ((← remaining) + 1)

/-! ## Names -/

/-- A name: a word, or a text in single or double quotes.  Anything else is taken without yielding
a name. -/
def anyName : Reader (Option Name) := do
  match ← next with
  | some (.word w) => return some ⟨w.value, w.quote⟩
  | some (.quoted .single value) => return some ⟨value, some '\''⟩
  | some (.quoted .double value) => return some ⟨value, some '"'⟩
  | _ => return none

/-- What a reader yields; fails if it yields nothing. -/
def certain {α : Type} (what : String) (r : Reader (Option α)) : Reader α := do
  match ← r with
  | some a => return a
  | none => expected what

/-- A name: a word, or a text in single or double quotes. -/
def name : Reader Name :=
  certain "identifier" anyName

def names : Reader (List Name) :=
  parens (sepBy name)

def optionalNames : Reader (List Name) := do
  if ← seesMark "(" then names else return []

/-- The rest of a chain of names with dots, behind the names in `taken`, the last of them first.
Snowflake lets the second name be left out. -/
def chainFrom (d : Dialect) (part : Reader (Option Name)) (taken : List Name) :
    Nat → Reader (Option (List Name))
  | 0 => return none
  | fuel + 1 => do
    let omitted ← if d == .snowflake && taken.length == 1 then accept "." else pure false
    let taken := if omitted then ⟨[], none⟩ :: taken else taken
    match ← part with
    | none => return none
    | some n =>
      if ← accept "." then chainFrom d part (n :: taken) fuel
      else return some (n :: taken).reverse

/-- A chain of names with dots.  Where a name is missing, what stands there is taken without
yielding a chain. -/
def anyPath (d : Dialect) : Reader (Option (List Name)) := do
  chainFrom d anyName [] ((← remaining) + 1)

/-- A chain of names with dots. -/
def path (d : Dialect) : Reader (List Name) :=
  certain "identifier" (anyPath d)

/-! ## Names with hyphens -/

/-- Whether the next symbol is a mark that directly follows the one before it. -/
def seesJoinedMark (spelling : String) : Reader Bool := do
  return (← get).head?.any fun s => s.joined && s.symbol == .mark spelling

/-- The parts of a name behind its hyphens, each a word or a whole number that directly follows.
Behind a number, a blank would have to follow to end the name, and as blanks are passed over, only
the end of the statement can. -/
def hyphenParts (afterNumber : Bool) : Nat → Reader (Option Text)
  | 0 => return none
  | fuel + 1 => do
    if ← seesJoinedMark "-" then
      skip 1
      if (← get).head?.any Placed.joined then
        let part ← match ← next with
          | some (.word w) => pure (if w.quote.isNone then some (w.value, false) else none)
          | some (.number digits false) =>
            pure (if digits.all Char.isDigit then some (digits, true) else none)
          | _ => pure none
        match part with
        | some (text, isNumber) =>
          return (← hyphenParts isNumber fuel).map fun more => '-' :: text ++ more
        | none => return none
      else return none
    else if afterNumber then return if (← next).isNone then some [] else none
    else return some []

/-- A name that may have hyphens in it unless it stands in quotes. -/
def hyphenName : Reader (Option Name) := do
  match ← anyName with
  | none => return none
  | some n =>
    if n.quote.isSome then return some n
    else return (← hyphenParts false ((← remaining) + 1)).map fun more => ⟨n.value ++ more, none⟩

/-- The name of a table as a query or a definition of tables has it: hyphens may stand in it in
BigQuery.  Where a name is missing, what stands there is taken without yielding a chain. -/
def anyTableName (d : Dialect) : Reader (Option (List Name)) := do
  if d == .bigQuery then chainFrom d hyphenName [] ((← remaining) + 1) else anyPath d

/-- The name of a table as a query or a definition of tables has it. -/
def tableName (d : Dialect) : Reader (List Name) :=
  certain "identifier" (anyTableName d)

end Reader

end SqlFragments
