import SqlFragments.CommandLine.Options

/-!
# Invocations

What a command line asks for: one of six commands with its arguments, and the two options that
all commands share.

* `Command`, `Invocation`: what is asked for
* `Invocation.parse`: what a command line asks for
-/

namespace SqlFragments

/-- A selection that is asked for. -/
structure SelectRequest where
  table : Text
  name : Text
  columns : List Text
  conditions : List Text
  orderBy : Option Text
  limit : Option Nat
  offset : Option Nat
deriving DecidableEq, Repr

/-- A command with its arguments.  A text that is not given is read from standard input. -/
inductive Command where
  | lowercase (sql : Option Text)
  | splitColumns (text : Option Text)
  | usePlaceholder (condition : Option Text) (columns : List Text)
  | whereColumns (sql : Option Text) (json : Bool)
  | join (fragments : List Text)
  | select (request : SelectRequest)
deriving DecidableEq, Repr

/-- Whether a command reads its text from standard input. -/
def Command.readsInput : Command → Bool
  | lowercase text | splitColumns text | usePlaceholder text _ | whereColumns text _ => text.isNone
  | join _ | select _ => false

/-- What a command line asks for.  `config` names the file of the configuration. -/
structure Invocation where
  config : Option Text
  verbose : Bool
  command : Command
deriving DecidableEq, Repr

/-! ## Numbers -/

/-- The number that a text writes: digits, with a plus sign or without, below 2^64. -/
def naturalOf (s : Text) : Option Nat :=
  let digits := match s with
    | '+' :: rest => rest
    | s => s
  let n := Nat.ofDigitChars 10 digits 0
  if !digits.isEmpty && digits.all Char.isDigit && n ≤ 0xFFFFFFFFFFFFFFFF then some n else none

/-! ## Rules -/

namespace Invocation

/-- The options that all commands share. -/
def sharedOptions : List OptionRule :=
  [⟨some 'c', "config".toList, .one, fun s => !s.isEmpty⟩,
   ⟨some 'v', "verbose".toList, .none, fun _ => true⟩]

def commandNames : List Text :=
  ["lowercase", "split-columns", "rewrite-aliases", "where-columns", "join", "select", "help"].map
    String.toList

/-- What may stand in front of the command. -/
def rules : Rules :=
  ⟨sharedOptions, some 0, commandNames, true⟩

/-- An option with any value. -/
def anyOption (short : Option Char) (long : String) (arity : Arity) : OptionRule :=
  ⟨short, long.toList, arity, fun _ => true⟩

/-- An option whose value is a number. -/
def numberOption (short : Option Char) (long : String) : OptionRule :=
  ⟨short, long.toList, .one, fun s => (naturalOf s).isSome⟩

/-- What may stand behind a command. -/
def commandRules (command : String) : Rules :=
  let taking (words : Option Nat) (options : List OptionRule) : Rules :=
    ⟨options ++ sharedOptions, words, [], false⟩
  match command with
  | "rewrite-aliases" => taking (some 1) [anyOption none "columns" .many]
  | "where-columns" => taking (some 1) [anyOption none "json" .none]
  | "join" => taking none []
  | "select" =>
    taking (some 0)
      [anyOption none "from" .one, anyOption none "alias" .one, anyOption (some 'C') "column" .many,
       anyOption (some 'w') "where" .many, anyOption (some 'o') "order-by" .one,
       numberOption (some 'l') "limit", numberOption none "offset"]
  | _ => taking (some 1) []

/-! ## Commands -/

/-- A text cut at each comma. -/
def splitAtCommas : Text → List Text
  | [] => [[]]
  | c :: rest =>
    if c = ',' then [] :: splitAtCommas rest
    else
      match splitAtCommas rest with
      | [] => [[c]]
      | s :: more => (c :: s) :: more

/-- The selection that options ask for. -/
def selectRequest (g : Given) : Except Stop SelectRequest :=
  match g.value "from", g.values "column" with
  | some table, columns@(_ :: _) =>
    .ok ⟨table, (g.value "alias").getD ['t'], columns, g.values "where", g.value "order-by",
      (g.value "limit").bind naturalOf, (g.value "offset").bind naturalOf⟩
  | _, _ => .error (.usage "required arguments were not provided")

/-- The command with a name and what is given behind it. -/
def commandOf (name : String) (g : Given) : Except Stop Command :=
  match name with
  | "lowercase" => .ok (.lowercase g.words.head?)
  | "split-columns" => .ok (.splitColumns g.words.head?)
  | "rewrite-aliases" =>
    .ok (.usePlaceholder g.words.head? ((g.values "columns").flatMap splitAtCommas))
  | "where-columns" => .ok (.whereColumns g.words.head? (g.has "json"))
  | "join" => .ok (.join g.words)
  | "select" => (selectRequest g).map .select
  | _ => .error .help

/-- What a command line asks for.  The shared options may stand in front of the command and
behind it; the file that is named last counts. -/
def parse (args : List Text) : Except Stop Invocation := do
  match ← rules.scan args with
  | (_, none) => .error (.usage "a command is required")
  | (front, some (name, rest)) =>
    let name := String.ofList name
    if name == "help" then .error .help
    let (g, _) ← (commandRules name).scan rest
    let command ← commandOf name g
    let config := match g.value "config" with
      | some path => some path
      | none => front.value "config"
    return ⟨config, front.has "verbose" || g.has "verbose", command⟩

end Invocation

end SqlFragments
