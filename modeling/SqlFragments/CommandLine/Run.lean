import SqlFragments.Column.Listing
import SqlFragments.CommandLine.Invocation
import SqlFragments.Condition.Connector
import SqlFragments.Condition.Placeholder
import SqlFragments.Config
import SqlFragments.Document.Json
import SqlFragments.Filter.Report
import SqlFragments.KeywordCase
import SqlFragments.Select.Draft

/-!
# Running commands

What a command writes and how it ends, given the files and the standard input that it can read.

* `Surroundings`: the files and the standard input
* `Outcome`: what is written, and the code that the run ends with
* `run`: the run of a command line
-/

namespace SqlFragments

/-- What a command can read: files by their paths, each with its content or the reason why it
cannot be read, and standard input unless it is malformed. -/
structure Surroundings where
  files : List (Text × Except Text Text)
  input : Option Text

/-- What is written to the two outputs, and the code that the run ends with. -/
structure Outcome where
  code : Nat
  out : Text
  err : Text
deriving DecidableEq, Repr

namespace Outcome

/-- What is written, with something more on the error output in front of it. -/
def withNote (note : Text) (o : Outcome) : Outcome :=
  { o with err := note ++ o.err }

/-- Lines on the output of a run that ends well. -/
def lines (texts : List Text) : Outcome :=
  ⟨0, texts.flatMap (· ++ ['\n']), []⟩

/-- A diagnostic as it is shown: the severity in capitals, and the location on its own line. -/
def shown (d : Diagnostic) : Text :=
  let place := match d.location with
    | some source => "    at ".toList ++ source ++ ['\n']
    | none => []
  '[' :: d.severity.name.toAsciiUpper ++ "] ".toList ++ d.code.name ++ ": ".toList ++ d.message ++
    '\n' :: place

/-- A run that ends because of a diagnostic. -/
def failure (d : Diagnostic) : Outcome :=
  ⟨1, [], shown d⟩

end Outcome

/-! ## Configuration -/

/-- The file that holds the configuration if no other is named. -/
def defaultConfigFile : Text := "querykit.toml".toList

/-- The name of a dialect as it is shown. -/
def Dialect.title : Dialect → Text
  | bigQuery => "BigQuery".toList
  | snowflake => "Snowflake".toList
  | postgres => "Postgres".toList
  | ansi => "Ansi".toList

namespace Surroundings

/-- The configuration in a file that may be there. -/
def configIn (w : Surroundings) (path : Text) : Option (Except ConfigError Config) :=
  (w.files.find? fun f => f.1 == path).map fun f =>
    match f.2 with
    | .ok content => Config.ofToml content
    | .error reason => .error (.io reason)

/-- The configuration of a run, and what is said about it: from the named file, else from the
default file if it is there, else the defaults. -/
def config (w : Surroundings) (named : Option Text) : Except ConfigError Config × Text :=
  match named with
  | some path => ((w.configIn path).getD (Config.ofFile none), [])
  | none =>
    match w.configIn defaultConfigFile with
    | some c => (c, [])
    | none => (.ok .default, "No config file found, using defaults\n".toList)

end Surroundings

/-! ## Commands -/

/-- What follows on a text that is given or else read from standard input. -/
def withInput (w : Surroundings) (given : Option Text) (next : Text → Outcome) : Outcome :=
  match given with
  | some text => next text
  | none =>
    match w.input with
    | some text => next text
    | none => ⟨1, [], "Error: stream did not contain valid UTF-8\n".toList⟩

/-- The columns that a statement filters by, one on a line or as a JSON list. -/
def runWhereColumns (c : Config) (verbose json : Bool) (sql : Text) : Outcome :=
  match filterColumnsOf c.dialect sql with
  | .error e => .failure e.diagnostic
  | .ok columns =>
    let note :=
      if verbose then "Found ".toList ++ Nat.toDigits 10 columns.length ++ " columns\n".toList
      else []
    (Outcome.lines (if json then [Json.texts columns] else columns)).withNote note

/-- The draft of a selection that is asked for; its limit is at most that of the configuration. -/
def SelectRequest.draft (r : SelectRequest) (c : Config) : SelectDraft :=
  let d := r.columns.foldl SelectDraft.addColumn .empty
  let d := d.selectFrom r.table r.name
  let d := if r.conditions.isEmpty then d else d.filterBy (.all (r.conditions.map .raw))
  let d := match r.orderBy with
    | some text => d.orderText text
    | none => d
  let d := match r.limit with
    | some n => d.limitWithMax n c.maxLimit
    | none => d
  match r.offset with
  | some n => d.skip n
  | none => d

/-- The warning that a limit is lowered. -/
def SelectRequest.warning (r : SelectRequest) (c : Config) : Option Diagnostic :=
  match r.limit with
  | some n =>
    if n > c.maxLimit then
      some ⟨.limitCapped, .warn,
        "limit ".toList ++ Nat.toDigits 10 n ++ " capped at max_limit ".toList ++
          Nat.toDigits 10 c.maxLimit, none⟩
    else none
  | none => none

/-- The statement that a selection becomes. -/
def runSelect (c : Config) (r : SelectRequest) : Outcome :=
  let note := match r.warning c with
    | some d => Outcome.shown d
    | none => []
  match (r.draft c).build with
  | .ok sql => (Outcome.lines [sql]).withNote note
  | .error e => (Outcome.failure e.diagnostic).withNote note

def Command.run (w : Surroundings) (c : Config) (verbose : Bool) : Command → Outcome
  | lowercase sql => withInput w sql fun s => .lines [lowerKeywords s]
  | splitColumns text => withInput w text fun s => .lines (SqlFragments.splitColumns s)
  | usePlaceholder condition columns =>
    withInput w condition fun s => .lines [SqlFragments.usePlaceholder columns s]
  | whereColumns sql json => withInput w sql (runWhereColumns c verbose json)
  | join fragments => .lines [joinConditions fragments]
  | select request => runSelect c request

/-- The run of what a command line asks for: the configuration first, then the command. -/
def Invocation.run (w : Surroundings) (i : Invocation) : Outcome :=
  let (config, note) := w.config i.config
  let note := if i.verbose then note else []
  match config with
  | .error e => (Outcome.failure e.diagnostic).withNote note
  | .ok c =>
    let title := if i.verbose then "Using dialect: ".toList ++ c.dialect.title ++ ['\n'] else []
    (i.command.run w c i.verbose).withNote (note ++ title)

/-- The name and the version of the program. -/
def versionText : Text := "querykit 0.1.0".toList

/-- How the program is called. -/
def usageText : Text :=
  "Usage: querykit [OPTIONS] <COMMAND>".toList

def run (w : Surroundings) (args : List Text) : Outcome :=
  match Invocation.parse args with
  | .ok i => i.run w
  | .error .version => .lines [versionText]
  | .error .help => .lines [usageText]
  | .error (.usage problem) =>
    ⟨2, [], "error: ".toList ++ problem.toList ++ "\n\n".toList ++ usageText ++ ['\n']⟩

end SqlFragments
