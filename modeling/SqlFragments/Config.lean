import SqlFragments.Diagnostic
import SqlFragments.Dialect
import SqlFragments.Document.Toml.Writing

/-!
# Configuration

The dialect that statements are read in, and the greatest number of rows that a selection may ask
for.  A configuration is kept as a small document; what it does not say has a default.

* `Config`, `ConfigError`: a configuration, and why there is none
* `Config.load`, `Config.save`: loading and saving in a document format
* `Config.ofToml`, `Config.toToml`: the same in TOML, which is the format of the program
-/

namespace SqlFragments

/-- A configuration. -/
structure Config where
  dialect : Dialect
  maxLimit : Nat
deriving DecidableEq, Repr

/-- Why a configuration cannot be loaded or saved. -/
inductive ConfigError where
  /-- The file cannot be read; `reason` is what the system says. -/
  | io (reason : Text)
  /-- The document is malformed or holds a value of the wrong kind; `reason` is what the format
  says. -/
  | parse (reason : Text)
  /-- The configuration cannot be written as a document. -/
  | serialize (reason : Text)
  | invalidValue (reason : Text)
  | unknownDialect (name : Text)
deriving DecidableEq, Repr

namespace ConfigError

def message : ConfigError → Text
  | io reason => "IO error: ".toList ++ reason
  | parse reason => "Parse error: ".toList ++ reason
  | serialize reason => "Serialize error: ".toList ++ reason
  | invalidValue reason => "Invalid value: ".toList ++ reason
  | unknownDialect name => "Unknown dialect: ".toList ++ name

def diagnostic (e : ConfigError) : Diagnostic :=
  .ofError .configError e.message

end ConfigError

namespace Config

/-- The configuration where nothing is said. -/
def default : Config :=
  ⟨.ansi, 50000⟩

/-- The keys of a configuration. -/
def keys : Text × Text :=
  ("dialect".toList, "max_limit".toList)

/-! ## Loading -/

/-- The dialect that a value chooses by its exact name. -/
def dialectOfValue (v : Value) : Option Dialect :=
  (v.choice Value.isEmpty).bind Dialect.ofName

/-- The limit that a value stands for. -/
def limitOfValue : Value → Option Nat
  | .integer n => if 0 ≤ n then some n.toNat else none
  | _ => none

/-- What a value means if there is one, and the default otherwise. -/
def settingOr {α : Type} (fallback : α) (read : Value → Option α) : Option Value → Option α
  | none => some fallback
  | some v => read v

/-- The configuration that names and values describe.  Other names are passed over. -/
def ofEntries (entries : List (Text × Value)) : Option Config := do
  let (dialect, limit) := keys
  let dialect ← settingOr default.dialect dialectOfValue (Value.find entries dialect)
  let limit ← settingOr default.maxLimit limitOfValue (Value.find entries limit)
  return ⟨dialect, limit⟩

/-- The configuration that a document describes.  A limit of zero makes no sense. -/
def load (format : DocumentFormat) (s : Text) : Except ConfigError Config :=
  match format.read s with
  | .error reason => .error (.parse reason)
  | .ok entries =>
    match ofEntries entries with
    | none => .error (.parse (format.mismatch s))
    | some c =>
      if c.maxLimit = 0 then .error (.invalidValue "max_limit must be greater than zero".toList)
      else .ok c

/-- The configuration in a file; there is no content if the file does not exist. -/
def loadFile (format : DocumentFormat) : Option Text → Except ConfigError Config
  | some content => load format content
  | none => .error (.io "No such file or directory (os error 2)".toList)

/-! ## Saving -/

/-- What a configuration is saved as. -/
def record (c : Config) : Record :=
  [(keys.1, .text c.dialect.name), (keys.2, .number c.maxLimit)]

/-- A configuration as a document. -/
def save (format : DocumentFormat) (c : Config) : Except ConfigError Text :=
  (format.write c.record).mapError .serialize

/-! ## TOML -/

def ofToml (s : Text) : Except ConfigError Config :=
  load Toml.format s

def ofFile (content : Option Text) : Except ConfigError Config :=
  loadFile Toml.format content

def toToml (c : Config) : Except ConfigError Text :=
  save Toml.format c

end Config

end SqlFragments
