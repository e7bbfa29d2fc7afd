import SqlFragments.Grammar.Property

/-!
# Stages

A stage is a place that files are loaded from, in Snowflake.  Its name may be a path of files, and
it says where the files lie and how they are written.

* `Reader.stageName`: the name of a stage
* `Reader.stageOptions`: options between parentheses
* `Reader.stagePlace`: where the files of a stage lie
* `Reader.createStage`: a new stage
-/

namespace SqlFragments

namespace Reader

variable (d : Dialect)

/-! ## Names -/

/-- A part of the name of a stage: all that follows without a blank up to a dot or a closing
parenthesis.  A semicolon ends it as well and is taken.  The first symbol may be `apart` from the
one before it. -/
def stagePart (apart : Bool) : Nat → Reader Unit
  | 0 => return
  | fuel + 1 => do
    if let some s := (← get).head? then
      if apart || s.joined then
        match s.symbol with
        | .word _ => skip 1; stagePart false fuel
        | .mark m =>
          if ["@", "~", "%", "/"].contains m then
            skip 1
            stagePart false fuel
          else if m == ";" then skip 1
          else unless m == "." || m == ")" do expected "stage name identifier"
        | _ => expected "stage name identifier"

def stageName : Reader Unit := do
  if ← seesMark "@" then
    stagePart true ((← remaining) + 1)
    discard <| whileSome do
      if ← accept "." then return some (← stagePart false ((← remaining) + 1))
      else return none
  else discard (path d)

/-! ## Options -/

/-- A value of an option: a switch, a text in single quotes or a word. -/
def optionValue : Reader Unit := do
  match ← next with
  | some (.word _) | some (.quoted .single _) => return
  | _ => expected "option value"

/-- Options up to the closing parenthesis, without commas. -/
def optionsToClose : Nat → Reader Unit
  | 0 => expected "another option or a closing parenthesis"
  | fuel + 1 => do
    match ← next with
    | some (.mark ")") => return
    | some (.word _) =>
      expect "="
      optionValue
      optionsToClose fuel
    | _ => expected "another option or a closing parenthesis"

def stageOptions : Reader Unit := do
  expect "("
  optionsToClose ((← remaining) + 1)

/-- Options behind a word and an equals sign, if the word comes next. -/
def stageOptionsAfter (key : String) : Reader Unit := do
  if ← acceptKey key then
    expect "="
    stageOptions

/-- A text in single quotes behind a word and an equals sign, if the word comes next. -/
def quotedTextAfter (key : String) : Reader Unit := do
  if ← acceptKey key then
    expect "="
    quotedText "a text"

/-- A symbol of any kind behind a word and an equals sign, if the word comes next. -/
def symbolAfter (key : String) : Reader Unit := do
  if ← acceptKey key then
    expect "="
    skip 1

/-! ## Stages -/

/-- Where the files of a stage lie, and how to get at them. -/
def stagePlace : Reader Unit := do
  quotedTextAfter "URL"
  symbolAfter "STORAGE_INTEGRATION"
  quotedTextAfter "ENDPOINT"
  stageOptionsAfter "CREDENTIALS"
  stageOptionsAfter "ENCRYPTION"

/-- How the files of a stage are written and read. -/
def stageFormat : Reader Unit := do
  stageOptionsAfter "FILE_FORMAT"
  stageOptionsAfter "COPY_OPTIONS"

def createStage : Reader Unit := do
  discard ifAbsent
  discard (path d)
  stagePlace
  stageOptionsAfter "DIRECTORY"
  stageFormat
  quotedTextAfter "COMMENT"

end Reader

end SqlFragments
