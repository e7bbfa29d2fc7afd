import SqlFragments.CommandLine.Run

/-!
# The program

Reads the files and the standard input that a command line needs, runs it, and writes what comes
out.
-/

open SqlFragments

/-- The content of a file, or the reason why it cannot be read; nothing if there is no file. -/
def readFileIfAny (path : Text) : IO (Option (Text × Except Text Text)) := do
  try
    let bytes ← IO.FS.readBinFile (String.ofList path)
    match String.fromUTF8? bytes with
    | some s => return some (path, .ok s.toList)
    | none => return some (path, .error "stream did not contain valid UTF-8".toList)
  catch
    | .noFileOrDirectory .. => return none
    | e => return some (path, .error (toString e).toList)

/-- All of the standard input; nothing if it is not text. -/
partial def readAllInput (stream : IO.FS.Stream) (taken : ByteArray) : IO (Option Text) := do
  let bytes ← stream.read 65536
  if bytes.isEmpty then return (String.fromUTF8? taken).map String.toList
  else readAllInput stream (taken ++ bytes)

/-- The surroundings of a command line. -/
def surroundings (args : List Text) : IO Surroundings := do
  match Invocation.parse args with
  | .error _ => return ⟨[], some []⟩
  | .ok i =>
    let file ← readFileIfAny (i.config.getD defaultConfigFile)
    let input ← if i.command.readsInput then readAllInput (← IO.getStdin) .empty else pure (some [])
    return ⟨file.toList, input⟩

/-- Runs the command line. -/
def main (args : List String) : IO UInt32 := do
  let args := args.map String.toList
  let outcome := run (← surroundings args) args
  (← IO.getStderr).putStr (String.ofList outcome.err)
  (← IO.getStdout).putStr (String.ofList outcome.out)
  return outcome.code.toUInt32
