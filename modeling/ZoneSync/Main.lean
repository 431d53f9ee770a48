import ZoneSync.Cli.Run

namespace ZoneSync

/-!
# The program

Everything that is decided is decided in `Cli.execute`; here the variables and the document are
read and the outcome is printed. There is no transport to the provider and no network to the
nameservers, so that requests stay without response and lookups without connection.
-/

open Cli

/-- The text on the use of the program. -/
def usageText : String :=
  "Usage: zonesync [-f FILE] [--log-level LEVEL] COMMAND\n\n" ++
  "Commands:\n" ++
  "  validate          check the desired-state document\n" ++
  "  plan              show the changes a sync would make\n" ++
  "  sync [--dry-run]  apply the desired state to the provider\n" ++
  "  verify            check that the declared records are visible\n" ++
  "  help              print this message\n"

/-- The wording of an error of the command line. -/
def usageMessage : UsageError → String
  | .helpAsked | .nothingGiven => usageText
  | .versionAsked => "zonesync 0.1.0\n"
  | .missingCommand => "error: a command is required\n"
  | .unknownCommand => "error: unrecognized command\n"
  | .unknownArgument => "error: unexpected argument\n"
  | .repeated => "error: an argument cannot be used multiple times\n"
  | .surplusValue => "error: unexpected value for an argument\n"
  | .invalidValue => "error: a value is missing or not allowed\n"

/-- The text of a file. -/
def source (path : String) : IO (Except FileError String) := do
  try
    let octets ← IO.FS.readBinFile path
    match Text.decodeUtf8? octets.toList with
    | some text => return .ok text
    | none => return .error .notUtf8
  catch
    | .noFileOrDirectory _ _ _ => return .error .missing
    | .inappropriateType _ _ _ => return .error .isDirectory
    | e => return .error (.other (toString e))

/-- The variables that the program looks at. -/
def readVariables : IO Variables := do
  let names := Settings.variableNames ++ Setting.all.map Setting.variableName
  let values ← names.mapM fun name => do return (name, ← IO.getEnv name)
  return fun name => (values.lookup name).join

/-- The system that the program runs on. -/
def system (env : Variables) : System IO where
  env
  source
  send := fun _ => return none
  query := fun _ _ _ => return .error .noConnections
  pause := fun n => IO.sleep (UInt32.ofNat n)

/-- Carry a command line out and print what it comes to; the answer is the exit code. -/
def runProgram (words : List String) : IO UInt32 := do
  match ← execute (system (← readVariables)) words with
  | .usage e =>
    if e = .helpAsked ∨ e = .versionAsked then
      IO.print (usageMessage e)
      return 0
    else
      IO.eprint (usageMessage e)
      return UInt32.ofNat ExitStatus.fatal.code
  | .badLogLevel message =>
    IO.eprintln ("Configuration error: " ++ message)
    return UInt32.ofNat ExitStatus.fatal.code
  | .ran outcome =>
    IO.print outcome.output
    return UInt32.ofNat outcome.status.code

end ZoneSync

/-- The program. -/
def main (words : List String) : IO UInt32 :=
  ZoneSync.runProgram words
