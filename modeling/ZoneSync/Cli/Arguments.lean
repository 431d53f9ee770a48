import ZoneSync.Config.Settings

namespace ZoneSync.Cli

/-!
# Command lines

A command line is a command with settings. The settings may stand in front of the command or after
it, as `--name value`, `--name=value`, `-n value`, `-nvalue` or `-n=value`; one that is given on
neither side is taken from a variable.

* `Invocation` — what a command line asks for;
* `UsageError` — why a command line is not carried out;
* `Invocation.read` — the invocation that the words of a command line write.

The words in front of the command and those after it are two levels, each with its own settings. A
setting with the value to follow is pending: it is settled when the next setting comes, or at the
end of its level, and what is wrong with it shows only then.
-/

/-! ### Invocations -/

/-- The name of a command. -/
inductive Verb where
  | validate
  | plan
  | sync
  | verify
  deriving DecidableEq, Repr

/-- The command with a name. -/
def Verb.ofName? : String → Option Verb
  | "validate" => some .validate
  | "plan" => some .plan
  | "sync" => some .sync
  | "verify" => some .verify
  | _ => none

/-- What is to be done. -/
inductive Command where
  /-- Check the document. -/
  | validate
  /-- Show what would change. -/
  | plan
  /-- Change the zone, or go through the motions. -/
  | sync (dryRun : Bool)
  /-- Look the declared records up. -/
  | verify
  deriving DecidableEq, Repr

/-- What a command line asks for. -/
structure Invocation where
  recordsFile : String
  logLevel : String
  command : Command
  deriving DecidableEq, Repr

/-- Why a command line is not carried out: there is something wrong with it, or it only asks for a
    text. -/
inductive UsageError where
  | helpAsked
  | versionAsked
  /-- There is nothing on the command line. -/
  | nothingGiven
  | missingCommand
  | unknownCommand
  | unknownArgument
  /-- A setting or a flag is given twice. -/
  | repeated
  /-- A flag is given a value. -/
  | surplusValue
  /-- A value is missing, or it is not allowed. -/
  | invalidValue
  deriving DecidableEq, Repr

/-! ### Settings and flags -/

/-- A setting with a value. -/
inductive Setting where
  | recordsFile
  | logLevel
  deriving DecidableEq, Repr

namespace Setting

/-- The setting with a long name. -/
def ofLong? : String → Option Setting
  | "file" => some recordsFile
  | "log-level" => some logLevel
  | _ => none

/-- The setting with a letter. -/
def ofShort? : Char → Option Setting
  | 'f' => some recordsFile
  | _ => none

/-- The variable of a setting. -/
def variableName : Setting → String
  | recordsFile => "DNSYNC_RECORDS_FILE"
  | logLevel => "DNSYNC_LOG_LEVEL"

/-- All settings. -/
def all : List Setting := [recordsFile, logLevel]

/-- The value of a setting that is given nowhere. -/
def default : Setting → String
  | recordsFile => defaultRecordsFile
  | logLevel => LogLevel.info.name

/-- Whether a setting may have a value: a file has a name. -/
def allows : Setting → String → Bool
  | recordsFile, value => value ≠ ""
  | logLevel, _ => true

end Setting

/-- A flag. -/
inductive Flag where
  | help
  | version
  | dryRun
  deriving DecidableEq, Repr

/-- The words in front of the command, or those after it. -/
abbrev Level := Option Verb

namespace Flag

/-- The flag with a long name on a level. -/
def ofLong? (level : Level) : String → Option Flag
  | "help" => some help
  | "version" => if level = none then some version else none
  | "dry-run" => if level = some .sync then some dryRun else none
  | _ => none

/-- The flag with a letter on a level. -/
def ofShort? (level : Level) : Char → Option Flag
  | 'h' => some help
  | 'V' => if level = none then some version else none
  | _ => none

end Flag

/-! ### One level -/

/-- What was found on a level so far. -/
structure Scan where
  recordsFile : Option String := none
  logLevel : Option String := none
  dryRun : Bool := false
  /-- The last setting, with its value once it was found. -/
  pending : Option (Setting × Option String) := none
  deriving DecidableEq, Repr

namespace Scan

/-- The value of a setting. -/
def value? (s : Scan) : Setting → Option String
  | .recordsFile => s.recordsFile
  | .logLevel => s.logLevel

/-- Give a setting its value. -/
def put (s : Scan) (x : Setting) (value : String) : Except UsageError Scan :=
  if (s.value? x).isSome then .error .repeated
  else if !x.allows value then .error .invalidValue
  else
    match x with
    | .recordsFile => .ok { s with recordsFile := some value }
    | .logLevel => .ok { s with logLevel := some value }

/-- Settle the pending setting. -/
def settle (s : Scan) : Except UsageError Scan :=
  match s.pending with
  | none => .ok s
  | some (_, none) => .error .invalidValue
  | some (x, some value) => { s with pending := none }.put x value

/-- A setting of which the value is the next word. -/
def await (s : Scan) (x : Setting) : Except UsageError Scan := do
  return { ← s.settle with pending := some (x, none) }

/-- A setting with its value. -/
def supply (s : Scan) (x : Setting) (value : String) : Except UsageError Scan := do
  (← s.settle).put x value

/-- A flag. -/
def mark (s : Scan) (flag : Flag) : Except UsageError Scan := do
  let s ← s.settle
  match flag with
  | .help => throw .helpAsked
  | .version => throw .versionAsked
  | .dryRun => if s.dryRun then throw .repeated else return { s with dryRun := true }

/-- A word after two dashes. -/
def readLong (s : Scan) (level : Level) (word : List Char) : Except UsageError Scan :=
  let name := String.ofList (word.takeWhile (· ≠ '='))
  let value? := match word.dropWhile (· ≠ '=') with
    | _ :: value => some (String.ofList value)
    | [] => none
  match Setting.ofLong? name, Flag.ofLong? level name, value? with
  | some x, _, some value => s.supply x value
  | some x, _, none => s.await x
  | none, some _, some _ => .error .surplusValue
  | none, some flag, none => s.mark flag
  | none, none, _ => .error .unknownArgument

/-- The letters after one dash. -/
def readShort (s : Scan) (level : Level) : List Char → Except UsageError Scan
  | [] => .ok s
  | c :: rest =>
    match Setting.ofShort? c, Flag.ofShort? level c with
    | some x, _ =>
      match rest with
      | [] => s.await x
      | '=' :: value => s.supply x (String.ofList value)
      | value => s.supply x (String.ofList value)
    | none, some flag => do (← s.mark flag).readShort level rest
    | none, none => .error .unknownArgument

/-- The error of a word that is neither a setting nor a flag nor a value. -/
def stray (level : Level) : UsageError :=
  if level = none then .unknownCommand else .unknownArgument

/-- The error of a word after two dashes alone; a command does not belong there. -/
def strayAfterDashes (level : Level) (word : String) : UsageError :=
  if (Verb.ofName? word).isSome ∨ word = "help" then .unknownArgument else stray level

/-- The error of a question for help on what the words name. -/
def helpOn : List String → UsageError
  | [] => .helpAsked
  | [word] => if (Verb.ofName? word).isSome ∨ word = "help" then .helpAsked else .unknownCommand
  | _ :: _ :: _ => .unknownCommand

/-- Read the words of a level. In front of the command, the command ends the level; it is given
    with the words after it. -/
def readWords (level : Level) (s : Scan) :
    List String → Except UsageError (Scan × Option (Verb × List String))
  | [] => .ok (s, none)
  | word :: rest =>
    let isValue := match s.pending with
      | some (_, none) => true
      | _ => false
    match if level = none ∧ !isValue then Verb.ofName? word else none with
    | some verb => .ok (s, some (verb, rest))
    | none =>
      if level = none ∧ !isValue ∧ word = "help" then .error (helpOn rest)
      else
        match word.toList, s.pending with
        | ['-', '-'], _ =>
          match rest with
          | [] => .ok (s, none)
          | word :: _ => .error (strayAfterDashes level word)
        | '-' :: '-' :: long, _ => do readWords level (← s.readLong level long) rest
        | '-' :: c :: short, _ => do readWords level (← s.readShort level (c :: short)) rest
        | _, some (x, none) => readWords level { s with pending := some (x, some word) } rest
        | _, _ => .error (stray level)

/-- The end of a level: what is pending is settled, and the variables that are needed are looked
    at. -/
def finish (s : Scan) (env : Variables) : Except UsageError Scan := do
  let s ← s.settle
  let isAllowed (x : Setting) : Bool :=
    (s.value? x).isSome || ((env x.variableName).all x.allows)
  if isAllowed .recordsFile && isAllowed .logLevel then return s else throw .invalidValue

end Scan

/-! ### Both levels -/

namespace Invocation

/-- The command with a name, and the flags that were found after it. -/
def commandOf (verb : Verb) (inner : Scan) : Command :=
  match verb with
  | .validate => .validate
  | .plan => .plan
  | .sync => .sync inner.dryRun
  | .verify => .verify

/-- The value of a setting: the one after the command, or the one in front of it, or the one of its
    variable, or the default. -/
def valueOf (env : Variables) (outer inner : Scan) (x : Setting) : String :=
  ((inner.value? x).or ((outer.value? x).or (env x.variableName))).getD x.default

/-- The error of a command line without a command. -/
def withoutCommand (env : Variables) (outer : Scan) : UsageError :=
  let isGiven (x : Setting) : Bool := (outer.value? x).isSome || (env x.variableName).isSome
  if isGiven .recordsFile || isGiven .logLevel then .missingCommand else .nothingGiven

/-- The invocation that the words of a command line write. -/
def read (env : Variables) (words : List String) : Except UsageError Invocation := do
  let (outer, rest) ← Scan.readWords none {} words
  match rest with
  | none => throw (withoutCommand env (← outer.finish env))
  | some (verb, words) =>
    let (inner, _) ← Scan.readWords (some verb) {} words
    let inner ← inner.finish env
    let outer ← outer.finish env
    return {
      recordsFile := valueOf env outer inner .recordsFile
      logLevel := valueOf env outer inner .logLevel
      command := commandOf verb inner }

end Invocation

end ZoneSync.Cli
