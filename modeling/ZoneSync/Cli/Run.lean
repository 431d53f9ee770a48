import ZoneSync.Cli.Arguments
import ZoneSync.Cloudflare.Client
import ZoneSync.Document.DesiredState
import ZoneSync.Document.Report
import ZoneSync.Nameserver.Resolver
import ZoneSync.Plan.Apply
import ZoneSync.Propagation.Report

namespace ZoneSync.Cli

/-!
# Running commands

* `System` — what a run needs from outside, in a monad;
* `Outcome` — what a run comes to: an exit status with what is printed, or an error that ends it;
* `run` — carries an invocation out;
* `execute` — the same from the words of a command line.

A document that cannot be used ends a run before anything else is looked at.
-/

/-! ### Outcomes -/

/-- The exit status of a run. -/
inductive ExitStatus where
  | success
  /-- The document is not valid, an operation failed, or records have not propagated. -/
  | failure
  /-- The run could not be carried out. -/
  | fatal
  deriving DecidableEq, Repr

/-- The number of an exit status. -/
def ExitStatus.code : ExitStatus → Nat
  | success => 0
  | failure => 1
  | fatal => 2

/-- What a run comes to. -/
inductive Outcome where
  | finished (status : ExitStatus) (output : String)
  | aborted (message : String)
  deriving DecidableEq, Repr

namespace Outcome

/-- The exit status. -/
def status : Outcome → ExitStatus
  | finished status _ => status
  | aborted _ => .fatal

/-- What is printed. -/
def output : Outcome → String
  | finished _ output => output
  | aborted message => "Error: " ++ message ++ "\n"

/-- The outcome of a run that went through, given whether all is well. -/
def ofCheck (isWell : Bool) (output : String) : Outcome :=
  finished (if isWell then .success else .failure) output

/-- The outcome of a run that may end with an error. -/
def ofExcept : Except String Outcome → Outcome
  | .ok outcome => outcome
  | .error message => aborted message

end Outcome

/-! ### The system -/

/-- What a run needs from outside. -/
structure System (m : Type → Type) where
  env : Variables
  /-- The text of a file. -/
  source : String → m (Except FileError String)
  send : Http.Transport m
  query : Nameserver.Network m
  /-- Wait for so many milliseconds. -/
  pause : Nat → m Unit

/-! ### Commands -/

variable {m : Type → Type} [Monad m]

/-- The registry of a run: in a dry run its clients change nothing. -/
def registry (config : SyncConfig) : Registry Cloudflare.Client :=
  Cloudflare.register config.dryRun {}

/-- The configuration of a run on the zone, and the client for it. -/
def prepare (sys : System m) (file : String) (s : DesiredState) (dryRun : Bool) :
    Except String (SyncConfig × Cloudflare.Client) := do
  let config ← Settings.sync sys.env.trimmed file s.domain dryRun
  let client ← ((registry config).create config.provider).mapError Error.chain
  return (config, client)

/-- The error of a zone of which the records cannot be read. -/
def listingError (e : Error) : String :=
  "failed to read live records: " ++ e.chain

/-- Show what would change. -/
def runPlan (sys : System m) (file : String) (s : DesiredState) : m (Except String Outcome) :=
  ExceptT.run do
    let (_, client) ← liftM (prepare sys file s false)
    let plan ← ExceptT.mk do
      let (plan, _) ← ((client.provider sys.send).plan s).run {}
      return plan.mapError listingError
    return .finished .success plan.render

/-- Change the zone. -/
def runSync (sys : System m) (file : String) (s : DesiredState) (dryRun : Bool) :
    m (Except String Outcome) :=
  ExceptT.run do
    let (config, client) ← liftM (prepare sys file s dryRun)
    let (plan, report) ← ExceptT.mk do
      let (result, _) ← ((client.provider sys.send).sync s).run {}
      return result.mapError listingError
    return .ofCheck report.isSuccess (plan.render ++ report.render config.dryRun)

/-- The verifier of a run. -/
def verifier (sys : System m) : Except String (Verifier m) := do
  let config ← Settings.verifier sys.env.trimmed
  (Verifier.of (Nameserver.resolvers config sys.query) config.lookupDelay.toNat
    sys.pause).mapError Error.chain

/-- Look the declared records up. -/
def runVerify (sys : System m) (s : DesiredState) : m (Except String Outcome) :=
  ExceptT.run do
    let v ← liftM (verifier sys)
    let report ← liftM (v.verify s)
    return .ofCheck report.isComplete report.render

/-- Carry a command out for a document that can be read. -/
def runOn (sys : System m) (inv : Invocation) (document : Document) : m Outcome :=
  match document.load with
  | .error report => return .finished .failure report.render
  | .ok s =>
    match inv.command with
    | .validate => return .finished .success document.report.render
    | .plan => return .ofExcept (← runPlan sys inv.recordsFile s)
    | .sync dryRun => return .ofExcept (← runSync sys inv.recordsFile s dryRun)
    | .verify => return .ofExcept (← runVerify sys s)

/-- Carry an invocation out. For the check of a document, one that cannot be read is not valid. -/
def run (sys : System m) (inv : Invocation) : m Outcome := do
  match Document.ofSource (← sys.source inv.recordsFile) with
  | .ok document => runOn sys inv document
  | .error e =>
    if inv.command = .validate then
      return .finished .failure (inv.recordsFile ++ ": " ++ e.message ++ "\n")
    else return .aborted ("cannot load " ++ inv.recordsFile ++ ": " ++ e.chain)

/-! ### Command lines -/

/-- What a command line comes to. -/
inductive Response where
  | usage (e : UsageError)
  /-- The log level is none. -/
  | badLogLevel (message : String)
  | ran (outcome : Outcome)
  deriving DecidableEq, Repr

/-- Carry a command line out. -/
def execute (sys : System m) (words : List String) : m Response :=
  match Invocation.read sys.env words with
  | .error e => return .usage e
  | .ok inv =>
    match LogLevel.ofName inv.logLevel with
    | .error message => return .badLogLevel message
    | .ok _ => return .ran (← run sys inv)

end ZoneSync.Cli
