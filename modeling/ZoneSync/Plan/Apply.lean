import ZoneSync.Plan.Basic
import ZoneSync.Provider

namespace ZoneSync

/-!
# Carrying out plans

Every entry is one request of its own. One that fails is noted, and the next one follows.

* `Outcome`, `Stats`, `ApplyReport` — what became of the entries;
* `Plan.apply` — carries out a plan;
* `Provider.plan`, `Provider.sync` — plan, and plan and carry out, from the live records of a
  provider; only reading these can fail.
-/

/-! ### Reports -/

/-- What a provider is asked to do. -/
inductive Operation where
  | create
  | update
  | delete
  deriving DecidableEq, Repr

/-- The word for an operation. -/
def Operation.name : Operation → String
  | create => "create"
  | update => "update"
  | delete => "delete"

/-- What became of a request: it was carried out, or it failed for a reason. -/
structure Outcome where
  key : RecordKey
  operation : Operation
  failure : Option String
  deriving DecidableEq, Repr

namespace Outcome

/-- Whether a request was carried out. -/
def isApplied (o : Outcome) : Bool := o.failure.isNone

/-- The text of an outcome. -/
def toString (o : Outcome) : String :=
  o.operation.name ++ " " ++ o.key.toString ++
    match o.failure with
    | none => ": ok"
    | some reason => ": failed: " ++ reason

instance : ToString Outcome := ⟨toString⟩

end Outcome

/-- How many entries came to what. -/
structure Stats where
  created : Nat := 0
  updated : Nat := 0
  deleted : Nat := 0
  unchanged : Nat := 0
  failed : Nat := 0
  deriving DecidableEq, Repr

namespace Stats

/-- The counts with one more request that was carried out. -/
def addApplied (s : Stats) : Operation → Stats
  | .create => { s with created := s.created + 1 }
  | .update => { s with updated := s.updated + 1 }
  | .delete => { s with deleted := s.deleted + 1 }

/-- The counts with one more request, given why it failed if it did. -/
def addRequest (s : Stats) (op : Operation) (failure : Option String) : Stats :=
  if failure.isSome then { s with failed := s.failed + 1 } else s.addApplied op

/-- The text of the counts. -/
def toString (s : Stats) : String :=
  "created: " ++ Nat.repr s.created ++ ", updated: " ++ Nat.repr s.updated ++ ", deleted: " ++
    Nat.repr s.deleted ++ ", unchanged: " ++ Nat.repr s.unchanged ++ ", failed: " ++
    Nat.repr s.failed

instance : ToString Stats := ⟨toString⟩

end Stats

/-- What became of a plan. -/
structure ApplyReport where
  outcomes : List Outcome := []
  stats : Stats := {}
  deriving DecidableEq, Repr

namespace ApplyReport

/-- The report with one more entry that is left as it is. -/
def keep (r : ApplyReport) : ApplyReport :=
  { r with stats := { r.stats with unchanged := r.stats.unchanged + 1 } }

/-- The report with the answer to one more request. -/
def add {α : Type} (r : ApplyReport) (key : RecordKey) (op : Operation) (answer : Except Error α) :
    ApplyReport :=
  let failure :=
    match answer with
    | .ok _ => none
    | .error e => some e.message
  { outcomes := r.outcomes ++ [⟨key, op, failure⟩]
    stats := r.stats.addRequest op failure }

/-- Whether nothing failed. -/
def isSuccess (r : ApplyReport) : Bool := r.stats.failed = 0

/-- The requests that failed. -/
def failures (r : ApplyReport) : List Outcome := r.outcomes.filter (!·.isApplied)

/-- The text of a report; in a dry run nothing was changed. -/
def render (r : ApplyReport) (dryRun : Bool) : String :=
  let line (text : String) : String := text ++ "\n"
  let count (label : String) (n : Nat) : String := line ("  " ++ label ++ ": " ++ Nat.repr n)
  line "" ++ line (if dryRun then "Summary (dry-run, nothing was changed):" else "Summary:") ++
    count "Created" r.stats.created ++ count "Updated" r.stats.updated ++
    count "Deleted" r.stats.deleted ++ count "Unchanged" r.stats.unchanged ++
    count "Failed" r.stats.failed ++
    if r.failures.isEmpty then ""
    else
      line "" ++ line "Failed operations:" ++
        String.join (r.failures.map fun o => line ("  - " ++ o.toString))

end ApplyReport

/-! ### Runs -/

variable {m : Type → Type} [Monad m]

/-- Carry out one entry. -/
def Change.apply (p : Provider m) (report : ApplyReport) (c : Change) : m ApplyReport :=
  match c.action with
  | .create record => do return report.add c.key .create (← p.create record)
  | .update id record _ => do return report.add c.key .update (← p.update id record)
  | .delete id _ => do return report.add c.key .delete (← p.delete id)
  | .unchanged _ => pure report.keep

/-- Carry out a plan, entry by entry. -/
def Plan.apply (plan : Plan) (p : Provider m) : m ApplyReport :=
  plan.changes.foldlM (Change.apply p) {}

namespace Provider

/-- The plan for the live records of a provider. -/
def plan (p : Provider m) (s : DesiredState) : m (Except Error Plan) := do
  match ← p.list with
  | .ok live => return .ok (s.plan live)
  | .error e => return .error e

/-- Plan and carry out. -/
def sync (p : Provider m) (s : DesiredState) : m (Except Error (Plan × ApplyReport)) := do
  match ← p.plan s with
  | .ok plan => return .ok (plan, ← plan.apply p)
  | .error e => return .error e

end Provider

end ZoneSync
