import ZoneSync.Record.Key
import ZoneSync.Resolver

namespace ZoneSync

/-!
# Reports on propagation

* `Observation` — what one resolver said about a record;
* `Verdict`, `RecordResult` — whether a record is visible everywhere;
* `PropagationReport` — the results for all records, their counts and their text.
-/

/-- What the answers of a resolver come to. -/
inductive ObservationOutcome where
  /-- One of them is the expected one. -/
  | matched
  | mismatch
  /-- There are none. -/
  | failed (failure : LookupFailure)
  deriving DecidableEq, Repr

/-- What one resolver said about a record. -/
structure Observation where
  resolver : String
  answers : List String
  outcome : ObservationOutcome
  deriving DecidableEq, Repr

/-- The text of an observation. -/
def Observation.toString (o : Observation) : String :=
  o.resolver ++ ": " ++
    match o.outcome with
    | .matched => "ok"
    | .mismatch => "got [" ++ ", ".intercalate o.answers ++ "]"
    | .failed failure => failure.message

instance : ToString Observation := ⟨Observation.toString⟩

/-- Whether a record is visible. -/
inductive Verdict where
  /-- To all resolvers. -/
  | propagated
  | notPropagated
  /-- Its type is not looked up. -/
  | skipped
  deriving DecidableEq, Repr

/-- The result for a declared record. -/
structure RecordResult where
  key : RecordKey
  /-- The full name as it is looked up. -/
  name : String
  type : RecordType
  /-- The expected answer, if there is one. -/
  expected : Option String
  verdict : Verdict
  observations : List Observation
  deriving DecidableEq, Repr

/-- The results for all declared records. -/
structure PropagationReport where
  results : List RecordResult := []
  deriving DecidableEq, Repr

namespace PropagationReport

/-- The number of results with a verdict. -/
def count (r : PropagationReport) (v : Verdict) : Nat :=
  r.results.countP (·.verdict = v)

/-- The number of records that are visible. -/
def propagated (r : PropagationReport) : Nat := r.count .propagated

/-- The number of records that are not visible everywhere. -/
def notPropagated (r : PropagationReport) : Nat := r.count .notPropagated

/-- The number of records that were not looked up. -/
def skipped (r : PropagationReport) : Nat := r.count .skipped

/-- The number of records that were looked up. -/
def checked (r : PropagationReport) : Nat := r.results.length - r.skipped

/-- Whether every record that was looked up is visible. -/
def isComplete (r : PropagationReport) : Bool := r.notPropagated = 0

/-- The results of the records that are not visible everywhere. -/
def missing (r : PropagationReport) : List RecordResult :=
  r.results.filter (·.verdict = .notPropagated)

/-- The lines on a record. -/
def resultLines (r : RecordResult) : List String :=
  match r.verdict with
  | .propagated => ["ok   " ++ r.key.toString]
  | .skipped => ["skip " ++ r.key.toString ++ " (not verified)"]
  | .notPropagated =>
    ("miss " ++ r.key.toString) :: r.observations.map fun o => "       " ++ o.toString

/-- The lines of a report. -/
def lines (r : PropagationReport) : List String :=
  let count (label : String) (n : Nat) : String := "  " ++ label ++ ": " ++ Nat.repr n
  r.results.flatMap resultLines ++
    ["", "Summary:", count "Checked" r.checked, count "Propagated" r.propagated,
      count "Not propagated" r.notPropagated, count "Skipped" r.skipped, ""] ++
    if r.isComplete then ["All checked records have propagated"]
    else
      "The following records have not propagated yet:" ::
        r.missing.map (fun m =>
          "  - " ++ m.name ++ " (" ++ m.type.name ++ ") -> " ++ m.expected.getD "-") ++
        ["DNS propagation may take up to 48 hours. Try again later."]

/-- The text of a report. -/
def render (r : PropagationReport) : String :=
  String.join (r.lines.map (· ++ "\n"))

end PropagationReport

end ZoneSync
