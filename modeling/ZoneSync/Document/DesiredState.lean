import ZoneSync.Document.Report

namespace ZoneSync

/-!
# Desired states

* `DesiredState` — the records that a domain should have, with the places where they are declared;
* `DesiredState.ofRecords` — records that are declared by the program itself;
* `Document.load` — the desired state of a document without problems.
-/

/-- A declared record and where it is declared. -/
structure DeclaredRecord where
  location : Location
  record : Record
  deriving DecidableEq, Repr

/-- The records that a domain should have. -/
structure DesiredState where
  domain : String
  declared : List DeclaredRecord
  deriving DecidableEq, Repr

namespace DesiredState

/-- The records. -/
def records (s : DesiredState) : List Record := s.declared.map (·.record)

/-- The keys of the records in the domain. -/
def keys (s : DesiredState) : List RecordKey := s.records.map (·.keyIn s.domain)

/-- Records in their given order, without any check. -/
def ofRecords (domain : String) (records : List Record) : DesiredState where
  domain
  declared := records.zipIdx.map fun (record, index) => ⟨⟨.frontend, index⟩, record⟩

@[simp] theorem records_ofRecords (domain : String) (records : List Record) :
    (ofRecords domain records).records = records := by
  simp [DesiredState.records, ofRecords, Function.comp_def, List.zipIdx_map_fst]

end DesiredState

namespace Document

/-- The declared records of entries, with the problems of those that have no record. -/
def declare (domain : String) : List (Location × Entry) → List DeclaredRecord × List Problem
  | [] => ([], [])
  | (location, e) :: rest =>
    let (declared, problems) := declare domain rest
    match e.parse domain with
    | .ok record => (⟨location, record⟩ :: declared, problems)
    | .error faults => (declared, faults.map (.entry location e.label) ++ problems)

/-- The desired state of a document, or the report on its problems. -/
def load (d : Document) : Except Report DesiredState :=
  let report := d.report
  if report.isValid then
    let domain := d.domainText?.getD ""
    match declare domain d.entries with
    | (declared, []) => .ok ⟨domain, declared⟩
    | (_, problems) => .error ⟨problems, d.entryCount⟩
  else .error report

end Document

end ZoneSync
