import ZoneSync.Document.Basic
import ZoneSync.Document.Grammar
import ZoneSync.Record.Key

namespace ZoneSync

open Yaml

/-!
# Reports on documents

* `Problem` — what can be wrong with a document;
* `Report` — all that is wrong with one, and its text in groups, one for each entry;
* `Document.report` — the report on a document: the domain, then every entry with its faults, and
  whether its key came before.
-/

/-- What can be wrong with a document. -/
inductive Problem where
  | missingDomain
  | invalidDomain (value : String)
  | entry (location : Location) (label : String) (fault : EntryFault)
  /-- The key of an entry is that of an earlier one. -/
  | duplicate (key : String) (location first : Location)
  deriving DecidableEq, Repr

namespace Problem

/-- The wording of a problem. -/
def message : Problem → String
  | missingDomain => "Missing 'domain' field in configuration"
  | invalidDomain value => "Invalid domain: " ++ value
  | entry location label fault => location.toString ++ " " ++ label ++ ": " ++ fault.message
  | duplicate key location first =>
    location.toString ++ ": Duplicate record " ++ key ++ " (first declared at " ++
      first.toString ++ ")"

/-- Where a problem is, unless it is one of the whole document. -/
def location? : Problem → Option Location
  | missingDomain | invalidDomain _ => none
  | entry location _ _ => some location
  | duplicate _ location _ => some location

end Problem

/-- All that is wrong with a document. -/
structure Report where
  problems : List Problem
  /-- The number of entries that were checked. -/
  checked : Nat
  deriving DecidableEq, Repr

namespace Report

/-- Whether nothing is wrong. -/
def isValid (r : Report) : Bool := r.problems.isEmpty

/-- The summary of a report. -/
def message (r : Report) : String :=
  Nat.repr r.problems.length ++ " validation error(s) in " ++ Nat.repr r.checked ++ " record(s)"

/-- The lines on problems: faults stand below a line for their entry, which is not repeated while
    the entry stays the same. -/
def linesFrom (current : Option Location) : List Problem → List String
  | [] => []
  | .entry location label fault :: rest =>
    let line := "  - " ++ fault.message
    if current = some location then line :: linesFrom current rest
    else (location.toString ++ " " ++ label) :: line :: linesFrom (some location) rest
  | problem :: rest => problem.message :: linesFrom none rest

/-- The lines of a report. -/
def lines (r : Report) : List String :=
  ("Validated " ++ Nat.repr r.checked ++ " records") ::
    if r.isValid then ["All DNS records are valid"]
    else
      ("Found " ++ Nat.repr r.problems.length ++ " error(s):") :: linesFrom none r.problems

/-- The text of a report. -/
def render (r : Report) : String :=
  String.join (r.lines.map (· ++ "\n"))

end Report

/-! ### Checking documents -/

namespace Document

/-- The domain that entries are checked for, if it is one. -/
def validDomain? (d : Document) : Option String :=
  match d.domain with
  | some (.string s) => if isDomainText s then some s else none
  | _ => none

/-- What is wrong with the domain. -/
def domainProblems (d : Document) : List Problem :=
  match d.domain with
  | none => [.missingDomain]
  | some value => if d.validDomain?.isSome then [] else [.invalidDomain value.render]

/-- What an entry is recognised by as a duplicate: its key in the domain. Without a valid domain it
    is the name as written, up to case, and the type; without a name and a type there is nothing. -/
def duplicateKey? (domain : Option String) (e : Entry) : Option String := do
  let name ← e.name.bind Value.text?
  let type ← e.type.bind Value.text?
  match domain with
  | some domain => return (RecordKey.ofName (Name.qualify name domain) (.ofName type)).toString
  | none => return Text.lowerAscii name ++ ":" ++ type

/-- The problems of entries; `seen` holds the keys of earlier ones with their first locations. -/
def entryProblems (domain : Option String) :
    List (String × Location) → List (Location × Entry) → List Problem
  | _, [] => []
  | seen, (location, e) :: rest =>
    let own := (e.faults (domain.getD "")).map (.entry location e.label)
    let (repeated, seen) :=
      match duplicateKey? domain e with
      | none => ([], seen)
      | some key =>
        match seen.find? (·.1 = key) with
        | some (_, first) => ([.duplicate key location first], seen)
        | none => ([], seen ++ [(key, location)])
    own ++ repeated ++ entryProblems domain seen rest

/-- The report on a document. -/
def report (d : Document) : Report where
  problems := d.domainProblems ++ entryProblems d.validDomain? [] d.entries
  checked := d.entryCount

end Document

end ZoneSync
