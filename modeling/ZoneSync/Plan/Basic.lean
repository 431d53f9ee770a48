import ZoneSync.Document.DesiredState
import ZoneSync.Record.Comparison

namespace ZoneSync

/-!
# Plans

A plan has an entry for every declared record and for every live record that has to go. A declared
record keeps a live one of its key that already says the same, replaces the first other one, or is
created; further live records of a declared key are left alone. Undeclared live records within the
domain are deleted, but for the types that are preserved.

* `Action`, `Change`, `Plan` — what to do for a key, and for all of them;
* `DesiredState.plan` — the plan for the live records of a zone;
* `Plan.mutations`, `Plan.summary`, `Plan.isConverged`, `Plan.render` — views of a plan.
-/

/-! ### Entries -/

/-- What to do for a key. -/
inductive Action where
  | create (record : Record)
  /-- Replace the record `current`. -/
  | update (id : String) (record current : Record)
  | delete (id : String) (current : Record)
  /-- Keep the record. -/
  | unchanged (id : String)
  deriving DecidableEq, Repr

/-- Whether an action asks something of the provider. -/
def Action.isMutation : Action → Bool
  | unchanged _ => false
  | _ => true

/-- An entry of a plan. -/
structure Change where
  key : RecordKey
  action : Action
  deriving DecidableEq, Repr

/-- The text of an entry. -/
def Change.toString (c : Change) : String :=
  let key := c.key.toString
  match c.action with
  | .create record => "+ create " ++ key ++ " -> " ++ record.value.toString
  | .update _ record current =>
    "~ update " ++ key ++ ": " ++ current.value.toString ++ " -> " ++ record.value.toString
  | .delete _ current => "- delete " ++ key ++ " (" ++ current.value.toString ++ ")"
  | .unchanged _ => "= unchanged " ++ key

instance : ToString Change := ⟨Change.toString⟩

/-- What to do for a domain: first its declared records, then what is deleted. -/
structure Plan where
  domain : String
  changes : List Change
  deriving DecidableEq, Repr

/-! ### Planning -/

namespace DesiredState

/-- The live records that belong to the domain. -/
def managed (s : DesiredState) (live : List LiveRecord) : List LiveRecord :=
  live.filter fun l => Name.inDomain l.record.name s.domain

/-- The live record that a declared one takes from those of its key: the first that says the same,
    else the first. -/
def choose? (r : Record) (candidates : List LiveRecord) : Option LiveRecord :=
  (candidates.find? fun l => r.sameValue l.record).or candidates.head?

/-- What to do for a declared record, given the live record that it takes. -/
def actionFor (domain : String) (r : Record) : Option LiveRecord → Action
  | none => .create (r.qualified domain)
  | some l =>
    if r.sameValue l.record then .unchanged l.id
    else .update l.id (r.qualified domain) l.record

/-- The entries for declared records; `taken` holds the identifiers of the live records that earlier
    ones took. -/
def declaredChanges (domain : String) (managed : List LiveRecord) :
    List String → List Record → List Change
  | _, [] => []
  | taken, r :: rest =>
    let key := r.keyIn domain
    let chosen := choose? r (managed.filter fun l => l.key = key && l.id ∉ taken)
    ⟨key, actionFor domain r chosen⟩ ::
      declaredChanges domain managed ((chosen.map (·.id)).toList ++ taken) rest

/-- The entry for a live record that no key declares, unless its type is preserved. -/
def deletion? (declared : List RecordKey) (l : LiveRecord) : Option Change :=
  if l.key ∈ declared ∨ l.record.type.isPreserved then none
  else some ⟨l.key, .delete l.id l.record⟩

/-- The plan that brings live records in line with the declared ones. -/
def plan (s : DesiredState) (live : List LiveRecord) : Plan where
  domain := s.domain
  changes :=
    declaredChanges s.domain (s.managed live) [] s.records ++
      (s.managed live).filterMap (deletion? s.keys)

end DesiredState

/-! ### Views -/

/-- How many entries of each kind a plan has. -/
structure Summary where
  create : Nat := 0
  update : Nat := 0
  delete : Nat := 0
  unchanged : Nat := 0
  deriving DecidableEq, Repr

namespace Summary

/-- The summary with one more entry. -/
def add (s : Summary) : Action → Summary
  | .create _ => { s with create := s.create + 1 }
  | .update _ _ _ => { s with update := s.update + 1 }
  | .delete _ _ => { s with delete := s.delete + 1 }
  | .unchanged _ => { s with unchanged := s.unchanged + 1 }

/-- The text of a summary. -/
def toString (s : Summary) : String :=
  Nat.repr s.create ++ " to create, " ++ Nat.repr s.update ++ " to update, " ++
    Nat.repr s.delete ++ " to delete, " ++ Nat.repr s.unchanged ++ " unchanged"

instance : ToString Summary := ⟨toString⟩

end Summary

namespace Plan

/-- The entries that ask something of the provider. -/
def mutations (p : Plan) : List Change := p.changes.filter (·.action.isMutation)

/-- The counts of the entries. -/
def summary (p : Plan) : Summary := p.changes.foldl (fun s c => s.add c.action) {}

/-- Whether there is nothing to do. -/
def isConverged (p : Plan) : Bool := p.mutations.isEmpty

/-- The text of a plan. -/
def render (p : Plan) : String :=
  "Plan for " ++ p.domain ++ ":\n" ++
    String.join (p.mutations.map fun c => "  " ++ c.toString ++ "\n") ++
    (if p.isConverged then "  no changes, zone is in sync\n" else "") ++
    p.summary.toString ++ "\n"

end Plan

end ZoneSync
