import ZoneSync.Provider
import ZoneSync.Text.Strip

namespace ZoneSync

/-!
# Zones in memory

A zone that is nothing but its records, with faults that can be set up.

* `Zone` — the records, the number of the next identifier, the faults, and the requests so far;
* `Zone.create`, `Zone.update`, `Zone.delete`, `Zone.list` — the requests as functions of the zone;
* `Zone.provider` — the zone as a provider.
-/

/-- The number of requests of each kind. -/
structure Calls where
  list : Nat := 0
  create : Nat := 0
  update : Nat := 0
  delete : Nat := 0
  deriving DecidableEq, Repr

/-- A zone in memory. -/
structure Zone where
  records : List LiveRecord := []
  nextId : Nat := 0
  /-- The names of which no record can be created, updated or deleted, in lower case. -/
  failing : List String := []
  /-- Whether the records cannot be read. -/
  listingFails : Bool := false
  calls : Calls := {}
  deriving Repr

namespace Zone

/-- The identifier with a number. -/
def newId (n : Nat) : String := "rec-new-" ++ Nat.repr n

/-- A record as it is kept: with its proxy setting as it is applied. -/
def stored (r : Record) : Record := { r with proxied := some r.effectiveProxied }

/-- Make the requests for a name fail. -/
def failFor (z : Zone) (name : String) : Zone :=
  { z with failing := Text.lowerAscii name :: z.failing }

/-- Whether the requests for a name fail; case does not matter. -/
def fails (z : Zone) (name : String) : Bool :=
  Text.lowerAscii name ∈ z.failing

/-- The error of a request that fails. -/
def failure (name : String) : Error :=
  .provider "memory" ("injected failure for " ++ name)

/-- All records. -/
def list (z : Zone) : Except Error (List LiveRecord) × Zone :=
  let z := { z with calls := { z.calls with list := z.calls.list + 1 } }
  (if z.listingFails then .error (.http "page 2: 500 Internal Server Error") else .ok z.records, z)

/-- Add a record at the end. -/
def create (z : Zone) (r : Record) : Except Error String × Zone :=
  let z := { z with calls := { z.calls with create := z.calls.create + 1 } }
  if z.fails r.name then (.error (failure r.name), z)
  else
    let id := newId z.nextId
    (.ok id, { z with records := z.records ++ [⟨id, stored r⟩], nextId := z.nextId + 1 })

/-- Replace the first record with an identifier. -/
def replaceFirst (id : String) (r : Record) : List LiveRecord → List LiveRecord
  | [] => []
  | l :: ls => if l.id = id then ⟨id, r⟩ :: ls else l :: replaceFirst id r ls

/-- Replace the first record with an identifier. -/
def update (z : Zone) (id : String) (r : Record) : Except Error Unit × Zone :=
  let z := { z with calls := { z.calls with update := z.calls.update + 1 } }
  if z.fails r.name then (.error (failure r.name), z)
  else if z.records.any (·.id = id) then
    (.ok (), { z with records := replaceFirst id (stored r) z.records })
  else (.error (.notFound id), z)

/-- Remove the first record with an identifier. -/
def delete (z : Zone) (id : String) : Except Error Unit × Zone :=
  let z := { z with calls := { z.calls with delete := z.calls.delete + 1 } }
  match z.records.find? (·.id = id) with
  | none => (.error (.notFound id), z)
  | some l =>
    if z.fails l.record.name then (.error (failure l.record.name), z)
    else (.ok (), { z with records := z.records.eraseP (·.id = id) })

/-- A zone in memory as a provider. -/
def provider : Provider (StateM Zone) where
  name := "memory"
  list := list
  create := fun r z => z.create r
  update := fun id r z => z.update id r
  delete := fun id z => z.delete id

end Zone

end ZoneSync
