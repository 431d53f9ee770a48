import ZoneSync.Error
import ZoneSync.Record.Key

namespace ZoneSync

/-!
# Providers

A provider serves the records of a zone. It is given by what it does in a monad, so that one and the
same run can be looked at as a change of any state.

* `Provider` — the four requests.
-/

/-- A service that holds the records of a zone. Names are full names. -/
structure Provider (m : Type → Type) where
  name : String
  /-- All records; part of them is an error. -/
  list : m (Except Error (List LiveRecord))
  /-- Add a record, with its new identifier as the answer. -/
  create : Record → m (Except Error String)
  /-- Replace the record with an identifier. -/
  update : String → Record → m (Except Error Unit)
  /-- Remove the record with an identifier. -/
  delete : String → m (Except Error Unit)

end ZoneSync
