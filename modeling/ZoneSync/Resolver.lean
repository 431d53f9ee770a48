import ZoneSync.Record.Type

namespace ZoneSync

/-!
# Resolvers

A resolver answers questions on names as text, an answer for each record: addresses and host names
as they are written, the strings of a text record in one, mail records as preference and exchange.

* `LookupFailure` — why there is no answer;
* `Resolver` — what a resolver does, in a monad;
* `Resolver.ofTable` — the resolver that answers from a table.
-/

/-- Why a lookup has no answer. -/
inductive LookupFailure where
  | nameNotFound
  /-- The name has no record of the type. -/
  | noRecords
  | other (reason : String)
  deriving DecidableEq, Repr

/-- The wording of a failure. -/
def LookupFailure.message : LookupFailure → String
  | nameNotFound => "name does not exist"
  | noRecords => "no record of this type present"
  | other reason => "lookup error: " ++ reason

/-- A resolver. -/
structure Resolver (m : Type → Type) where
  name : String
  /-- The answers for a full name and a type. -/
  lookup : String → RecordType → m (Except LookupFailure (List String))

/-- The answers for names and types, as they are spelled; the last entry of a pair counts. -/
abbrev AnswerTable := List ((String × RecordType) × Except LookupFailure (List String))

/-- The answer of a table; a pair without an entry is a name that does not exist. -/
def AnswerTable.answer (t : AnswerTable) (name : String) (type : RecordType) :
    Except LookupFailure (List String) :=
  match t.reverse.find? (·.1 = (name, type)) with
  | some (_, answer) => answer
  | none => .error .nameNotFound

/-- The resolver that answers from a table. -/
def Resolver.ofTable {m : Type → Type} [Monad m] (name : String) (t : AnswerTable) :
    Resolver m where
  name
  lookup name type := pure (t.answer name type)

end ZoneSync
