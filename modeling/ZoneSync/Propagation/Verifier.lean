import ZoneSync.Document.DesiredState
import ZoneSync.Propagation.Report
import ZoneSync.Record.Answer

namespace ZoneSync

/-!
# Verifying propagation

Every declared record is looked up on several resolvers, one after the other. Between any two
lookups of a run there is a pause, so that public resolvers are not asked too fast.

* `Verifier` — at least three different resolvers, and the pause;
* `Verifier.of` — the verifier of resolvers, if there are enough;
* `Verifier.verify` — the report on a desired state.
-/

/-- The number of different resolvers that a verdict needs. -/
def minResolvers : Nat := 3

/-- The pause between lookups if nothing else is set, in milliseconds. -/
def defaultDelay : Nat := 500

/-- The number of different names of resolvers. -/
def distinctNames {m : Type → Type} (rs : List (Resolver m)) : Nat :=
  (rs.map (·.name)).eraseDups.length

/-- The error of too few resolvers. -/
def tooFewResolvers (n : Nat) : Error :=
  .config ("Propagation verification needs at least " ++ Nat.repr minResolvers ++
    " distinct resolvers, got " ++ Nat.repr n)

/-- Resolvers to look records up on. -/
structure Verifier (m : Type → Type) where
  resolvers : List (Resolver m)
  /-- The pause between two lookups, in milliseconds. -/
  delay : Nat
  /-- Wait for so many milliseconds. -/
  pause : Nat → m Unit
  enough : minResolvers ≤ distinctNames resolvers

variable {m : Type → Type}

namespace Verifier

/-- The verifier of resolvers, if there are enough different ones. -/
def of (resolvers : List (Resolver m)) (delay : Nat) (pause : Nat → m Unit) :
    Except Error (Verifier m) :=
  if enough : minResolvers ≤ distinctNames resolvers then
    .ok { resolvers, delay, pause, enough }
  else .error (tooFewResolvers (distinctNames resolvers))

/-- The names of the resolvers. -/
def names (v : Verifier m) : List String := v.resolvers.map (·.name)

/-- What the answer to a lookup comes to. -/
def observation (resolver : String) (type : RecordType) (expected : String) :
    Except LookupFailure (List String) → Observation
  | .ok answers =>
    ⟨resolver, answers,
      if answers.any (type.answerMatches expected) then .matched else .mismatch⟩
  | .error failure => ⟨resolver, [], .failed failure⟩

variable [Monad m]

/-- Look a name up on resolvers in order; `started` says whether there was a lookup before. -/
def observe (v : Verifier m) (name : String) (type : RecordType) (expected : String) :
    Bool → List (Resolver m) → m (List Observation)
  | _, [] => pure []
  | started, r :: rs => do
    if started && v.delay ≠ 0 then v.pause v.delay
    let answer ← r.lookup name type
    let rest ← v.observe name type expected true rs
    return observation r.name type expected answer :: rest

/-- The verdict on observations. -/
def verdict (os : List Observation) : Verdict :=
  if os.all (·.outcome = .matched) then .propagated else .notPropagated

/-- Verify records of a domain in order. -/
def verifyFrom (v : Verifier m) (domain : String) : Bool → List Record → m (List RecordResult)
  | _, [] => pure []
  | started, r :: rs => do
    let name := Name.qualify r.name domain
    match r.expectedAnswer? with
    | none =>
      let rest ← v.verifyFrom domain started rs
      return ⟨r.keyIn domain, name, r.type, none, .skipped, []⟩ :: rest
    | some expected =>
      let os ← v.observe name r.type expected started v.resolvers
      let rest ← v.verifyFrom domain true rs
      return ⟨r.keyIn domain, name, r.type, some expected, verdict os, os⟩ :: rest

/-- Verify every declared record. -/
def verify (v : Verifier m) (s : DesiredState) : m PropagationReport :=
  return ⟨← v.verifyFrom s.domain false s.records⟩

end Verifier

end ZoneSync
