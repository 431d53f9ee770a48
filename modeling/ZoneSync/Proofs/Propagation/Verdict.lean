import Mathlib.Data.List.Nodup
import ZoneSync.Proofs.Runs.Always
import ZoneSync.Propagation.Verifier

namespace ZoneSync

/-!
# Verdicts on answers that are known

A verifier runs in any monad, and what it reports depends on what its resolvers answer. Here the
answers to one record are known, and those to all others are not.

* `Resolver.Serves` — a resolver answers a lookup with one answer and nothing else;
* `Verifier.always_observe` — with such resolvers all observations match, when the answer does;
* `Verifier.always_verify` — and the verdict on the record is that it is visible.
-/

variable {m : Type → Type} [Monad m]

/-! ### Verifiers -/

/-- A resolver answers a lookup with one answer and nothing else. -/
def Resolver.Serves (r : Resolver m) (name : String) (type : RecordType) (answer : String) :
    Prop :=
  Always (· = .ok [answer]) (r.lookup name type)

namespace Verifier

variable [LawfulMonad m] (v : Verifier m)

/-- An answer that matches is observed to match by every resolver that serves it. -/
theorem always_observe {name : String} {type : RecordType} {expected answer : String}
    (hmatches : type.answerMatches expected answer = true) (started : Bool)
    {resolvers : List (Resolver m)} (h : ∀ r ∈ resolvers, r.Serves name type answer) :
    Always (fun os => ∀ o ∈ os, o.outcome = .matched)
      (v.observe name type expected started resolvers) := by
  induction resolvers generalizing started with
  | nil =>
    rw [observe]
    exact Always.pure_of fun o ho => absurd ho List.not_mem_nil
  | cons r rest ih =>
    obtain ⟨hr, hrest⟩ := List.forall_mem_cons.mp h
    have hmatched : (observation r.name type expected (.ok [answer])).outcome = .matched := by
      simp [observation, hmatches]
    have hlookups : Always (fun os => ∀ o ∈ os, o.outcome = .matched) (do
        let answer ← r.lookup name type
        let os ← v.observe name type expected true rest
        return observation r.name type expected answer :: os) := by
      refine Always.bind hr fun a ha => Always.bind (ih true hrest) fun os hos => ?_
      rw [ha]
      exact Always.pure_of (List.forall_mem_cons.mpr ⟨hmatched, hos⟩)
    -- A pause before the lookup changes nothing.
    rw [observe]
    split
    · exact Always.bind_of_forall fun _ => hlookups
    · exact hlookups

omit [Monad m] [LawfulMonad m] in
/-- A record is visible when it is seen everywhere. -/
theorem verdict_eq_propagated_iff {os : List Observation} :
    verdict os = .propagated ↔ ∀ o ∈ os, o.outcome = .matched := by
  simp [verdict]

/-- The resolvers of a verifier serve the expected answers for all records of one key. -/
def ServesKey (domain : String) (key : RecordKey) (r : Record) : Prop :=
  r.keyIn domain = key → ∃ expected answer, r.expectedAnswer? = some expected ∧
    r.type.answerMatches expected answer = true ∧
    ∀ rs ∈ v.resolvers, rs.Serves (Name.qualify r.name domain) r.type answer

/-- The verdict on records of a key that is served is that they are visible, whatever the resolvers
    answer for other keys. -/
theorem always_verifyFrom {domain : String} {key : RecordKey} (started : Bool)
    {records : List Record} (h : ∀ r ∈ records, v.ServesKey domain key r) :
    Always (fun results => ∀ res ∈ results, res.key = key → res.verdict = .propagated)
      (v.verifyFrom domain started records) := by
  induction records generalizing started with
  | nil =>
    rw [verifyFrom]
    exact Always.pure_of fun res hres => absurd hres List.not_mem_nil
  | cons r rest ih =>
    obtain ⟨hr, hrest⟩ := List.forall_mem_cons.mp h
    cases hexpected : r.expectedAnswer? with
    | none =>
      simp only [verifyFrom, hexpected]
      refine Always.bind (ih started hrest) fun results hresults => Always.pure_of ?_
      refine List.forall_mem_cons.mpr ⟨fun hkey => ?_, hresults⟩
      -- A record that is not looked up has another key.
      obtain ⟨expected, _, hsome, _⟩ := hr hkey
      exact nomatch hexpected.symm.trans hsome
    | some expected =>
      simp only [verifyFrom, hexpected]
      refine Always.bind (p := fun os => r.keyIn domain = key → verdict os = .propagated)
        ?_ fun os hos => Always.bind (ih true hrest) fun results hresults => ?_
      · by_cases hkey : r.keyIn domain = key
        · obtain ⟨expected', answer, hsome, hmatches, hserves⟩ := hr hkey
          have hsame : expected' = expected := Option.some.inj (hsome.symm.trans hexpected)
          have hobserved := v.always_observe (hsame ▸ hmatches) started hserves
          exact hobserved.imp fun os hos _ => verdict_eq_propagated_iff.mpr hos
        · exact Always.of_forall fun _ hkey' => absurd hkey' hkey
      · exact Always.pure_of (List.forall_mem_cons.mpr ⟨hos, hresults⟩)

/-- The verdict on a record whose key no other record has, and whose answers match, is that it is
    visible. -/
theorem always_verify {s : DesiredState} {r : Record} {expected answer : String}
    (hkeys : s.keys.Nodup) (hr : r ∈ s.records) (hexpected : r.expectedAnswer? = some expected)
    (hmatches : r.type.answerMatches expected answer = true)
    (h : ∀ rs ∈ v.resolvers, rs.Serves (Name.qualify r.name s.domain) r.type answer) :
    Always (fun report => ∀ res ∈ report.results,
      res.key = r.keyIn s.domain → res.verdict = .propagated) (v.verify s) := by
  have hserves : ∀ r' ∈ s.records, v.ServesKey s.domain (r.keyIn s.domain) r' := by
    intro r' hr' hkey
    rw [List.inj_on_of_nodup_map hkeys hr' hr hkey]
    exact ⟨expected, answer, hexpected, hmatches, h⟩
  rw [verify]
  refine Always.bind (v.always_verifyFrom false hserves) fun results hresults => ?_
  exact Always.pure_of hresults

end Verifier

end ZoneSync
