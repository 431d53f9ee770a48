import ZoneSync.Proofs.Runs.Logs
import ZoneSync.Propagation.Verifier

namespace ZoneSync

/-!
# What a verifier asks its resolvers

Which lookups a verifier makes is settled by its resolvers and the declared records; nothing that a
resolver answers changes what is asked next.

* `Lookup`, `Step`, `Verifier.logged` — lookups and pauses, and a verifier that puts them down;
* `Verifier.paced` — the steps of lookups, with the pauses between them;
* `Verifier.logs_observe` — a record is looked up on every resolver in turn;
* `Verifier.logs_verify` — the records are dealt with in turn, and only those with an expected
  answer are looked up.
-/

/-! ### Steps -/

/-- A question to the resolver at a place of the list. -/
structure Question where
  place : Nat
  name : String
  type : RecordType
  deriving DecidableEq, Repr

/-- A question, and what the resolver said. -/
structure Lookup where
  question : Question
  answer : Except LookupFailure (List String)

/-- What a verifier does. -/
inductive Step where
  | lookup (l : Lookup)
  | pause (time : Nat)

/-- The lookup that a step is, if it is one. -/
def Step.lookup? : Step → Option Lookup
  | lookup l => some l
  | pause _ => none

variable {m : Type → Type} [Monad m]

/-- A resolver whose lookups are put down. -/
def Resolver.logged (place : Nat) (r : Resolver m) : Resolver (Logged Step m) where
  name := r.name
  lookup name type := logStep (fun a => .lookup ⟨⟨place, name, type⟩, a⟩) (r.lookup name type)

namespace Verifier

/-- A verifier whose lookups and pauses are put down. -/
def logged (v : Verifier m) : Verifier (Logged Step m) where
  resolvers := v.resolvers.zipIdx.map fun (r, place) => r.logged place
  delay := v.delay
  pause n := logStep (fun _ => .pause n) (v.pause n)
  enough := by
    have hnames : (v.resolvers.zipIdx.map fun (r, place) => r.logged place).map (·.name) =
        v.resolvers.map (·.name) := by
      conv_rhs => rw [← List.zipIdx_map_fst 0 v.resolvers]
      rw [List.map_map, List.map_map]
      rfl
    rw [distinctNames, hnames]
    exact v.enough

omit [Monad m] in
/-- There is a resolver to ask. -/
theorem resolvers_ne_nil (v : Verifier m) : v.resolvers ≠ [] := by
  intro h
  have hnone : distinctNames v.resolvers = 0 := by rw [h]; rfl
  exact absurd (hnone ▸ v.enough) (by decide)

/-- The pause before a lookup; there is none before the first one. -/
def pauses (delay : Nat) (started : Bool) : List Step :=
  if started && delay ≠ 0 then [.pause delay] else []

/-- The steps of lookups that follow each other. -/
def paced (delay : Nat) : Bool → List Lookup → List Step
  | _, [] => []
  | started, l :: ls => pauses delay started ++ .lookup l :: paced delay true ls

theorem paced_append (delay : Nat) (started : Bool) (ls ls' : List Lookup) :
    paced delay started (ls ++ ls') =
      paced delay started ls ++ paced delay (started || !ls.isEmpty) ls' := by
  induction ls generalizing started with
  | nil => rw [List.isEmpty_nil, Bool.not_true, Bool.or_false]; rfl
  | cons l ls ih =>
    rw [List.cons_append, paced, paced, ih]
    simp

/-- Pauses aside, the steps are the lookups. -/
@[simp] theorem lookups_paced (delay : Nat) (started : Bool) (ls : List Lookup) :
    (paced delay started ls).filterMap Step.lookup? = ls := by
  induction ls generalizing started with
  | nil => rfl
  | cons l ls ih =>
    have hpauses : (pauses delay started).filterMap Step.lookup? = [] := by
      rw [pauses]
      split <;> rfl
    rw [paced, List.filterMap_append, hpauses, List.nil_append]
    exact congrArg (l :: ·) (ih true)

/-! ### Runs -/

/-- Whether an observation on a resolver is what its one lookup came to. -/
def ObservedBy (name : String) (type : RecordType) (expected : String) (r : Resolver m × Nat)
    (o : Observation) (ls : List Lookup) : Prop :=
  ∃ answer, o = observation r.1.name type expected answer ∧ ls = [⟨⟨r.2, name, type⟩, answer⟩]

/-- Whether a result on a declared record is what its lookups came to. -/
def CheckedBy (resolvers : List (Resolver m)) (domain : String) (r : Record) (res : RecordResult)
    (ls : List Lookup) : Prop :=
  match r.expectedAnswer? with
  | none =>
    res = ⟨r.keyIn domain, Name.qualify r.name domain, r.type, none, .skipped, []⟩ ∧ ls = []
  | some expected => ∃ os,
    res = ⟨r.keyIn domain, Name.qualify r.name domain, r.type, some expected, verdict os, os⟩ ∧
      InTurn (ObservedBy (Name.qualify r.name domain) r.type expected) resolvers.zipIdx os ls

omit [Monad m] in
/-- Every resolver is asked once, in order, and all of them the same. -/
theorem questions_of_observedBy {name expected : String} {type : RecordType}
    {rs : List (Resolver m × Nat)} {os : List Observation} {ls : List Lookup}
    (h : InTurn (ObservedBy name type expected) rs os ls) :
    ls.map (·.question) = rs.map fun r => ⟨r.2, name, type⟩ := by
  induction h with
  | nil => rfl
  | @cons r rs o os ls rest hr _ ih =>
    obtain ⟨answer, rfl, rfl⟩ := hr
    rw [List.singleton_append, List.map_cons, List.map_cons, ih]

variable [LawfulMonad m] (v : Verifier m)

/-- A record is looked up on resolvers in turn, with pauses. -/
theorem logs_observe (name : String) (type : RecordType) (expected : String) (started : Bool)
    (rs : List (Resolver m × Nat)) :
    Logs (fun os steps => ∃ ls, steps = paced v.delay started ls ∧
        InTurn (ObservedBy name type expected) rs os ls)
      (v.logged.observe name type expected started (rs.map fun (r, place) => r.logged place)) := by
  induction rs generalizing started with
  | nil => exact Logs.pure_of ⟨[], rfl, .nil⟩
  | cons r rs ih =>
    obtain ⟨r, place⟩ := r
    have hlookups : Logs (fun os steps => ∃ l ls, steps = .lookup l :: paced v.delay true ls ∧
          InTurn (ObservedBy name type expected) ((r, place) :: rs) os (l :: ls)) (do
        let answer ← (r.logged place).lookup name type
        let os ← v.logged.observe name type expected true (rs.map fun (r, place) => r.logged place)
        return observation r.name type expected answer :: os) := by
      refine Logs.bind (Logs.of_logStep _ (r.lookup name type)) ?_
      rintro answer _ rfl
      refine Logs.bind (ih true) ?_
      rintro os _ ⟨ls, rfl, hturn⟩
      refine Logs.pure_of ⟨⟨⟨place, name, type⟩, answer⟩, ls, ?_, .cons ⟨answer, rfl, rfl⟩ hturn⟩
      exact congrArg _ (List.append_nil _)
    rw [List.map_cons, observe]
    split
    · rename_i hpause
      have hpauses : pauses v.delay started = [.pause v.delay] := if_pos hpause
      refine Logs.bind (Logs.of_logStep _ (v.pause v.delay)) ?_
      rintro _ _ rfl
      refine hlookups.imp ?_
      rintro os _ ⟨l, ls, rfl, hturn⟩
      refine ⟨l :: ls, ?_, hturn⟩
      rw [paced, hpauses]
      rfl
    · rename_i hpause
      have hpauses : pauses v.delay started = [] := if_neg hpause
      refine hlookups.imp ?_
      rintro os _ ⟨l, ls, rfl, hturn⟩
      refine ⟨l :: ls, ?_, hturn⟩
      rw [paced, hpauses, List.nil_append]

theorem logs_verifyFrom (domain : String) (started : Bool) (records : List Record) :
    Logs (fun results steps => ∃ ls, steps = paced v.delay started ls ∧
        InTurn (CheckedBy v.resolvers domain) records results ls)
      (v.logged.verifyFrom domain started records) := by
  induction records generalizing started with
  | nil => exact Logs.pure_of ⟨[], rfl, .nil⟩
  | cons r records ih =>
    rw [verifyFrom]
    cases hexpected : r.expectedAnswer? with
    | none =>
      refine Logs.bind (ih started) ?_
      rintro results _ ⟨ls, rfl, hturn⟩
      refine Logs.pure_of ⟨[] ++ ls, List.append_nil _, .cons ?_ hturn⟩
      rw [CheckedBy, hexpected]
      exact ⟨rfl, rfl⟩
    | some expected =>
      refine Logs.bind (v.logs_observe _ r.type expected started v.resolvers.zipIdx) ?_
      rintro os _ ⟨ls, rfl, hos⟩
      refine Logs.bind (ih true) ?_
      rintro results _ ⟨rest, rfl, hturn⟩
      refine Logs.pure_of ⟨ls ++ rest, ?_, .cons ?_ hturn⟩
      · -- As there are resolvers, the record has a lookup, and the next one follows a pause.
        have hlookups : ls ≠ [] := by
          rintro rfl
          have hquestions := questions_of_observedBy hos
          exact v.resolvers_ne_nil (by simpa using hquestions.symm)
        have hstarted : (started || !ls.isEmpty) = true := by simp [hlookups]
        rw [paced_append, hstarted, List.append_nil]
      · rw [CheckedBy, hexpected]
        exact ⟨os, rfl, hos⟩

/-- **Lookups are settled by the resolvers and the records.** The records are dealt with in turn,
    and every result is what the lookups of its record came to. -/
theorem logs_verify (s : DesiredState) :
    Logs (fun report steps => ∃ ls, steps = paced v.delay false ls ∧
        InTurn (CheckedBy v.resolvers s.domain) s.records report.results ls)
      (v.logged.verify s) := by
  rw [verify]
  refine Logs.bind (v.logs_verifyFrom s.domain false s.records) ?_
  rintro results _ ⟨ls, rfl, hturn⟩
  exact Logs.pure_of ⟨ls, List.append_nil _, hturn⟩

end Verifier

end ZoneSync
