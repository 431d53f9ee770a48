import Mathlib.Algebra.GroupWithZero.Nat
import ZoneSync.Proofs.Propagation.Soundness

namespace ZoneSync

/-!
# The pace of a verifier

Whatever the resolvers answer, a verifier asks the same questions in the same order, and pauses
between any two of them and nowhere else.

* `Verifier.questions` — the questions of a run, record by record and resolver by resolver;
* `Step.time`, `time_paced` — the time of a run is that of its pauses;
* `paced_eq_intersperse` — there is one pause between any two lookups, and none around them;
* `questions_in_turn` — the lookups of a run are for its questions;
* `Verifier.verify_paced` — the steps of a run, and the time that they take.
-/

/-- The time that a step takes by itself. -/
def Step.time : Step → Nat
  | lookup _ => 0
  | pause time => time

namespace Verifier

variable {m : Type → Type}

/-- The questions on a record. -/
def questionsOn (v : Verifier m) (domain : String) (r : Record) : List Question :=
  (List.range v.resolvers.length).map fun place => ⟨place, Name.qualify r.name domain, r.type⟩

/-- The questions of a run: every record with an expected answer is asked for, on every resolver. -/
def questions (v : Verifier m) (s : DesiredState) : List Question :=
  (s.records.filter (·.expectedAnswer?.isSome)).flatMap (v.questionsOn s.domain)

/-- The steps of a run with these lookups. -/
def stepsWith (v : Verifier m) (ls : List Lookup) : List Step :=
  if v.delay = 0 then ls.map .lookup else (ls.map .lookup).intersperse (.pause v.delay)

@[simp] theorem length_questionsOn (v : Verifier m) (domain : String) (r : Record) :
    (v.questionsOn domain r).length = v.resolvers.length := by
  simp [questionsOn]

/-- There are as many questions on each record as there are resolvers. -/
theorem length_questions (v : Verifier m) (s : DesiredState) :
    (v.questions s).length = s.records.countP (·.expectedAnswer?.isSome) * v.resolvers.length := by
  simp [questions, List.length_flatMap, List.countP_eq_length_filter]

/-! ### Pauses -/

/-- Without a delay there are no pauses. -/
theorem paced_zero (started : Bool) (ls : List Lookup) : paced 0 started ls = ls.map .lookup := by
  induction ls generalizing started with
  | nil => rfl
  | cons l ls ih => simp [paced, pauses, ih]

/-- After the first lookup there is a pause before each one. -/
theorem paced_true_cons {delay : Nat} (hdelay : delay ≠ 0) (l : Lookup) (ls : List Lookup) :
    paced delay true (l :: ls) = .pause delay :: .lookup l :: paced delay true ls := by
  simp [paced, pauses, hdelay]

/-- The pauses stand between the lookups. -/
theorem paced_eq_intersperse {delay : Nat} (hdelay : delay ≠ 0) (ls : List Lookup) :
    paced delay false ls = (ls.map .lookup).intersperse (.pause delay) := by
  cases ls with
  | nil => rfl
  | cons l ls =>
    show .lookup l :: paced delay true ls = _
    -- From the first lookup on, every further one brings its pause with it.
    induction ls generalizing l with
    | nil => rfl
    | cons l' ls ih =>
      rw [paced_true_cons hdelay, ih l']
      rfl

theorem stepsWith_eq_paced (v : Verifier m) (ls : List Lookup) :
    v.stepsWith ls = paced v.delay false ls := by
  unfold stepsWith
  split
  · rename_i hdelay
    rw [hdelay, paced_zero]
  · rename_i hdelay
    rw [paced_eq_intersperse hdelay]

/-- The pauses of lookups take the delay once for each lookup that is not the first one of all. -/
theorem time_paced (delay : Nat) (started : Bool) (ls : List Lookup) :
    ((paced delay started ls).map Step.time).sum =
      delay * (ls.length - if started then 0 else 1) := by
  induction ls generalizing started with
  | nil => simp [paced]
  | cons l ls ih =>
    have hpauses : ((pauses delay started).map Step.time).sum =
        if started then delay else 0 := by
      cases started <;> by_cases hdelay : delay = 0 <;> simp [pauses, Step.time, hdelay]
    rw [paced, List.map_append, List.sum_append, hpauses, List.map_cons, List.sum_cons, ih]
    cases started <;> simp [Step.time, Nat.mul_add, Nat.add_comm]

/-! ### Lookups -/

/-- The lookups of a record are for the questions on it, if it has an expected answer. -/
theorem questions_of_checkedBy {v : Verifier m} {domain : String} {r : Record}
    {res : RecordResult} {ls : List Lookup} (h : CheckedBy v.resolvers domain r res ls) :
    ls.map (·.question) =
      if r.expectedAnswer?.isSome then v.questionsOn domain r else [] := by
  cases hexpected : r.expectedAnswer? with
  | none => simp [(skipped_of_checkedBy h hexpected).2.2]
  | some expected => simp [(lookedUp_of_checkedBy h hexpected).questions, questionsOn]

/-- The lookups of records are for the questions on them. -/
theorem questions_in_turn {v : Verifier m} {domain : String} {records : List Record}
    {results : List RecordResult} {ls : List Lookup}
    (h : InTurn (CheckedBy v.resolvers domain) records results ls) :
    ls.map (·.question) =
      (records.filter (·.expectedAnswer?.isSome)).flatMap (v.questionsOn domain) := by
  induction h with
  | nil => rfl
  | @cons r records res results ls rest hr _ ih =>
    rw [List.map_append, questions_of_checkedBy hr, ih]
    by_cases hexpected : r.expectedAnswer?.isSome <;> simp [hexpected]

variable [Monad m] [LawfulMonad m]

/-- **Lookups are paced.** The lookups of a run are for the same questions whatever the answers are:
    every record with an expected answer is asked for on every resolver in turn. With a delay there
    is a pause between any two of them and no other one, and without it there is none, so that the
    run takes the delay once for every lookup but the first. -/
theorem verify_paced (v : Verifier m) (s : DesiredState) :
    Logs (fun _ steps => ∃ ls, steps = v.stepsWith ls ∧
        ls.map (·.question) = v.questions s ∧
        ls.length = s.records.countP (·.expectedAnswer?.isSome) * v.resolvers.length ∧
        (steps.map Step.time).sum = v.delay * (ls.length - 1))
      (v.logged.verify s) := by
  refine (v.logs_verify s).imp ?_
  rintro report _ ⟨ls, rfl, hturn⟩
  have hquestions : ls.map (·.question) = v.questions s := questions_in_turn hturn
  refine ⟨ls, (v.stepsWith_eq_paced ls).symm, hquestions, ?_, ?_⟩
  · rw [← length_questions, ← hquestions, List.length_map]
  · exact time_paced v.delay false ls

/-- Service records around an address, and around one that no resolver has. -/
def spacedState : DesiredState :=
  let service : Record :=
    { name := "_sip._tcp", type := .srv, value := .service ⟨10, 5, 5060, "sip"⟩ }
  .ofRecords "example.com" [service, { name := "www", type := .a, value := .content "192.0.2.9" },
    service, { name := "old", type := .a, value := .content "192.0.2.8" }, service]

/-- Six lookups, of which the last three fail, take five pauses of half a second each. -/
theorem verify_paced_spacedState :
    ∃ report steps ls, ((officeVerifier.logged.verify spacedState).run []).run 0 =
        ((report, steps), 2500) ∧
      steps = officeVerifier.stepsWith ls ∧
      ls.map (·.question) =
        [⟨0, "www.example.com", .a⟩, ⟨1, "www.example.com", .a⟩, ⟨2, "www.example.com", .a⟩,
          ⟨0, "old.example.com", .a⟩, ⟨1, "old.example.com", .a⟩, ⟨2, "old.example.com", .a⟩] ∧
      report.results.map (·.verdict) =
        [.skipped, .propagated, .skipped, .notPropagated, .skipped] ∧
      (steps.map Step.time).sum = 2500 := by
  obtain ⟨steps, hsteps, ls, hpaced, hquestions, hlength, htime⟩ :=
    always_iff_forall.mp (verify_paced officeVerifier spacedState []) 0
  have hsix : ls.length = 6 := hlength.trans (by decide +kernel)
  have hclock : (((officeVerifier.logged.verify spacedState).run []).run 0).2 = 2500 := by
    decide +kernel
  refine ⟨_, steps, ls, Prod.ext (Prod.ext rfl hsteps) hclock, hpaced,
    hquestions.trans (by decide +kernel), by decide +kernel, ?_⟩
  rw [htime, hsix]
  rfl

end Verifier

end ZoneSync
