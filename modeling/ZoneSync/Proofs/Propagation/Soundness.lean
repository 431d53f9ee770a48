import Mathlib.Data.Finset.Card
import ZoneSync.Proofs.Propagation.Agreement
import ZoneSync.Proofs.Propagation.Lookups

namespace ZoneSync

/-!
# Verdicts say what was looked up

A record counts as visible when every resolver answered with the expected value, and in no other
case: a lookup without an answer never counts, and neither does a resolver that was not asked.

* `Lookup.Finds` — a resolver answered with the expected value, among others;
* `Observation.Tells`, `LookedUp`, `Reported` — what an observation and a result say of lookups;
* `PropagationReport.Tells` — what a report says of all of them;
* `Verifier.verify_exact` — every report does so, for any resolvers that are enough.
-/

/-! ### Enough resolvers -/

theorem nodup_eraseDups {α : Type} [DecidableEq α] : ∀ xs : List α, xs.eraseDups.Nodup
  | [] => List.nodup_nil
  | x :: xs => by
    rw [List.eraseDups_cons, List.nodup_cons]
    exact ⟨by simp, nodup_eraseDups _⟩
termination_by xs => xs.length
decreasing_by exact Nat.lt_succ_of_le (List.length_filter_le _ _)

/-- Distinct names are counted once. -/
theorem distinctNames_eq {m : Type → Type} (resolvers : List (Resolver m)) :
    distinctNames resolvers = (resolvers.map (·.name)).toFinset.card := by
  rw [distinctNames, ← List.toFinset_card_of_nodup (nodup_eraseDups _)]
  congr 1
  ext name
  simp

/-! ### Observations and results -/

/-- A resolver answered with the expected value, among others. -/
def Lookup.Finds (expected : String) (l : Lookup) : Prop :=
  ∃ answers, l.answer = .ok answers ∧
    ∃ a ∈ answers, l.question.type.answerMatches expected a = true

/-- What an observation says of a lookup. -/
structure Observation.Tells (expected : String) (l : Lookup) (o : Observation) : Prop where
  answers : o.answers = l.answer.toOption.getD []
  matched_iff : o.outcome = .matched ↔ l.Finds expected
  failed_iff : ∀ failure, o.outcome = .failed failure ↔ l.answer = .error failure

/-- An observation is made from the answer to its lookup. -/
theorem Observation.tells_observation (resolver : String) (expected : String) (l : Lookup) :
    (Verifier.observation resolver l.question.type expected l.answer).Tells expected l := by
  obtain ⟨question, failure | answers⟩ := l
  · refine ⟨rfl, iff_of_false (fun h => by cases h) ?_, fun f => ?_⟩
    · rintro ⟨_, hanswer, _⟩
      cases hanswer
    · simp [Verifier.observation]
  · refine ⟨rfl, ?_, fun f => iff_of_false ?_ fun h => by cases h⟩
    · simp [Verifier.observation, Lookup.Finds]
    · simp only [Verifier.observation]
      split <;> (intro h; cases h)

/-- What the result on a record says, when it was looked up. -/
structure LookedUp {m : Type → Type} (resolvers : List (Resolver m)) (name expected : String)
    (t : Turn Record RecordResult Lookup) : Prop where
  /-- Every resolver is asked once, in order, for the name and the type of the record. -/
  questions : t.events.map (·.question) =
    (List.range resolvers.length).map (⟨·, name, t.subject.type⟩)
  /-- There is one observation for each of them. -/
  names : t.result.observations.map (·.resolver) = resolvers.map (·.name)
  observations : List.Forall₂ (Observation.Tells expected) t.events t.result.observations
  verdict_ne : t.result.verdict ≠ .skipped
  propagated_iff : t.result.verdict = .propagated ↔ ∀ l ∈ t.events, l.Finds expected

/-- What the result on a declared record says. -/
structure Reported {m : Type → Type} (resolvers : List (Resolver m)) (domain : String)
    (t : Turn Record RecordResult Lookup) : Prop where
  key : t.result.key = t.subject.keyIn domain
  name : t.result.name = Name.qualify t.subject.name domain
  type : t.result.type = t.subject.type
  expected : t.result.expected = t.subject.expectedAnswer?
  skipped_iff : t.result.verdict = .skipped ∧ t.result.observations = [] ↔ t.subject.type = .srv
  /-- Service records are not looked up. -/
  unasked : t.subject.type = .srv → t.events = []
  lookedUp : t.subject.type ≠ .srv → ∃ expected, t.subject.expectedAnswer? = some expected ∧
    LookedUp resolvers (Name.qualify t.subject.name domain) expected t

/-- What a report says of the lookups of a run, told apart by the records that they are for. -/
structure PropagationReport.Tells {m : Type → Type} (resolvers : List (Resolver m))
    (s : DesiredState) (turns : List (Turn Record RecordResult Lookup))
    (report : PropagationReport) : Prop where
  records : turns.map (·.subject) = s.records
  results : turns.map (·.result) = report.results
  reported : ∀ t ∈ turns, Reported resolvers s.domain t
  complete_iff : report.isComplete = true ↔ ∀ t ∈ turns, t.subject.type ≠ .srv →
    ∃ expected, t.subject.expectedAnswer? = some expected ∧ ∀ l ∈ t.events, l.Finds expected
  checked : report.checked = report.propagated + report.notPropagated
  total : report.checked + report.skipped = s.records.length
  missing : report.missing = report.results.filter (·.verdict = .notPropagated)

/-! ### What results come to -/

section Results

variable {m : Type → Type} {resolvers : List (Resolver m)} {domain : String} {r : Record}
  {res : RecordResult} {ls : List Lookup}

open Verifier

/-- The observations on a record are those of its lookups. -/
theorem tells_of_observedBy {name expected : String} {type : RecordType}
    {rs : List (Resolver m × Nat)} {os : List Observation}
    (h : InTurn (ObservedBy name type expected) rs os ls) :
    os.map (·.resolver) = rs.map (·.1.name) ∧ List.Forall₂ (Observation.Tells expected) ls os := by
  induction h with
  | nil => exact ⟨rfl, .nil⟩
  | @cons r rs o os ls rest hr _ ih =>
    obtain ⟨answer, rfl, rfl⟩ := hr
    obtain ⟨hnames, htells⟩ := ih
    have hname : (observation r.1.name type expected answer).resolver = r.1.name := by
      cases answer <;> rfl
    refine ⟨?_, .cons (Observation.tells_observation ..) htells⟩
    rw [List.map_cons, List.map_cons, hname, hnames]

/-- A record is found to be visible when all lookups found its answer. -/
theorem propagated_iff_of_tells {expected : String} {os : List Observation}
    (h : List.Forall₂ (Observation.Tells expected) ls os) :
    verdict os = .propagated ↔ ∀ l ∈ ls, l.Finds expected := by
  rw [verdict_eq_propagated_iff]
  induction h with
  | nil => simp
  | cons ho _ ih =>
    rw [List.forall_mem_cons, List.forall_mem_cons, ho.matched_iff]
    exact and_congr_right fun _ => ih

theorem lookedUp_of_checkedBy {expected : String} (h : CheckedBy resolvers domain r res ls)
    (hexpected : r.expectedAnswer? = some expected) :
    LookedUp resolvers (Name.qualify r.name domain) expected ⟨r, res, ls⟩ := by
  rw [CheckedBy, hexpected] at h
  obtain ⟨os, rfl, hos⟩ := h
  obtain ⟨hnames, htells⟩ := tells_of_observedBy hos
  refine ⟨?_, ?_, htells, ?_, propagated_iff_of_tells htells⟩
  · have hplaces : List.range resolvers.length = resolvers.zipIdx.map (·.2) := by
      rw [List.zipIdx_map_snd, List.range_eq_range']
    rw [questions_of_observedBy hos, hplaces, List.map_map]
    rfl
  · rw [hnames]
    conv_rhs => rw [← List.zipIdx_map_fst 0 resolvers, List.map_map]
    rfl
  · simp only [verdict]
    split <;> (intro h; cases h)

theorem skipped_of_checkedBy (h : CheckedBy resolvers domain r res ls)
    (hexpected : r.expectedAnswer? = none) :
    res.verdict = .skipped ∧ res.observations = [] ∧ ls = [] := by
  rw [CheckedBy, hexpected] at h
  obtain ⟨rfl, rfl⟩ := h
  exact ⟨rfl, rfl, rfl⟩

/-- A check is reported as it went, if only service records are without an expected answer. -/
theorem reported_of_checkedBy (h : CheckedBy resolvers domain r res ls)
    (hsrv : r.type ≠ .srv → ∃ expected, r.expectedAnswer? = some expected) :
    Reported resolvers domain ⟨r, res, ls⟩ := by
  have hidentity : res.key = r.keyIn domain ∧ res.name = Name.qualify r.name domain ∧
      res.type = r.type ∧ res.expected = r.expectedAnswer? := by
    unfold CheckedBy at h
    split at h
    · rename_i hexpected
      obtain ⟨rfl, rfl⟩ := h
      exact ⟨rfl, rfl, rfl, hexpected.symm⟩
    · rename_i expected hexpected
      obtain ⟨os, rfl, _⟩ := h
      exact ⟨rfl, rfl, rfl, hexpected.symm⟩
  obtain ⟨hkey, hname, htype, hexpected⟩ := hidentity
  by_cases hservice : r.type = .srv
  · have hnone : r.expectedAnswer? = none := by
      rw [Record.expectedAnswer?, hservice]
    obtain ⟨hverdict, hobservations, hlookups⟩ := skipped_of_checkedBy h hnone
    exact ⟨hkey, hname, htype, hexpected, iff_of_true ⟨hverdict, hobservations⟩ hservice,
      fun _ => hlookups, fun hne => absurd hservice hne⟩
  · obtain ⟨expected, hsome⟩ := hsrv hservice
    have hlookedUp := lookedUp_of_checkedBy h hsome
    exact ⟨hkey, hname, htype, hexpected,
      iff_of_false (fun hskipped => hlookedUp.verdict_ne hskipped.1) hservice,
      fun hservice' => absurd hservice' hservice, fun _ => ⟨expected, hsome, hlookedUp⟩⟩

/-- A record keeps a report from being complete when a lookup did not find its answer. -/
theorem Reported.verdict_ne_iff {t : Turn Record RecordResult Lookup}
    (h : Reported resolvers domain t) :
    t.result.verdict ≠ .notPropagated ↔ (t.subject.type ≠ .srv →
      ∃ expected, t.subject.expectedAnswer? = some expected ∧
        ∀ l ∈ t.events, l.Finds expected) := by
  by_cases hservice : t.subject.type = .srv
  · have hskipped := (h.skipped_iff.mpr hservice).1
    rw [hskipped]
    exact iff_of_true nofun fun hne => absurd hservice hne
  · obtain ⟨expected, hsome, hlookedUp⟩ := h.lookedUp hservice
    have hpropagated : t.result.verdict ≠ .notPropagated ↔ t.result.verdict = .propagated := by
      have hne := hlookedUp.verdict_ne
      cases hv : t.result.verdict <;> simp_all
    rw [hpropagated, hlookedUp.propagated_iff]
    constructor
    · exact fun hfinds _ => ⟨expected, hsome, hfinds⟩
    · intro hfinds
      obtain ⟨expected', hsome', hfinds⟩ := hfinds hservice
      rw [hsome] at hsome'
      exact Option.some.inj hsome' ▸ hfinds

end Results

/-! ### Reports -/

namespace PropagationReport

/-- Every result has one of the three verdicts. -/
theorem length_results (report : PropagationReport) :
    report.results.length = report.propagated + report.notPropagated + report.skipped := by
  simp only [propagated, notPropagated, skipped, count]
  induction report.results with
  | nil => rfl
  | cons res rest ih =>
    rw [List.length_cons, ih]
    simp only [List.countP_cons]
    cases res.verdict <;> simp <;> omega

theorem isComplete_iff (report : PropagationReport) :
    report.isComplete = true ↔ ∀ res ∈ report.results, res.verdict ≠ .notPropagated := by
  simp [isComplete, notPropagated, count]

/-- What is reported turn by turn is reported on the whole. -/
theorem tells_of_reported {m : Type → Type} {resolvers : List (Resolver m)} {s : DesiredState}
    {turns : List (Turn Record RecordResult Lookup)} {report : PropagationReport}
    (hrecords : turns.map (·.subject) = s.records)
    (hresults : turns.map (·.result) = report.results)
    (h : ∀ t ∈ turns, Reported resolvers s.domain t) : report.Tells resolvers s turns := by
  have hlength := report.length_results
  refine ⟨hrecords, hresults, h, ?_, ?_, ?_, rfl⟩
  · rw [isComplete_iff, ← hresults, List.forall_mem_map]
    exact forall₂_congr fun t ht => (h t ht).verdict_ne_iff
  · rw [checked]
    omega
  · have hsame : report.results.length = s.records.length := by
      rw [← hresults, ← hrecords, List.length_map, List.length_map]
    rw [checked, ← hsame]
    omega

end PropagationReport

/-! ### Verifiers -/

namespace Verifier

variable {m : Type → Type}

theorem exists_of_iff (resolvers : List (Resolver m)) (delay : Nat) (pause : Nat → m Unit) :
    (∃ v, Verifier.of resolvers delay pause = .ok v) ↔
      3 ≤ (resolvers.map (·.name)).toFinset.card := by
  rw [← distinctNames_eq, Verifier.of]
  constructor
  · rintro ⟨v, hv⟩
    split at hv
    · rename_i henough
      exact henough
    · exact nomatch hv
  · intro henough
    exact ⟨_, dif_pos henough⟩

theorem resolvers_of {resolvers : List (Resolver m)} {delay : Nat} {pause : Nat → m Unit}
    {v : Verifier m} (h : Verifier.of resolvers delay pause = .ok v) : v.resolvers = resolvers := by
  unfold Verifier.of at h
  split at h
  · rw [← Except.ok.inj h]
  · exact nomatch h

variable [Monad m] [LawfulMonad m]

/-- **Verdicts are sound and complete, whatever the resolvers answer.** There is a verifier for
    resolvers of three or more names. It asks each of them for every record but service records, and
    reports a record as visible when all of them answered with the expected value. -/
theorem verify_exact (resolvers : List (Resolver m)) (delay : Nat) (pause : Nat → m Unit) :
    ((∃ v, Verifier.of resolvers delay pause = .ok v) ↔
        3 ≤ (resolvers.map (·.name)).toFinset.card) ∧
      ∀ v, Verifier.of resolvers delay pause = .ok v →
        ∀ (d : Document) (s : DesiredState), d.load = .ok s →
          Logs (fun report steps => ∃ turns, report.Tells resolvers s turns ∧
              turns.flatMap (·.events) = steps.filterMap Step.lookup?)
            (v.logged.verify s) := by
  refine ⟨exists_of_iff resolvers delay pause, fun v hv d s hload => ?_⟩
  rw [← resolvers_of hv]
  -- In a document that loads only service records are without an expected answer.
  have hexpected : ∀ r ∈ s.records, r.type ≠ .srv → ∃ expected,
      r.expectedAnswer? = some expected := by
    intro r hr hservice
    obtain ⟨e, hparses⟩ := (Document.loaded_of_load hload).exists_parsesTo hr
    obtain ⟨text, htext, _⟩ := hparses.content hservice
    exact ⟨_, Record.expectedAnswer?_of_content htext hservice⟩
  refine (v.logs_verify s).imp ?_
  rintro report _ ⟨ls, rfl, hturn⟩
  obtain ⟨turns, hrecords, hresults, rfl, hchecked⟩ := hturn.exists_turns
  refine ⟨turns, PropagationReport.tells_of_reported hrecords hresults fun t ht => ?_, ?_⟩
  · have hsubject : t.subject ∈ s.records := hrecords ▸ List.mem_map_of_mem ht
    exact reported_of_checkedBy (hchecked t ht) (hexpected t.subject hsubject)
  · exact (lookups_paced ..).symm

/-- Three resolvers beside a clock, of which one has no text for the domain itself. -/
def officeVerifier : Verifier (StateM Nat) where
  resolvers :=
    let served : AnswerTable := [(("www.example.com", .a), .ok ["192.0.2.9"])]
    let text : AnswerTable := [(("example.com", .txt), .ok ["\x22hello\x22"])]
    [.ofTable "192.0.2.53" (served ++ text), .ofTable "192.0.2.54" (served ++ text),
      .ofTable "198.51.100.53" served]
  delay := 500
  pause n := modify (· + n)
  enough := by decide +kernel

/-- The text is not reported as visible. -/
theorem verify_exact_officeVerifier :
    ∃ report steps turns,
      (((officeVerifier.logged.verify wwwState).run []).run 0).1 = (report, steps) ∧
        report.Tells officeVerifier.resolvers wwwState turns ∧
        report.results.map (·.verdict) = [.propagated, .notPropagated] := by
  have hof : Verifier.of officeVerifier.resolvers 500 officeVerifier.pause = .ok officeVerifier :=
    dif_pos officeVerifier.enough
  have hrun := (verify_exact officeVerifier.resolvers 500 officeVerifier.pause).2 officeVerifier hof
    wwwDocument wwwState rfl []
  obtain ⟨steps, hsteps, turns, htells, _⟩ := always_iff_forall.mp hrun 0
  refine ⟨_, steps, turns, Prod.ext rfl hsteps, htells, by decide +kernel⟩

end Verifier

end ZoneSync
