import ZoneSync.Proofs.Concurrency.Client
import ZoneSync.Proofs.Runs.Logs
import ZoneSync.Proofs.Zone.Identifiers

namespace ZoneSync

/-!
# What a run asks of its provider

Carrying out a plan goes on after a failure, so that the calls of a run are settled by the plan
alone, and the report by what the provider says to them.

* `Call`, `Provider.logged` — a request with its answer, and a provider that puts its calls down;
* `ApplyReport.Tallied` — the counts of a report are those of its outcomes, entry by entry;
* `Plan.AppliedBy` — a report on a plan, against the calls that were made for it;
* `Provider.apply_exact` — every run of a plan makes its calls, and is reported as it went.
-/

/-! ### Calls -/

/-- A request to a provider, with what the provider said. -/
structure Call where
  request : Request
  answer : request.Answer

/-- Why a call failed, if it did. -/
def Call.failure? (c : Call) : Option String := c.request.failure? c.answer

variable {m : Type → Type} [Monad m]

/-- The call that reads the live records. -/
def Call.listing (answer : Except Error (List LiveRecord)) : Call := ⟨.list, answer⟩

/-- A provider whose calls are put down. -/
def Provider.logged (p : Provider m) : Provider (Logged Call m) where
  name := p.name
  list := logStep Call.listing p.list
  create r := logStep (fun a => ⟨.create r, a⟩) (p.create r)
  update id r := logStep (fun a => ⟨.update id r, a⟩) (p.update id r)
  delete id := logStep (fun a => ⟨.delete id, a⟩) (p.delete id)

/-- Whether an entry has its outcome from these calls: from the one call that it asks for, if it
    asks for one. -/
def Change.AnsweredBy (c : Change) (o : Option Outcome) (calls : List Call) : Prop :=
  match c.action.request? with
  | none => o = none ∧ calls = []
  | some q => ∃ a, o = q.outcome? c.key a ∧ calls = [⟨q, a⟩]

/-- An entry is asked for with one call, and has its outcome from the answer. -/
theorem Provider.logs_answer [LawfulMonad m] (p : Provider m) (c : Change) :
    Logs c.AnsweredBy (p.logged.answer c) := by
  obtain ⟨key, action⟩ := c
  cases action with
  | create r =>
    refine Logs.bind (Logs.of_logStep _ (p.create r)) ?_
    rintro a _ rfl
    exact Logs.pure_of ⟨a, rfl, rfl⟩
  | update id r current =>
    refine Logs.bind (Logs.of_logStep _ (p.update id r)) ?_
    rintro a _ rfl
    exact Logs.pure_of ⟨a, rfl, rfl⟩
  | delete id current =>
    refine Logs.bind (Logs.of_logStep _ (p.delete id)) ?_
    rintro a _ rfl
    exact Logs.pure_of ⟨a, rfl, rfl⟩
  | unchanged id => exact Logs.pure_of ⟨rfl, rfl⟩

/-! ### Counts -/

namespace ApplyReport

/-- The number of operations of a kind that were carried out. -/
def applied (r : ApplyReport) (op : Operation) : Nat :=
  r.outcomes.countP fun o => o.isApplied && o.operation = op

/-- The counts of a report are those of its outcomes. -/
structure Tallied (r : ApplyReport) : Prop where
  created : r.stats.created = r.applied .create
  updated : r.stats.updated = r.applied .update
  deleted : r.stats.deleted = r.applied .delete
  failed : r.stats.failed = r.failures.length

/-- Noting what became of one more entry keeps the counts right. -/
theorem Tallied.note {r : ApplyReport} (h : r.Tallied) (o : Option Outcome) :
    (r.note o).Tallied := by
  obtain ⟨hcreated, hupdated, hdeleted, hfailed⟩ := h
  rcases o with _ | ⟨key, op, _ | reason⟩
  · exact ⟨hcreated, hupdated, hdeleted, hfailed⟩
  · cases op <;> constructor <;>
      simp_all [ApplyReport.note, applied, failures, Stats.addRequest, Stats.addApplied,
        Outcome.isApplied]
  · constructor <;>
      simp_all [ApplyReport.note, applied, failures, Stats.addRequest, Outcome.isApplied]

theorem tallied_ofAnswers (os : List (Option Outcome)) : (ofAnswers os).Tallied := by
  have hfold : ∀ r : ApplyReport, r.Tallied → (os.foldl note r).Tallied := by
    induction os with
    | nil => exact fun r h => h
    | cons o os ih => exact fun r h => ih _ (h.note o)
  exact hfold {} ⟨rfl, rfl, rfl, rfl⟩

/-- Every outcome counts once. -/
theorem Tallied.sum_eq {r : ApplyReport} (h : r.Tallied) :
    r.stats.created + r.stats.updated + r.stats.deleted + r.stats.failed = r.outcomes.length := by
  rw [h.created, h.updated, h.deleted, h.failed]
  simp only [applied, failures, ← List.countP_eq_length_filter]
  induction r.outcomes with
  | nil => rfl
  | cons o os ih =>
    simp only [List.countP_cons, List.length_cons, ← ih]
    obtain ⟨key, op, _ | reason⟩ := o
    · cases op <;> grind [Outcome.isApplied]
    · grind [Outcome.isApplied]

theorem unchanged_foldl_note (os : List (Option Outcome)) (r : ApplyReport) :
    (os.foldl note r).stats.unchanged = r.stats.unchanged + os.countP (·.isNone) := by
  induction os generalizing r with
  | nil => rfl
  | cons o os ih =>
    rw [List.foldl_cons, ih, List.countP_cons]
    rcases o with _ | ⟨key, op, _ | reason⟩
    · simp [note, keep]
      omega
    · cases op <;> simp [note, Stats.addRequest, Stats.addApplied]
    · simp [note, Stats.addRequest]

end ApplyReport

/-- The operation that an action asks for, if it asks for one. -/
def Action.operation? : Action → Option Operation
  | .create _ => some .create
  | .update _ _ _ => some .update
  | .delete _ _ => some .delete
  | .unchanged _ => none

theorem Action.isMutation_eq (a : Action) : a.isMutation = a.operation?.isSome := by
  cases a <;> rfl

/-- The number of entries that ask for an operation, or for none. -/
def Plan.count (p : Plan) (op : Option Operation) : Nat :=
  p.changes.countP fun c => c.action.operation? = op

/-- A summary counts the entries by their operations. -/
theorem Plan.summary_eq (p : Plan) : p.summary =
    { create := p.count (some .create), update := p.count (some .update)
      delete := p.count (some .delete), unchanged := p.count none } := by
  have hfold : ∀ (cs : List Change) (s : Summary),
      cs.foldl (fun s c => s.add c.action) s =
        { create := s.create + cs.countP (·.action.operation? = some .create)
          update := s.update + cs.countP (·.action.operation? = some .update)
          delete := s.delete + cs.countP (·.action.operation? = some .delete)
          unchanged := s.unchanged + cs.countP (·.action.operation? = none) } := by
    intro cs
    induction cs with
    | nil => exact fun s => rfl
    | cons c cs ih =>
      intro s
      obtain ⟨key, action⟩ := c
      rw [List.foldl_cons, ih]
      simp only [List.countP_cons]
      cases action <;> simp [Summary.add, Action.operation?] <;> omega
  have hsummary := hfold p.changes {}
  simp only [Nat.zero_add] at hsummary
  exact hsummary

/-! ### Runs of plans -/

/-- What an entry was asked for with, and what it came to, if it asks for something. -/
theorem Change.AnsweredBy.cases {c : Change} {o : Option Outcome} {calls : List Call}
    (h : c.AnsweredBy o calls) :
    c.action.isMutation = false ∧ o = none ∧ calls = [] ∨
      ∃ call outcome, c.action.isMutation = true ∧ o = some outcome ∧ calls = [call] ∧
        c.action.request? = some call.request ∧ c.HasOutcome (some outcome) ∧
        outcome.failure = call.failure? := by
  obtain ⟨key, action⟩ := c
  cases action with
  | unchanged id => exact .inl ⟨rfl, h⟩
  | create r =>
    obtain ⟨a, rfl, rfl⟩ := h
    exact .inr ⟨_, _, rfl, rfl, rfl, rfl, ⟨rfl, rfl⟩, rfl⟩
  | update id r current =>
    obtain ⟨a, rfl, rfl⟩ := h
    exact .inr ⟨_, _, rfl, rfl, rfl, rfl, ⟨rfl, rfl⟩, rfl⟩
  | delete id current =>
    obtain ⟨a, rfl, rfl⟩ := h
    exact .inr ⟨_, _, rfl, rfl, rfl, rfl, ⟨rfl, rfl⟩, rfl⟩

/-- Whether a report on a plan is one on these calls. -/
structure Plan.AppliedBy (plan : Plan) (report : ApplyReport) (calls : List Call) : Prop where
  /-- There is one call for every entry that asks for something, in the order of the plan. -/
  requests : calls.map (some ·.request) = plan.mutations.map (·.action.request?)
  /-- There is one outcome for each of them, under its key and its operation. -/
  outcomes : List.Forall₂ (fun c o => c.HasOutcome (some o)) plan.mutations report.outcomes
  /-- It notes a failure, with the wording of the error, when the call was answered with one. -/
  failures : report.outcomes.map (·.failure) = calls.map (·.failure?)
  tallied : report.Tallied
  unchanged : report.stats.unchanged = plan.summary.unchanged
  total : report.stats.created + report.stats.updated + report.stats.deleted +
    report.stats.unchanged + report.stats.failed = plan.changes.length

variable {cs : List Change} {os : List (Option Outcome)} {calls : List Call}

/-- Entries that are asked for in turn have their calls and their outcomes in the same order. -/
theorem answered_in_turn (h : InTurn Change.AnsweredBy cs os calls) :
    calls.map (some ·.request) = (cs.filter (·.action.isMutation)).map (·.action.request?) ∧
      List.Forall₂ (fun c o => c.HasOutcome (some o)) (cs.filter (·.action.isMutation))
        os.reduceOption ∧
      os.reduceOption.map (·.failure) = calls.map (·.failure?) ∧
      os.countP (·.isNone) = cs.countP (·.action.operation? = none) := by
  induction h with
  | nil => exact ⟨rfl, .nil, rfl, rfl⟩
  | @cons c cs o os calls rest hc _ ih =>
    obtain ⟨hrequests, houtcomes, hfailures, hnone⟩ := ih
    have hkind : c.action.isMutation = c.action.operation?.isSome := c.action.isMutation_eq
    rcases hc.cases with ⟨hm, rfl, rfl⟩ | ⟨call, outcome, hm, rfl, rfl, hq, ho, hf⟩
    · have hfilter : (c :: cs).filter (·.action.isMutation) = cs.filter (·.action.isMutation) :=
        List.filter_cons_of_neg (by simp [hm])
      rw [hfilter, List.reduceOption_cons_of_none]
      refine ⟨hrequests, houtcomes, hfailures, ?_⟩
      simp_all
    · have hfilter : (c :: cs).filter (·.action.isMutation) =
          c :: cs.filter (·.action.isMutation) := List.filter_cons_of_pos (by simp [hm])
      rw [hfilter, List.reduceOption_cons_of_some]
      refine ⟨?_, .cons ho houtcomes, ?_, ?_⟩
      · simp [hrequests, hq]
      · simp [hfailures, hf]
      · simp_all [Option.isSome_iff_ne_none]

theorem Plan.appliedBy_ofAnswers {plan : Plan}
    (h : InTurn Change.AnsweredBy plan.changes os calls) :
    plan.AppliedBy (.ofAnswers os) calls := by
  obtain ⟨hrequests, houtcomes, hfailures, hnone⟩ := answered_in_turn h
  have htallied := ApplyReport.tallied_ofAnswers os
  have hunchanged : (ApplyReport.ofAnswers os).stats.unchanged = plan.count none := by
    rw [ApplyReport.ofAnswers, ApplyReport.unchanged_foldl_note, hnone]
    exact Nat.zero_add _
  rw [← ApplyReport.outcomes_ofAnswers] at houtcomes hfailures
  refine ⟨hrequests, houtcomes, hfailures, htallied, ?_, ?_⟩
  · rw [hunchanged, plan.summary_eq]
  · -- An entry has an outcome, or it is left alone.
    have hsum := htallied.sum_eq
    rw [← houtcomes.length_eq, ← List.countP_eq_length_filter] at hsum
    have hsplit := plan.changes.length_eq_countP_add_countP (p := fun c => c.action.isMutation)
    have hleft : plan.count none = plan.changes.countP fun c => ¬ c.action.isMutation = true := by
      refine List.countP_congr fun c _ => ?_
      simp [c.action.isMutation_eq]
    omega

/-- Whether a run of a desired state comes to a result by these calls. Without the live records
    there is no other call. -/
def DesiredState.SyncedBy (s : DesiredState) (result : Except Error (Plan × ApplyReport))
    (calls : List Call) : Prop :=
  match result with
  | .ok (plan, report) => ∃ live applied, calls = .listing (.ok live) :: applied ∧
      plan = s.plan live ∧ plan.AppliedBy report applied
  | .error e => calls = [.listing (.error e)]

namespace Provider

variable [LawfulMonad m]

theorem logs_apply (p : Provider m) (plan : Plan) :
    Logs plan.AppliedBy (plan.apply p.logged) := by
  rw [Plan.apply_eq_map]
  refine Logs.map ?_
  exact (Logs.mapM fun c _ => p.logs_answer c).imp fun _ _ h => Plan.appliedBy_ofAnswers h

theorem logs_sync (p : Provider m) (s : DesiredState) : Logs s.SyncedBy (p.logged.sync s) := by
  rw [Provider.sync_eq]
  refine Logs.bind (Logs.of_logStep Call.listing p.list) ?_
  rintro (e | live) _ rfl
  · exact Logs.pure_of rfl
  · refine Logs.map ?_
    refine (Logs.mapM fun c _ => p.logs_answer c).imp fun os calls h => ?_
    exact ⟨live, calls, rfl, rfl, Plan.appliedBy_ofAnswers h⟩

/-- **Plans are carried out exactly, whatever the provider does.** There is one call for every entry
    that asks for something, in the order of the plan, and no other; every call has its outcome, and
    the counts are those of the outcomes. When the live records cannot be read, nothing is asked
    for. -/
theorem apply_exact (p : Provider m) :
    (∀ plan : Plan, Logs plan.AppliedBy (plan.apply p.logged)) ∧
      ∀ s : DesiredState, Logs s.SyncedBy (p.logged.sync s) :=
  ⟨p.logs_apply, p.logs_sync⟩

/-- A plan that asks for two deletions, of which `mixedZone` refuses the first. -/
def stuckPlan : Plan where
  domain := "example.com"
  changes := [
    ⟨⟨"stuck.example.com", .a⟩,
      .delete "4" { name := "stuck.example.com", type := .a, value := .content "192.0.2.4" }⟩,
    ⟨⟨"www.example.com", .a⟩, .unchanged "3"⟩,
    ⟨⟨"old.example.com", .a⟩,
      .delete "1" { name := "old.example.com", type := .a, value := .content "192.0.2.1" }⟩]

/-- The second deletion is carried out all the same. -/
theorem apply_exact_stuckPlan :
    ∃ report calls z,
      ((stuckPlan.apply Zone.provider.logged).run []).run mixedZone = ((report, calls), z) ∧
        stuckPlan.AppliedBy report calls ∧ calls.map (·.request) = [.delete "4", .delete "1"] ∧
        report.stats = { deleted := 1, unchanged := 1, failed := 1 } := by
  obtain ⟨calls, hcalls, happlied⟩ :=
    always_iff_forall.mp ((apply_exact Zone.provider).1 stuckPlan []) mixedZone
  have hrequests : calls.map (some ·.request) = [some (.delete "4"), some (.delete "1")] :=
    happlied.requests
  refine ⟨_, calls, _, Prod.ext (Prod.ext rfl hcalls) rfl, happlied, ?_, by decide +kernel⟩
  refine List.map_injective_iff.mpr (fun _ _ => Option.some.inj) ?_
  rw [List.map_map]
  exact hrequests

end Provider

end ZoneSync
