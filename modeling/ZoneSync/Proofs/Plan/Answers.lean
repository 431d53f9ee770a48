import Mathlib.Data.List.Forall2
import Mathlib.Data.List.ReduceOption
import ZoneSync.Plan.Apply

namespace ZoneSync

/-!
# Carrying out a plan, request by request

Carrying out a plan does two things that have nothing to do with each other: it asks the provider
for every entry in turn, and it counts the answers. Here they are taken apart, so that what a run
does to a provider can be looked at without the report, and the report without the provider.

* `Provider.answer` — the outcome of one entry, which an entry that asks for nothing does not have;
* `ApplyReport.ofAnswers` — the report on the outcomes of a run;
* `Plan.apply_eq_map`, `Provider.sync_eq` — a run is the answers of the provider in order, and then
  the report on them;
* `Plan.settled` — the entries of a plan with their outcomes, read off a report;
* `settle_reduceOption`, `Plan.ReportedBy` — no outcome is given to the wrong entry.
-/

/-! ### Answers -/

/-- The reason for an error, as a report notes it. -/
def failure? {α : Type} : Except Error α → Option String
  | .ok _ => none
  | .error e => some e.message

variable {m : Type → Type} [Monad m]

/-- Ask for one entry; the outcome is noted under its key. -/
def Provider.answer (p : Provider m) (c : Change) : m (Option Outcome) :=
  match c.action with
  | .create record => do return some ⟨c.key, .create, failure? (← p.create record)⟩
  | .update id record _ => do return some ⟨c.key, .update, failure? (← p.update id record)⟩
  | .delete id _ => do return some ⟨c.key, .delete, failure? (← p.delete id)⟩
  | .unchanged _ => pure none

namespace ApplyReport

/-- The report with what became of one more entry. -/
def note (r : ApplyReport) : Option Outcome → ApplyReport
  | none => r.keep
  | some o => { outcomes := r.outcomes ++ [o], stats := r.stats.addRequest o.operation o.failure }

/-- The report on what became of the entries of a plan. -/
def ofAnswers (os : List (Option Outcome)) : ApplyReport := os.foldl note {}

/-- An answer is noted as its outcome. -/
theorem add_eq_note {α : Type} (r : ApplyReport) (key : RecordKey) (op : Operation)
    (answer : Except Error α) :
    r.add key op answer = r.note (some ⟨key, op, failure? answer⟩) := by
  cases answer <;> rfl

end ApplyReport

/-! ### A run as its answers -/

section Lawful

variable [LawfulMonad m]

/-- Carrying out an entry is asking for it, and noting the outcome. -/
theorem Change.apply_eq_map (p : Provider m) (r : ApplyReport) (c : Change) :
    Change.apply p r c = r.note <$> p.answer c := by
  unfold Change.apply Provider.answer
  cases c.action
  case unchanged id => rw [map_pure]; rfl
  all_goals simp only [ApplyReport.add_eq_note, bind_pure_comp, Functor.map_map]

/-- Noting every outcome as it comes is noting all of them in the end. -/
theorem foldlM_apply (p : Provider m) (cs : List Change) (r : ApplyReport) :
    cs.foldlM (Change.apply p) r =
      (fun os => os.foldl ApplyReport.note r) <$> cs.mapM p.answer := by
  -- Every entry adds to the report so far, so the induction is for any report to start with.
  induction cs generalizing r with
  | nil => simp
  | cons c cs ih =>
    rw [List.foldlM_cons, List.mapM_cons, Change.apply_eq_map, bind_map_left]
    simp only [ih, map_bind, map_pure, List.foldl_cons]
    simp only [← bind_pure_comp]

/-- A plan is carried out by asking for its entries in order. -/
theorem Plan.apply_eq_map (plan : Plan) (p : Provider m) :
    plan.apply p = ApplyReport.ofAnswers <$> plan.changes.mapM p.answer :=
  foldlM_apply p plan.changes {}

/-- A whole run: the live records are read, and the entries of the plan for them asked for. -/
theorem Provider.sync_eq (p : Provider m) (s : DesiredState) :
    p.sync s = p.list >>= fun answer =>
      match answer with
      | .ok live =>
        (fun os => .ok (s.plan live, ApplyReport.ofAnswers os)) <$>
          (s.plan live).changes.mapM p.answer
      | .error e => pure (.error e) := by
  unfold Provider.sync Provider.plan
  simp only [bind_assoc]
  congr 1
  funext answer
  cases answer with
  | ok live => simp only [pure_bind, Plan.apply_eq_map, bind_pure_comp, Functor.map_map]
  | error e => simp only [pure_bind]

end Lawful

/-! ### Reports -/

namespace ApplyReport

theorem outcomes_foldl_note (os : List (Option Outcome)) (r : ApplyReport) :
    (os.foldl note r).outcomes = r.outcomes ++ os.reduceOption := by
  induction os generalizing r with
  | nil => simp
  | cons o os ih =>
    rw [List.foldl_cons, ih]
    cases o with
    | none => rw [List.reduceOption_cons_of_none]; rfl
    | some o => rw [List.reduceOption_cons_of_some]; simp [note]

/-- A report lists the outcomes in the order of the answers. -/
@[simp] theorem outcomes_ofAnswers (os : List (Option Outcome)) :
    (ofAnswers os).outcomes = os.reduceOption := by
  rw [ofAnswers, outcomes_foldl_note]
  rfl

theorem failed_foldl_note (os : List (Option Outcome)) (r : ApplyReport) :
    (os.foldl note r).stats.failed =
      r.stats.failed + os.countP (fun o => o.any (!·.isApplied)) := by
  induction os generalizing r with
  | nil => simp
  | cons o os ih =>
    rw [List.foldl_cons, ih, List.countP_cons]
    rcases o with _ | ⟨key, op, failure⟩
    · simp [note, keep]
    · cases failure with
      | none => cases op <;> simp [note, Stats.addRequest, Stats.addApplied, Outcome.isApplied]
      | some reason =>
        simp [note, Stats.addRequest, Outcome.isApplied]
        omega

/-- A report is one of success when no outcome is a failure. -/
theorem isSuccess_ofAnswers (os : List (Option Outcome)) :
    (ofAnswers os).isSuccess = true ↔ ∀ o ∈ os, o.all (·.isApplied) = true := by
  rw [isSuccess, decide_eq_true_eq, ofAnswers, failed_foldl_note]
  simp only [Nat.zero_add, List.countP_eq_zero]
  refine forall₂_congr fun o _ => ?_
  cases o <;> simp

end ApplyReport

/-! ### The entries of a plan with their outcomes -/

/-- The entries with their outcomes: the ones that ask for something take the outcomes in order,
    and the others have none. -/
def settle : List Change → List Outcome → List (Change × Option Outcome)
  | [], _ => []
  | c :: cs, os =>
    if c.action.isMutation then (c, os.head?) :: settle cs os.tail else (c, none) :: settle cs os

/-- The entries of a plan with the outcomes that a report gives them. -/
def Plan.settled (plan : Plan) (r : ApplyReport) : List (Change × Option Outcome) :=
  settle plan.changes r.outcomes

/-- Whether an outcome belongs to an entry: it is there when the entry asks for something, and
    names its key and its operation. -/
def Change.HasOutcome (c : Change) (o : Option Outcome) : Prop :=
  match c.action, o with
  | .create _, some o => o.key = c.key ∧ o.operation = .create
  | .update _ _ _, some o => o.key = c.key ∧ o.operation = .update
  | .delete _ _, some o => o.key = c.key ∧ o.operation = .delete
  | .unchanged _, none => True
  | _, _ => False

theorem Change.HasOutcome.isSome_eq {c : Change} {o : Option Outcome} (h : c.HasOutcome o) :
    o.isSome = c.action.isMutation := by
  unfold Change.HasOutcome at h
  split at h <;> simp_all [Action.isMutation]

/-- A report that leaves out the entries without an outcome still says which outcome is whose. -/
theorem settle_reduceOption {cs : List Change} {os : List (Option Outcome)}
    (h : List.Forall₂ Change.HasOutcome cs os) : settle cs os.reduceOption = cs.zip os := by
  induction h with
  | nil => rfl
  | @cons c o cs os hco hrest ih =>
    have ho := hco.isSome_eq
    -- Only an entry that asks for something takes an outcome off the list.
    cases o with
    | none =>
      have hm : ¬ c.action.isMutation = true := by simp [← ho]
      rw [List.reduceOption_cons_of_none, settle, if_neg hm, ih, List.zip_cons_cons]
    | some o =>
      have hm : c.action.isMutation = true := by simp [← ho]
      rw [List.reduceOption_cons_of_some, settle, if_pos hm, List.tail_cons, ih,
        List.zip_cons_cons]
      rfl

/-- A report on a run gives the entries the outcomes that the provider answered them with. -/
theorem Plan.settled_ofAnswers {plan : Plan} {os : List (Option Outcome)}
    (h : List.Forall₂ Change.HasOutcome plan.changes os) :
    plan.settled (.ofAnswers os) = plan.changes.zip os := by
  rw [Plan.settled, ApplyReport.outcomes_ofAnswers, settle_reduceOption h]

/-- Whether a report is one on a plan: its outcomes are those of the entries, in order, and no entry
    is without its own. -/
structure Plan.ReportedBy (plan : Plan) (r : ApplyReport) : Prop where
  entries : (plan.settled r).map (·.1) = plan.changes
  outcomes : r.outcomes = (plan.settled r).filterMap (·.2)
  own : ∀ p ∈ plan.settled r, p.1.HasOutcome p.2

theorem Plan.reportedBy_ofAnswers {plan : Plan} {os : List (Option Outcome)}
    (h : List.Forall₂ Change.HasOutcome plan.changes os) :
    plan.ReportedBy (.ofAnswers os) := by
  have hsettled := Plan.settled_ofAnswers h
  constructor
  · rw [hsettled, List.map_fst_zip (Nat.le_of_eq h.length_eq)]
  · have hsnd : os.filterMap id = (plan.changes.zip os).filterMap (·.2) := by
      have hle : os.length ≤ plan.changes.length := Nat.le_of_eq h.length_eq.symm
      rw [← List.map_snd_zip hle, List.filterMap_map, List.map_snd_zip hle]
      rfl
    rw [hsettled, ApplyReport.outcomes_ofAnswers, List.reduceOption, hsnd]
  · rw [hsettled]
    exact fun p hp => (List.forall₂_iff_zip.mp h).2 hp

end ZoneSync
