import ZoneSync.Proofs.Cloudflare.Changes

namespace ZoneSync.Cloudflare

open Http

/-!
# What the server settles

How a run of a desired state ends is settled by the replies of the server: those to the listing say
whether there is a plan, and those after it which entries of the plan are carried out.

* `Client.Reaches` — the listing comes to live records, and some exchanges follow it;
* `Client.Attempts` — there is one exchange for every entry that asks for something, or none at all
  in a dry run;
* `Client.Completes` — all of these exchanges carry their actions out;
* `Client.logs_plan`, `Client.logs_settled` — how the runs end in terms of these.
-/

namespace Client

variable {c : Client} {zone : String} {s : DesiredState}

/-- Whether a run gets as far as its plan, and which exchanges follow the listing. -/
def Reaches (c : Client) (s : DesiredState) (plan : Plan) (es later : List Exchange) : Prop :=
  ∃ live session listing, c.ListedBy {} (.ok live, session) listing ∧ es = listing ++ later ∧
    plan = s.plan live

/-- There is one plan at most, and the listing ends at one place. -/
theorem Reaches.unique {plan plan' : Plan} {es later later' : List Exchange}
    (h : c.Reaches s plan es later) (h' : c.Reaches s plan' es later') :
    plan = plan' ∧ later = later' := by
  obtain ⟨live, session, listing, hlisted, rfl, rfl⟩ := h
  obtain ⟨live', session', listing', hlisted', hes, rfl⟩ := h'
  obtain ⟨hp, rfl⟩ := hlisted.unique hlisted' hes
  rw [Except.ok.inj (Prod.mk.inj hp).1]
  exact ⟨rfl, List.append_cancel_left hes⟩

/-- Without live records there is no plan. -/
theorem ListedBy.not_reaches {e : Error} {session : Session} {es : List Exchange}
    (h : c.ListedBy {} (.error e, session) es) (plan : Plan) (later : List Exchange) :
    ¬ c.Reaches s plan es later := by
  rintro ⟨live, session', listing, hlisted, hes, -⟩
  rw [← List.append_nil es] at hes
  have hresult := congrArg Prod.fst (h.unique hlisted hes).1
  cases hresult

/-- Whether the exchanges after a listing are those for a plan. -/
def Attempts (c : Client) (plan : Plan) (later : List Exchange) : Prop :=
  if c.dryRun then later = [] else ∃ zone, c.Sends zone plan later

/-- Whether all exchanges for a plan carry their actions out. -/
def Completes (plan : Plan) (later : List Exchange) : Prop :=
  ∀ p ∈ plan.mutations.zip later, CarriesOut p.2 p.1.action

/-- Entries are reported as carried out when their exchanges carry them out. -/
theorem carriesOut_in_turn {cs : List Change} {os : List (Option Outcome)} {es : List Exchange}
    (h : InTurn (c.AnsweredBy zone) cs os es) :
    (∀ o ∈ os, o.all (·.isApplied) = true) ↔
      ∀ p ∈ (cs.filter (·.action.isMutation)).zip es, CarriesOut p.2 p.1.action := by
  induction h with
  | nil => simp
  | @cons change cs o os es rest hc _ ih =>
    obtain ⟨ho, hanswered⟩ := hc
    rw [List.forall_mem_cons, ih]
    cases hm : change.action.isMutation with
    | false =>
      -- An entry that asks for nothing has neither an outcome nor an exchange.
      have hnone : o = none := by
        rw [← Option.not_isSome_iff_eq_none, ho.isSome_eq, hm]
        exact Bool.false_ne_true
      have hrequest : c.actionRequest? zone change.action = none := by
        rw [← Option.not_isSome_iff_eq_none, isSome_actionRequest?, hm]
        exact Bool.false_ne_true
      rw [hrequest] at hanswered
      rw [hnone, show es = [] from hanswered, List.nil_append,
        List.filter_cons_of_neg (by simp [hm])]
      exact and_iff_right rfl
    | true =>
      -- Any other entry has the next exchange, and its outcome says what came back.
      have hrequest : (c.actionRequest? zone change.action).isSome = true := by
        rw [isSome_actionRequest?, hm]
      obtain ⟨request, hrequest⟩ := Option.isSome_iff_exists.mp hrequest
      rw [hrequest] at hanswered
      obtain ⟨q, reply, -, rfl, happlied⟩ := hanswered
      rw [List.filter_cons_of_pos (by simp [hm]), List.singleton_append, List.zip_cons_cons,
        List.forall_mem_cons, happlied]

/-- How a run ends, given its exchanges. -/
inductive Settled (c : Client) (s : DesiredState) (es : List Exchange) :
    Except Error (Plan × ApplyReport) → Prop where
  | unlisted {e : Error} :
    (∀ plan later, ¬ c.Reaches s plan es later) → (∀ x ∈ es, x.request.method = .get) →
      Settled c s es (.error e)
  | planned {plan : Plan} {later : List Exchange} {report : ApplyReport} :
    c.Reaches s plan es later → c.Attempts plan later →
      (report.isSuccess = true ↔ Completes plan later) → Settled c s es (.ok (plan, report))

/-- A run ends as its replies say. -/
theorem RunBy.settled {result : Except Error (Plan × ApplyReport)} {es : List Exchange}
    (h : c.RunBy s result es) : c.Settled s es result := by
  cases h with
  | unlisted hlisted => exact .unlisted (fun _ _ => hlisted.not_reaches _ _) hlisted.method_eq_get
  | @rehearsed live session es hdry hlisted =>
    have hreaches : c.Reaches s (s.plan live) es [] :=
      ⟨live, session, es, hlisted, (List.append_nil es).symm, rfl⟩
    refine .planned hreaches ?_ ?_
    · rw [Attempts, if_pos hdry]
    · refine iff_of_true (Plan.rehearsed_ofAnswers _).isSuccess ?_
      rw [Completes, List.zip_nil_right]
      exact List.forall_mem_nil _
  | @answered live session listing later zone os hlive hlisted hknows hturns =>
    refine .planned ⟨live, session, listing, hlisted, rfl, rfl⟩ ?_ ?_
    · rw [Attempts, if_neg (by simp [hlive])]
      exact ⟨zone, sends_of_requests (requests_in_turn hturns).2⟩
    · rw [ApplyReport.isSuccess_ofAnswers, carriesOut_in_turn hturns]
      rfl

variable {m : Type → Type} [Monad m] [LawfulMonad m] (c : Client) (send : Transport m)

end Client

end ZoneSync.Cloudflare
