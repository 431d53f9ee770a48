import ZoneSync.Proofs.Concurrency.Evolution
import ZoneSync.Proofs.Concurrency.System
import ZoneSync.Proofs.Document.Loading

namespace ZoneSync

/-!
# Runs of one document at the same time

Any number of clients run one document on one zone, and every one of them plans for the zone as it
was when it read it. The zone converges all the same, and all that can go wrong is that two clients
delete the same record.

* `LostRace` — a deletion that came too late;
* `Underway` — a client in the middle of its plan: which entries are settled, and what the log says
  about records that are gone;
* `Progress`, `System.Invariant` — where a client can be, and all of them at once;
* `System.Invariant.step`, `System.Invariant.run` — one turn, and any schedule;
* `concurrent_sync_converges` — what holds as soon as a client is done, and what no schedule does.
-/

/-! ### Clients in the middle of a plan -/

/-- Whether an entry failed only because it deletes a record that another client had deleted
    before. -/
def LostRace {n : Nat} (i : Fin n) (log : List (Event n)) (c : Change) (o : Outcome) : Prop :=
  ∃ id current earlier later, c.action = .delete id current ∧
    o.failure = some (Error.notFound id).message ∧
    log = earlier ++ ⟨i, .delete id, o.failure⟩ :: later ∧
    ∃ e ∈ earlier, e.client ≠ i ∧ e.Deletes id

theorem LostRace.append {n : Nat} {i : Fin n} {log : List (Event n)} {c : Change} {o : Outcome}
    (h : LostRace i log c o) (e : Event n) : LostRace i (log ++ [e]) c o := by
  obtain ⟨id, current, earlier, later, hc, ho, hlog, hother⟩ := h
  refine ⟨id, current, earlier, later ++ [e], hc, ho, ?_, hother⟩
  rw [hlog, List.append_assoc, List.cons_append]

/-- A client has asked for some entries of the plan for an earlier zone, and the others are still
    to come. -/
structure Underway {n : Nat} (s : DesiredState) (i : Fin n) (z : Zone) (log : List (Event n))
    (z₀ : Zone) (past : List (Change × Option Outcome)) (rest : List Change) : Prop where
  identified : z₀.Identified
  evolves : s.Evolves z₀ z
  entries : (s.plan z₀.records).changes = past.map (·.1) ++ rest
  own : List.Forall₂ Change.HasOutcome (past.map (·.1)) (past.map (·.2))
  settled : ∀ p ∈ past, s.Settled z p.1
  /-- Records are only gone when someone deleted them. -/
  gone : ∀ id ∈ liveIds z₀.records, id ∉ liveIds z.records → ∃ e ∈ log, e.Deletes id
  /-- The client itself has deleted nothing but what its plan says so far. -/
  deletions : ∀ e ∈ log, e.client = i → ∀ id, e.request = .delete id →
    id ∈ changeIds (past.map (·.1))
  failures : ∀ p ∈ past, ∀ o, p.2 = some o → o.isApplied = false → LostRace i log p.1 o

namespace Underway

variable {n : Nat} {s : DesiredState} {i : Fin n} {z z' z₀ : Zone} {log : List (Event n)}
variable {past : List (Change × Option Outcome)} {rest : List Change} {c : Change}

theorem mem_changes (h : Underway s i z log z₀ past rest) {p : Change × Option Outcome}
    (hp : p ∈ past) : p.1 ∈ (s.plan z₀.records).changes := by
  rw [h.entries]
  exact List.mem_append_left _ (List.mem_map_of_mem hp)

theorem mem_changes_of_rest (h : Underway s i z log z₀ past (c :: rest)) :
    c ∈ (s.plan z₀.records).changes := by
  rw [h.entries]
  exact List.mem_append_right _ List.mem_cons_self

/-- A client that has just read the records has the whole plan to ask for. -/
theorem start (hz : z.Identified) (hevolves : s.Evolves z z') (hrecords : z'.records = z.records)
    (hnone : ∀ e ∈ log, e.client ≠ i) {e : Event n} (he : e.request = .list) :
    Underway s i z' (log ++ [e]) z [] (s.plan z.records).changes where
  identified := hz
  evolves := hevolves
  entries := rfl
  own := .nil
  settled := fun _ hp => absurd hp List.not_mem_nil
  gone := fun id hid hgone => absurd (hrecords ▸ hid) hgone
  deletions := by
    intro e' he' hclient id hrequest
    rcases List.mem_append.mp he' with hlog | hnew
    · exact absurd hclient (hnone e' hlog)
    · rw [List.mem_singleton.mp hnew, he] at hrequest
      exact nomatch hrequest
  failures := fun _ hp => absurd hp List.not_mem_nil

/-- The turn of another client does no harm. -/
theorem other (h : Underway s i z log z₀ past rest) (hevolves : s.Evolves z z') {e : Event n}
    (hgone : ∀ id ∈ liveIds z.records, id ∉ liveIds z'.records → e.Deletes id)
    (hother : e.client ≠ i) : Underway s i z' (log ++ [e]) z₀ past rest where
  identified := h.identified
  evolves := h.evolves.trans h.identified hevolves
  entries := h.entries
  own := h.own
  settled := fun p hp =>
    (h.settled p hp).evolves h.identified h.evolves hevolves (h.mem_changes hp)
  gone := by
    intro id hid hnot
    by_cases hmem : id ∈ liveIds z.records
    · exact ⟨e, List.mem_append_right _ (List.mem_singleton.mpr rfl), hgone id hmem hnot⟩
    · obtain ⟨e', he', hdel⟩ := h.gone id hid hmem
      exact ⟨e', List.mem_append_left _ he', hdel⟩
  deletions := by
    intro e' he' hclient
    rcases List.mem_append.mp he' with hlog | hnew
    · exact h.deletions e' hlog hclient
    · rw [List.mem_singleton.mp hnew] at hclient
      exact absurd hclient hother
  failures := fun p hp o ho hfail => (h.failures p hp o ho hfail).append e

/-- An entry that asks for nothing is passed over. -/
theorem skip (hkeys : s.keys.Nodup) (h : Underway s i z log z₀ past (c :: rest)) {id : String}
    (hc : c.action = .unchanged id) : Underway s i z log z₀ (past ++ [(c, none)]) rest where
  identified := h.identified
  evolves := h.evolves
  entries := by
    rw [h.entries, List.map_append, List.append_assoc]
    rfl
  own := by
    rw [List.map_append, List.map_append]
    refine List.rel_append h.own (.cons ?_ .nil)
    unfold Change.HasOutcome
    rw [hc]
    exact trivial
  settled := by
    intro p hp
    rcases List.mem_append.mp hp with hold | hnew
    · exact h.settled p hold
    · rw [List.mem_singleton.mp hnew]
      -- The entry was settled when the plan was made, and has stayed so.
      have hstart := DesiredState.settled_of_unchanged hkeys h.identified h.mem_changes_of_rest hc
      exact hstart.evolves h.identified (DesiredState.evolves_of_records_eq h.identified rfl rfl)
        h.evolves h.mem_changes_of_rest
  gone := h.gone
  deletions := by
    intro e he hclient id' hrequest
    rw [List.map_append, changeIds_append]
    exact List.mem_append_left _ (h.deletions e he hclient id' hrequest)
  failures := by
    intro p hp o ho hfail
    rcases List.mem_append.mp hp with hold | hnew
    · exact h.failures p hold o ho hfail
    · rw [List.mem_singleton.mp hnew] at ho
      exact nomatch ho

/-- When a record is gone after a turn, then the turn deleted it. -/
theorem deletes_of_not_mem_answer (i : Fin n) (hz : z.Identified) {q : Request}
    (hq : c.action.request? = some q) {id : String} (hid : id ∈ liveIds z.records)
    (hgone : id ∉ liveIds ((Zone.provider.answer c).run z).2.records) :
    Event.Deletes ⟨i, q, q.failure? (z.serve q).1⟩ id := by
  obtain ⟨current, haction, ho⟩ := Zone.action_of_not_mem_answer hz hid hgone
  have hdelete : q = .delete id :=
    Option.some.inj (hq.symm.trans (Action.request?_eq_delete_iff.mpr ⟨current, haction⟩))
  obtain ⟨o, hsome, happlied⟩ := (Option.any_eq_true _ _).mp ho
  exact ⟨hdelete, (Zone.failure_serve hq hsome).trans (Option.isNone_iff_eq_none.mp happlied)⟩

/-- When the next entry fails, it deletes a record that is gone. The plan names the record only
    once, so that another client was first. -/
theorem lostRace (hkeys : s.keys.Nodup) (h : Underway s i z log z₀ past (c :: rest))
    (hz : z.Ready) {q : Request} (hq : c.action.request? = some q) {o : Outcome}
    (ho : ((Zone.provider.answer c).run z).1 = some o) (hfail : o.isApplied = false) :
    LostRace i (log ++ [⟨i, q, q.failure? (z.serve q).1⟩]) c o := by
  have hmem := h.mem_changes_of_rest
  have hallowed := DesiredState.allows_of_mem_changes hkeys h.identified h.evolves hmem
  obtain ⟨id, current, haction, hid, hfailure⟩ := DesiredState.failure_answer hz hallowed ho hfail
  have hdelete : q = .delete id :=
    Option.some.inj (hq.symm.trans (Action.request?_eq_delete_iff.mpr ⟨current, haction⟩))
  have hevent : (⟨i, q, q.failure? (z.serve q).1⟩ : Event n) = ⟨i, .delete id, o.failure⟩ := by
    rw [Zone.failure_serve hq ho, hdelete]
  have hnamed : c.action.id? = some id := by
    rw [haction]
    rfl
  -- The record was there when the plan was made, so that someone has deleted it since.
  obtain ⟨l, hl, hlid, _⟩ :=
    DesiredState.exists_of_mem_changeIds (mem_changeIds.mpr ⟨c, hmem, hnamed⟩)
  have hold : id ∈ liveIds z₀.records :=
    hlid ▸ mem_liveIds ((s.managed_sublist z₀.records).subset hl)
  obtain ⟨e, he, hdel⟩ := h.gone id hold hid
  refine ⟨id, current, log, [], haction, hfailure, by rw [hevent], e, he, fun hclient => ?_, hdel⟩
  -- Had it been the client itself, its plan would name the record before, and again now.
  have hpast := h.deletions e he hclient id hdel.1
  have hnodup := s.changeIds_plan_nodup h.identified.nodup
  rw [h.entries, changeIds_append] at hnodup
  exact (List.nodup_append.mp hnodup).2.2 id hpast id
    (mem_changeIds.mpr ⟨c, List.mem_cons_self, hnamed⟩) rfl

/-- The client's own turn settles the next entry. -/
theorem next (hkeys : s.keys.Nodup) (h : Underway s i z log z₀ past (c :: rest)) (hz : z.Ready)
    {q : Request} (hq : c.action.request? = some q) :
    Underway s i ((Zone.provider.answer c).run z).2 (log ++ [⟨i, q, q.failure? (z.serve q).1⟩]) z₀
      (past ++ [(c, ((Zone.provider.answer c).run z).1)]) rest := by
  have hmem := h.mem_changes_of_rest
  have hallowed := DesiredState.allows_of_mem_changes hkeys h.identified h.evolves hmem
  have hevolves := DesiredState.evolves_answer hkeys hz.toIdentified hallowed
  refine {
    identified := h.identified
    evolves := h.evolves.trans h.identified hevolves
    entries := ?_
    own := ?_
    settled := ?_
    gone := ?_
    deletions := ?_
    failures := ?_ }
  · rw [h.entries, List.map_append, List.append_assoc]
    rfl
  · rw [List.map_append, List.map_append]
    exact List.rel_append h.own (.cons (Zone.hasOutcome_answer z c) .nil)
  · intro p hp
    rcases List.mem_append.mp hp with hold | hnew
    · exact (h.settled p hold).evolves h.identified h.evolves hevolves (h.mem_changes hold)
    · rw [List.mem_singleton.mp hnew]
      exact DesiredState.settled_answer hz hallowed (Action.isMutation_of_request? hq)
  · intro id hid hnot
    by_cases hthere : id ∈ liveIds z.records
    · exact ⟨_, List.mem_append_right _ (List.mem_singleton.mpr rfl),
        deletes_of_not_mem_answer i hz.toIdentified hq hthere hnot⟩
    · obtain ⟨e, he, hdel⟩ := h.gone id hid hthere
      exact ⟨e, List.mem_append_left _ he, hdel⟩
  · intro e he hclient id hrequest
    rw [List.map_append, changeIds_append]
    rcases List.mem_append.mp he with hold | hnew
    · exact List.mem_append_left _ (h.deletions e hold hclient id hrequest)
    · rw [List.mem_singleton.mp hnew] at hrequest
      have hdelete : q = .delete id := hrequest
      obtain ⟨current, haction⟩ := Action.request?_eq_delete_iff.mp (hdelete ▸ hq)
      apply List.mem_append_right
      exact mem_changeIds.mpr ⟨c, List.mem_singleton.mpr rfl, by rw [haction]; rfl⟩
  · intro p hp o ho hfail
    rcases List.mem_append.mp hp with hold | hnew
    · exact (h.failures p hold o ho hfail).append _
    · rw [List.mem_singleton.mp hnew] at ho ⊢
      exact h.lostRace hkeys hz hq ho hfail

/-- What a client does next: it is done, or it asks for an entry. -/
theorem exists_next (hkeys : s.keys.Nodup) (h : Underway s i z log z₀ past rest) :
    (∃ past', Underway s i z log z₀ past' [] ∧
        Client.resume (s.plan z₀.records) (past.map (·.2)) rest =
          .done (.ok (s.plan z₀.records, .ofAnswers (past'.map (·.2))))) ∨
      ∃ past' c rest' q, Underway s i z log z₀ past' (c :: rest') ∧
        c.action.request? = some q ∧
        Client.resume (s.plan z₀.records) (past.map (·.2)) rest =
          .ask q fun a =>
            Client.resume (s.plan z₀.records) (past'.map (·.2) ++ [q.outcome? c.key a]) rest' := by
  induction rest generalizing past with
  | nil => exact .inl ⟨past, h, Client.resume_nil _ _⟩
  | cons c rest ih =>
    cases hq : c.action.request? with
    | some q => exact .inr ⟨past, c, rest, q, h, hq, Client.resume_cons_of_some hq⟩
    | none =>
      obtain ⟨id, hc⟩ := Action.request?_eq_none_iff.mp hq
      have hskip := ih (h.skip hkeys hc)
      rw [List.map_append] at hskip
      rw [Client.resume_cons_of_none hq]
      exact hskip

/-- When a client is through with its plan, the zone is what the document says: every declared
    record is settled, and a record without a declaration would have been there from the start. -/
theorem isConverged (hkeys : s.keys.Nodup) (hdomain : ∃ c ∈ s.domain.toList, c ≠ '.')
    (hz : z.Identified) (h : Underway s i z log z₀ past []) :
    (s.plan z.records).isConverged = true := by
  have hentries : (s.plan z₀.records).changes = past.map (·.1) := by
    rw [h.entries, List.append_nil]
  have hsettled : ∀ c ∈ (s.plan z₀.records).changes, s.Settled z c := by
    intro c hc
    rw [hentries] at hc
    obtain ⟨p, hp, rfl⟩ := List.mem_map.mp hc
    exact h.settled p hp
  apply DesiredState.isConverged_of_forall hkeys hz.nodup
  · intro r hr
    have hentry : s.entryFor z₀.records r ∈ (s.plan z₀.records).changes :=
      (DesiredState.mem_changes_iff hkeys h.identified.nodup).mpr (.inl ⟨r, hr, rfl⟩)
    have hholds : s.Holds z (r.keyIn s.domain) :=
      (hsettled _ hentry).holds fun _ _ => DesiredState.actionFor_ne_delete
    exact hholds.exists_candidate hkeys hdomain hr
  · intro l hl
    cases hdel : DesiredState.deletion? s.keys l with
    | none => rfl
    | some c =>
      obtain ⟨key, current, hplan⟩ := h.evolves.exists_delete hkeys h.identified hl hdel
      have hgone : l.id ∉ liveIds z.records := hsettled _ hplan
      exact absurd (mem_liveIds ((s.managed_sublist z.records).subset hl)) hgone

/-- The report of a client that is through with its plan is one on the plan, and lists no failures
    but deletions that came too late. -/
theorem report (h : Underway s i z log z₀ past []) :
    (s.plan z₀.records).ReportedBy (.ofAnswers (past.map (·.2))) ∧
      ∀ c o, (c, some o) ∈ (s.plan z₀.records).settled (.ofAnswers (past.map (·.2))) →
        o.isApplied = false → LostRace i log c o := by
  have hentries : (s.plan z₀.records).changes = past.map (·.1) := by
    rw [h.entries, List.append_nil]
  have hout : List.Forall₂ Change.HasOutcome (s.plan z₀.records).changes (past.map (·.2)) :=
    hentries ▸ h.own
  have hpast : (past.map (·.1)).zip (past.map (·.2)) = past := by
    rw [List.zip_map', List.map_id']
  refine ⟨Plan.reportedBy_ofAnswers hout, fun c o hmem hfail => ?_⟩
  rw [Plan.settled_ofAnswers hout, hentries, hpast] at hmem
  exact h.failures _ hmem o rfl hfail

end Underway

/-! ### All clients at once -/

/-- Where a client can be: it has asked for nothing yet, or it is in the middle of a plan. -/
inductive Progress {n : Nat} (s : DesiredState) (i : Fin n) (z : Zone) (log : List (Event n)) :
    Client (Except Error (Plan × ApplyReport)) → Prop
  | waiting (h : ∀ e ∈ log, e.client ≠ i) : Progress s i z log (Client.provider.sync s)
  | underway {z₀ : Zone} {past : List (Change × Option Outcome)} {rest : List Change}
      (h : Underway s i z log z₀ past rest) :
      Progress s i z log (Client.resume (s.plan z₀.records) (past.map (·.2)) rest)

/-- The turn of another client does no harm. -/
theorem Progress.other {n : Nat} {s : DesiredState} {i : Fin n} {z z' : Zone}
    {log : List (Event n)} {client : Client (Except Error (Plan × ApplyReport))}
    (h : Progress s i z log client) (hevolves : s.Evolves z z') {e : Event n}
    (hgone : ∀ id ∈ liveIds z.records, id ∉ liveIds z'.records → e.Deletes id)
    (hother : e.client ≠ i) : Progress s i z' (log ++ [e]) client := by
  cases h with
  | waiting hnone =>
    refine .waiting fun e' he' => ?_
    rcases List.mem_append.mp he' with hlog | hnew
    · exact hnone e' hlog
    · rw [List.mem_singleton.mp hnew]
      exact hother
  | underway hunderway => exact .underway (hunderway.other hevolves hgone hother)

/-- The turn of a client that asks for something: the zone stays one without faults and becomes what
    others rely on, the log says what is gone, and the client goes on. -/
theorem Progress.own {n : Nat} {s : DesiredState} {i : Fin n} {z : Zone} {log : List (Event n)}
    {q : Request} {next : q.Answer → Client (Except Error (Plan × ApplyReport))}
    (hkeys : s.keys.Nodup) (hz : z.Ready) (h : Progress s i z log (.ask q next)) :
    let e : Event n := ⟨i, q, q.failure? (z.serve q).1⟩
    (z.serve q).2.Ready ∧ s.Evolves z (z.serve q).2 ∧
      (∀ id ∈ liveIds z.records, id ∉ liveIds (z.serve q).2.records → e.Deletes id) ∧
      Progress s i (z.serve q).2 (log ++ [e]) (next (z.serve q).1) := by
  generalize hclient : Client.ask q next = client at h
  cases h with
  | waiting hnone =>
    -- The client reads the records, and plans for the zone as it is now.
    rw [Client.sync_eq_ask] at hclient
    cases hclient
    obtain ⟨hanswer, hrecords, hnextId, hready⟩ := hz.serve_list
    have hsame : s.Evolves z (z.serve .list).2 :=
      DesiredState.evolves_of_records_eq hz.toIdentified hrecords hnextId
    refine ⟨hready, hsame, fun id hid hgone => absurd (hrecords ▸ hid) hgone, ?_⟩
    rw [hanswer]
    exact .underway (Underway.start hz.toIdentified hsame hrecords hnone rfl)
  | underway hunderway =>
    -- The client asks for the first entry that asks for anything.
    rcases hunderway.exists_next hkeys with ⟨past', _, hdone⟩ |
      ⟨past', c, rest', q', hnext, hq, hask⟩
    · rw [hdone] at hclient
      exact nomatch hclient
    · rw [hask] at hclient
      cases hclient
      have hserve := Zone.serve_of_request? hq z
      have hzone : ((Zone.provider.answer c).run z).2 = (z.serve q).2 := by rw [hserve]
      have hallowed := DesiredState.allows_of_mem_changes hkeys hnext.identified hnext.evolves
        hnext.mem_changes_of_rest
      have hown := hnext.next hkeys hz hq
      rw [hzone] at hown
      refine ⟨hzone ▸ hz.answer c,
        hzone ▸ DesiredState.evolves_answer hkeys hz.toIdentified hallowed, ?_, ?_⟩
      · intro id hid hgone
        rw [← hzone] at hgone
        exact Underway.deletes_of_not_mem_answer i hz.toIdentified hq hid hgone
      · have hpast : (past' ++ [(c, ((Zone.provider.answer c).run z).1)]).map (·.2) =
            past'.map (·.2) ++ [q.outcome? c.key (z.serve q).1] := by
          rw [List.map_append, hserve]
          rfl
        have hprogress := Progress.underway hown
        rw [hpast] at hprogress
        exact hprogress

namespace System

variable {n : Nat} {s : DesiredState} {sys : System n}

/-- A zone without faults, on which every client makes progress. -/
structure Invariant (s : DesiredState) (sys : System n) : Prop where
  ready : sys.zone.Ready
  progress : ∀ i, Progress s i sys.zone sys.log (sys.clients i)

theorem invariant_start {z : Zone} (hz : z.Ready) : (start n s z).Invariant s where
  ready := hz
  progress := fun _ => .waiting fun _ he => absurd he List.not_mem_nil

/-- **One turn.** -/
theorem Invariant.step (hkeys : s.keys.Nodup) (h : sys.Invariant s) (i : Fin n) :
    (sys.step i).Invariant s ∧ s.Evolves sys.zone (sys.step i).zone := by
  cases hclient : sys.clients i with
  | done result =>
    rw [step_of_done hclient]
    exact ⟨h, DesiredState.evolves_of_records_eq h.ready.toIdentified rfl rfl⟩
  | ask q next =>
    have hprogress := h.progress i
    rw [hclient] at hprogress
    obtain ⟨hready, hevolves, hgone, hnext⟩ := hprogress.own hkeys h.ready
    rw [step_of_ask hclient]
    refine ⟨⟨hready, fun j => ?_⟩, hevolves⟩
    -- The client itself goes on, and all others have to do with the turn of another one.
    by_cases hj : j = i
    · subst hj
      show Progress s j _ _ (Function.update sys.clients j _ j)
      rw [Function.update_self]
      exact hnext
    · show Progress s j _ _ (Function.update sys.clients i _ j)
      rw [Function.update_of_ne hj]
      exact (h.progress j).other hevolves hgone (fun heq => hj heq.symm)

/-- **Any schedule.** -/
theorem Invariant.run (hkeys : s.keys.Nodup) (h : sys.Invariant s) (schedule : List (Fin n)) :
    (sys.run schedule).Invariant s ∧ s.Evolves sys.zone (sys.run schedule).zone := by
  induction schedule generalizing sys with
  | nil => exact ⟨h, DesiredState.evolves_of_records_eq h.ready.toIdentified rfl rfl⟩
  | cons i schedule ih =>
    obtain ⟨hstep, hevolves⟩ := h.step hkeys i
    obtain ⟨hrun, hevolves'⟩ := ih hstep
    rw [run_cons]
    exact ⟨hrun, hevolves.trans h.ready.toIdentified hevolves'⟩

end System

/-! ### Convergence -/

/-- **Runs of one document at the same time.** Clients take turns with a zone in any order, all of
    them running the document. As soon as one of them is done, the plan for the zone keeps one
    record for every declared one and asks for nothing, and it stays so; all that can have failed
    are deletions of records that another client had deleted before. And at no time is a record of a
    declared key deleted. -/
theorem concurrent_sync_converges {d : Document} {s : DesiredState} (hload : d.load = .ok s)
    {z : Zone} (hz : z.Ready) (n : Nat) (schedule : List (Fin n)) :
    let sys := (System.start n s z).run schedule
    (∀ i result, sys.clients i = .done result →
      (∃ live report, result = .ok (s.plan live, report) ∧ (s.plan live).ReportedBy report ∧
        ∀ c o, (c, some o) ∈ (s.plan live).settled report → o.isApplied = false →
          LostRace i sys.log c o) ∧
      (s.plan sys.zone.records).isConverged = true ∧
      (s.plan sys.zone.records).changes.map (·.key) = s.keys ∧
      ∀ c ∈ (s.plan sys.zone.records).changes, ∃ id, c.action = .unchanged id) ∧
    ∀ earlier later, schedule = earlier ++ later →
      ∀ l ∈ ((System.start n s z).run earlier).zone.records, l.key ∈ s.keys →
        ∃ l' ∈ sys.zone.records, l'.id = l.id ∧ l'.key = l.key := by
  intro sys
  have hloaded := Document.loaded_of_load hload
  have hdomain := Document.exists_ne_dot_of_isDomainText hloaded.isDomain
  have hstart := System.invariant_start (n := n) (s := s) hz
  constructor
  · intro i result hdone
    obtain ⟨hinv, _⟩ := hstart.run hloaded.keys schedule
    have hprogress := hinv.progress i
    rw [hdone] at hprogress
    generalize hclient : Client.done result = client at hprogress
    cases hprogress with
    | waiting _ =>
      -- A client that has asked for nothing yet is not done.
      rw [Client.sync_eq_ask] at hclient
      exact nomatch hclient
    | @underway z₀ past rest hunderway =>
      rcases hunderway.exists_next hloaded.keys with ⟨past', hall, hresume⟩ |
        ⟨_, _, _, _, _, _, hask⟩
      · rw [hresume] at hclient
        obtain ⟨hreport, hfailures⟩ := hall.report
        have hconverged := hall.isConverged hloaded.keys hdomain hinv.ready.toIdentified
        exact ⟨⟨z₀.records, _, Client.done.inj hclient, hreport, hfailures⟩, hconverged,
          DesiredState.changes_of_isConverged hloaded.keys hinv.ready.nodup hconverged⟩
      · rw [hask] at hclient
        exact nomatch hclient
  · intro earlier later hsplit l hl hkey
    obtain ⟨hinv, _⟩ := hstart.run hloaded.keys earlier
    obtain ⟨_, hevolves⟩ := hinv.run hloaded.keys later
    rw [← System.run_append, ← hsplit] at hevolves
    obtain ⟨l', hl', hid, _⟩ := hevolves.kept l hl hkey
    exact ⟨l', hl', hid, hevolves.keys l hl l' hl' hid⟩

/-- A zone with a record to replace and one to delete. -/
def raceZone : Zone where
  records := [
    ⟨"1", { name := "www.example.com", type := .a, value := .content "192.0.2.1" }⟩,
    ⟨"2", { name := "old.example.com", type := .a, value := .content "192.0.2.2" }⟩]

/-- Two clients that read this zone one right after the other both get done, and the plan has
    converged. -/
theorem concurrent_sync_converges_raceZone :
    let sys := (System.start 2 wwwState raceZone).run [0, 1, 0, 0, 0, 1, 1, 1]
    wwwDocument.load = .ok wwwState ∧ raceZone.Ready ∧
      (∀ i, ∃ result, sys.clients i = .done result) ∧
      (wwwState.plan sys.zone.records).isConverged = true := by
  intro sys
  have hload : wwwDocument.load = .ok wwwState := rfl
  have hz : raceZone.Ready :=
    ⟨Zone.identified_of_not_prefix (by decide) (by decide), rfl, rfl⟩
  have hdone : ∀ i, ∃ result, sys.clients i = .done result := by
    intro i
    match i with
    | 0 => exact ⟨_, rfl⟩
    | 1 => exact ⟨_, rfl⟩
  obtain ⟨result, hresult⟩ := hdone 0
  obtain ⟨hclients, _⟩ := concurrent_sync_converges hload hz 2 [0, 1, 0, 0, 0, 1, 1, 1]
  obtain ⟨_, hconverged, _⟩ := hclients 0 result hresult
  exact ⟨hload, hz, hdone, hconverged⟩

end ZoneSync
