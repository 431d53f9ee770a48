import Mathlib.Data.List.Pairwise
import ZoneSync.Proofs.Plan.Entries
import ZoneSync.Proofs.Zone.Identifiers

namespace ZoneSync

/-!
# What a run leaves alone

A run of a plan changes the zone at the places that the plan names, and nowhere else, whatever of
it fails. This holds for any declared records: they may share keys, and nothing is asked of their
names.

* `carriedOut`, `Plan.applied` — the entries that were carried out, by the report;
* `LiveRecord.after`, `createdFrom` — what becomes of a live record, and the new records;
* `Zone.records_carryOut` — the zone after any entries that name no record twice;
* `sync_frame` — the zone after a run, and the records that it spares.
-/

/-! ### Entries that were carried out -/

/-- The entries whose outcome is a success. -/
def carriedOut (settled : List (Change × Option Outcome)) : List Change :=
  (settled.filter fun p => p.2.any (·.isApplied)).map (·.1)

/-- The entries of a plan that were carried out, as a report has it. -/
def Plan.applied (plan : Plan) (r : ApplyReport) : List Change := carriedOut (plan.settled r)

theorem carriedOut_cons_of_applied {c : Change} {o : Option Outcome}
    {rest : List (Change × Option Outcome)} (h : o.any (·.isApplied) = true) :
    carriedOut ((c, o) :: rest) = c :: carriedOut rest := by
  rw [carriedOut, List.filter_cons_of_pos (by simpa using h)]
  rfl

theorem carriedOut_cons_of_kept {c : Change} {o : Option Outcome}
    {rest : List (Change × Option Outcome)} (h : o.any (·.isApplied) = false) :
    carriedOut ((c, o) :: rest) = carriedOut rest := by
  rw [carriedOut, List.filter_cons_of_neg (by simpa using h)]
  rfl

theorem mem_carriedOut {settled : List (Change × Option Outcome)} {c : Change} :
    c ∈ carriedOut settled ↔ ∃ o, (c, o) ∈ settled ∧ o.any (·.isApplied) = true := by
  simp [carriedOut]

theorem mem_changeIds_of_carriedOut {cs : List Change} {os : List (Option Outcome)} {id : String}
    (h : id ∈ changeIds (carriedOut (cs.zip os))) : id ∈ changeIds cs := by
  obtain ⟨c, hc, hid⟩ := mem_changeIds.mp h
  obtain ⟨o, hmem, _⟩ := mem_carriedOut.mp hc
  exact mem_changeIds.mpr ⟨c, (List.of_mem_zip hmem).1, hid⟩

/-! ### What becomes of records -/

/-- What an action makes of the live record that it names. -/
def Action.effect (a : Action) (l : LiveRecord) : Option LiveRecord :=
  match a with
  | .update id r _ => some ⟨id, Zone.stored r⟩
  | .delete _ _ => none
  | .create _ => some l
  | .unchanged _ => some l

/-- What becomes of a live record when entries are carried out: what the one that names it makes of
    it, and without one it stays as it is. -/
def LiveRecord.after (l : LiveRecord) (applied : List Change) : Option LiveRecord :=
  match applied.find? fun c => c.action.id? = some l.id with
  | some c => c.action.effect l
  | none => some l

/-- The records that entries add when they are carried out, with identifiers from `n` on. -/
def createdFrom (n : Nat) : List Change → List LiveRecord
  | [] => []
  | c :: cs =>
    match c.action with
    | .create r => ⟨Zone.newId n, Zone.stored r⟩ :: createdFrom (n + 1) cs
    | _ => createdFrom n cs

/-- An entry that names a record adds none. -/
theorem createdFrom_cons_of_id? {c : Change} {id : String} (h : c.action.id? = some id) (n : Nat)
    (cs : List Change) : createdFrom n (c :: cs) = createdFrom n cs := by
  rw [createdFrom]
  split
  · rename_i r haction
    rw [haction] at h
    exact nomatch h
  · rfl

namespace LiveRecord

variable {l : LiveRecord} {c : Change} {cs : List Change}

theorem after_cons_of_ne (h : c.action.id? ≠ some l.id) : l.after (c :: cs) = l.after cs := by
  rw [after, after, List.find?_cons_of_neg (by simpa using h)]

theorem after_cons_of_eq (h : c.action.id? = some l.id) :
    l.after (c :: cs) = c.action.effect l := by
  rw [after, List.find?_cons_of_pos (by simpa using h)]

/-- A record that is not named stays as it is. -/
theorem after_eq_self (h : l.id ∉ changeIds cs) : l.after cs = some l := by
  have hnone : cs.find? (fun c => c.action.id? = some l.id) = none := by
    rw [List.find?_eq_none]
    intro c hc hid
    exact h (mem_changeIds.mpr ⟨c, hc, by simpa using hid⟩)
  rw [after, hnone]

end LiveRecord

namespace Zone

/-! ### The zone after a run -/

/-- **One answer.** What an answer does now and later entries do afterwards, they do together; the
    later ones must name neither the record of the first entry nor one that it creates. -/
theorem records_answer {z : Zone} (hz : z.Identified) (c : Change)
    (later : List (Change × Option Outcome))
    (hold : newId z.nextId ∉ changeIds (carriedOut later))
    (hother : ∀ id, c.action.id? = some id → id ∉ changeIds (carriedOut later)) :
    ((provider.answer c).run z).2.records.filterMap (·.after (carriedOut later)) ++
        createdFrom ((provider.answer c).run z).2.nextId (carriedOut later) =
      z.records.filterMap (·.after (carriedOut ((c, ((provider.answer c).run z).1) :: later))) ++
        createdFrom z.nextId (carriedOut ((c, ((provider.answer c).run z).1) :: later)) := by
  cases answered hz c with
  | kept ho hr hn => rw [carriedOut_cons_of_kept ho, hr, hn]
  | created r hc ho hr hn =>
    have hadd : createdFrom z.nextId (c :: carriedOut later) =
        [⟨newId z.nextId, stored r⟩] ++ createdFrom (z.nextId + 1) (carriedOut later) := by
      rw [createdFrom, hc]
      rfl
    -- Later entries leave the new record alone, as none of them names it.
    have hnew : [(⟨newId z.nextId, stored r⟩ : LiveRecord)].filterMap
        (·.after (carriedOut later)) = [⟨newId z.nextId, stored r⟩] := by
      have hself : LiveRecord.after ⟨newId z.nextId, stored r⟩ (carriedOut later) =
          some ⟨newId z.nextId, stored r⟩ := LiveRecord.after_eq_self hold
      rw [List.filterMap_cons]
      simp only [hself, List.filterMap_nil]
    have hstay : ∀ l ∈ z.records, l.after (c :: carriedOut later) = l.after (carriedOut later) :=
      fun l _ => LiveRecord.after_cons_of_ne (by rw [hc]; exact fun h => nomatch h)
    rw [carriedOut_cons_of_applied ho, hr, hn, hadd, List.filterMap_append, hnew,
      List.filterMap_congr hstay, List.append_assoc]
  | updated id r current hc ho hr hn =>
    have hid : c.action.id? = some id := by rw [hc]; rfl
    have hadd := createdFrom_cons_of_id? hid z.nextId (carriedOut later)
    -- Later entries leave the new value alone, as the record is named only here.
    have hupdate : ∀ l ∈ z.records, l.after (c :: carriedOut later) =
        LiveRecord.after (if l.id = id then ⟨id, stored r⟩ else l) (carriedOut later) := by
      intro l _
      by_cases hlid : l.id = id
      · rw [if_pos hlid, LiveRecord.after_cons_of_eq (hlid ▸ hid), hc]
        exact (LiveRecord.after_eq_self (hother id hid)).symm
      · rw [if_neg hlid, LiveRecord.after_cons_of_ne]
        rw [hid]
        exact fun h => hlid (Option.some.inj h).symm
    rw [carriedOut_cons_of_applied ho, hr, hn, hadd, replaceAll, List.filterMap_map,
      List.filterMap_congr hupdate]
    rfl
  | deleted id current hc ho hr hn =>
    have hid : c.action.id? = some id := by rw [hc]; rfl
    have hadd := createdFrom_cons_of_id? hid z.nextId (carriedOut later)
    have hdelete : ∀ l ∈ z.records, l.after (c :: carriedOut later) =
        if decide (l.id ≠ id) = true then l.after (carriedOut later) else none := by
      intro l _
      by_cases hlid : l.id = id
      · rw [if_neg (by simpa using hlid), LiveRecord.after_cons_of_eq (hlid ▸ hid), hc]
        rfl
      · rw [if_pos (by simpa using hlid), LiveRecord.after_cons_of_ne]
        rw [hid]
        exact fun h => hlid (Option.some.inj h).symm
    rw [carriedOut_cons_of_applied ho, hr, hn, hadd, List.filterMap_filter,
      List.filterMap_congr hdelete]

/-- **A whole run.** After entries that name no record twice, and none that will be created, every
    record stays in its place unless an entry removed it, and the new ones follow in order. -/
theorem records_carryOut (cs : List Change) {z : Zone} (hz : z.Identified)
    (hnodup : (changeIds cs).Nodup)
    (hold : ∀ n, z.nextId ≤ n → newId n ∉ changeIds cs) :
    (z.carryOut cs).2.records =
      z.records.filterMap (·.after (carriedOut (cs.zip (z.carryOut cs).1))) ++
        createdFrom z.nextId (carriedOut (cs.zip (z.carryOut cs).1)) := by
  -- The rest of the entries is for the zone that the first one leaves.
  induction cs generalizing z with
  | nil =>
    have hkeep : ∀ l ∈ z.records, l.after [] = some l := fun _ _ => rfl
    show z.records = z.records.filterMap (·.after []) ++ []
    rw [List.filterMap_congr hkeep, List.filterMap_some, List.append_nil]
  | cons c cs ih =>
    have hle := nextId_le_answer hz c
    have hsub : (changeIds cs).Sublist (changeIds (c :: cs)) :=
      (List.sublist_cons_self c cs).filterMap _
    have hrest := ih (hz.answer c) (hsub.nodup hnodup)
      (fun n hn hid => hold n (le_trans hle hn) (hsub.subset hid))
    rw [carryOut_cons, List.zip_cons_cons, hrest]
    apply records_answer hz c
    · exact fun h => hold z.nextId (le_refl _) (hsub.subset (mem_changeIds_of_carriedOut h))
    · intro id hid h
      have hcons : changeIds (c :: cs) = id :: changeIds cs := List.filterMap_cons_some hid
      rw [hcons, List.nodup_cons] at hnodup
      exact hnodup.1 (mem_changeIds_of_carriedOut h)

end Zone

/-! ### Records that are spared -/

/-- The live records that a run has no business with: those outside of the domain, those of an
    undeclared key whose type is preserved, further ones of a declared key, and those whose request
    failed. -/
def DesiredState.Spares (s : DesiredState) (plan : Plan) (report : ApplyReport)
    (l : LiveRecord) : Prop :=
  Name.inDomain l.record.name s.domain = false ∨
    (l.key ∉ s.keys ∧ l.record.type.isPreserved = true) ∨
    (l.key ∈ s.keys ∧ l.id ∉ changeIds plan.changes) ∨
    ∃ c o, (c, some o) ∈ plan.settled report ∧ c.action.id? = some l.id ∧ o.isApplied = false

/-- Entries that name no record twice are told apart by the records they name. -/
theorem eq_of_id?_eq {settled : List (Change × Option Outcome)}
    (hnodup : (changeIds (settled.map (·.1))).Nodup) {p q : Change × Option Outcome} {id : String}
    (hp : p ∈ settled) (hq : q ∈ settled) (hpid : p.1.action.id? = some id)
    (hqid : q.1.action.id? = some id) : p = q := by
  by_contra hne
  have hids : (settled.filterMap fun p => p.1.action.id?).Nodup := by
    rw [changeIds, List.filterMap_map] at hnodup
    exact hnodup
  have hpair := List.pairwise_filterMap.mp hids
  have : Std.Symm fun a a' : Change × Option Outcome =>
      ∀ b, a.1.action.id? = some b → ∀ b', a'.1.action.id? = some b' → b ≠ b' :=
    ⟨fun a a' h b hb b' hb' heq => h b' hb' b hb heq.symm⟩
  exact hpair.forall hp hq hne id hpid id hqid rfl

theorem DesiredState.Spares.not_mem_applied {s : DesiredState} {live : List LiveRecord}
    (hids : (liveIds live).Nodup) {report : ApplyReport} {l : LiveRecord} (hl : l ∈ live)
    (hchanges : ((s.plan live).settled report).map (·.1) = (s.plan live).changes)
    (h : s.Spares (s.plan live) report l) :
    l.id ∉ changeIds ((s.plan live).applied report) := by
  intro hid
  obtain ⟨c, hc, hcid⟩ := mem_changeIds.mp hid
  obtain ⟨o, hmem, ho⟩ := mem_carriedOut.mp hc
  have hplan : l.id ∈ changeIds (s.plan live).changes :=
    mem_changeIds.mpr ⟨c, hchanges ▸ List.mem_map_of_mem hmem, hcid⟩
  obtain ⟨l', hl', hlid, hkind⟩ := exists_of_mem_changeIds hplan
  have hsame : l' = l := eq_of_id_eq hids ((s.managed_sublist live).subset hl') hl hlid
  rw [hsame] at hl' hkind
  -- Whatever spares a record is at odds with an entry that was carried out and names it.
  rcases h with hout | ⟨hkey, htype⟩ | ⟨_, hextra⟩ | ⟨c', o', hmem', hcid', ho'⟩
  · have hin := (List.mem_filter.mp hl').2
    rw [hout] at hin
    exact nomatch hin
  · rcases hkind with hdeclared | ⟨_, hnot⟩
    · exact hkey hdeclared
    · rw [htype] at hnot
      exact nomatch hnot
  · exact hextra hplan
  · have hnodup := hchanges ▸ s.changeIds_plan_nodup hids
    have heq := eq_of_id?_eq hnodup hmem hmem' hcid hcid'
    rw [Prod.mk.injEq] at heq
    rw [heq.2, Option.any_some, ho'] at ho
    exact nomatch ho

/-- **Frame of a run.** Whatever fails, the zone after a run is the zone before it, in order, with
    the records removed and replaced that the carried out entries name, and the created ones behind.
    No record is named twice, and the records that the run has no business with are all still there
    as they were. -/
theorem sync_frame (s : DesiredState) {z : Zone} (hz : z.Identified)
    (hlist : z.listingFails = false) :
    ∃ report z', (Zone.provider.sync s).run z = (.ok (s.plan z.records, report), z') ∧
      (s.plan z.records).ReportedBy report ∧
      (changeIds (s.plan z.records).changes).Nodup ∧
      z'.records = z.records.filterMap (·.after ((s.plan z.records).applied report)) ++
        createdFrom z.nextId ((s.plan z.records).applied report) ∧
      ∀ l ∈ z.records, s.Spares (s.plan z.records) report l → l ∈ z'.records := by
  obtain ⟨calls, hrun⟩ := Zone.run_sync s hlist
  let z₀ : Zone := { z with calls := calls }
  have hz₀ : z₀.Identified := ⟨hz.nodup, hz.fresh⟩
  let run := z₀.carryOut (s.plan z.records).changes
  have hids := s.changeIds_plan_nodup hz.nodup
  have hout : List.Forall₂ Change.HasOutcome (s.plan z.records).changes run.1 :=
    z₀.forall₂_carryOut (s.plan z.records).changes
  have hreport := Plan.reportedBy_ofAnswers hout
  have hrecords : run.2.records =
      z.records.filterMap (·.after ((s.plan z.records).applied (.ofAnswers run.1))) ++
        createdFrom z.nextId ((s.plan z.records).applied (.ofAnswers run.1)) := by
    rw [Plan.applied, Plan.settled_ofAnswers hout]
    refine Zone.records_carryOut _ hz₀ hids fun n hn hid => hz.fresh n hn ?_
    obtain ⟨l, hl, hlid, _⟩ := DesiredState.exists_of_mem_changeIds hid
    exact hlid ▸ mem_liveIds ((s.managed_sublist z.records).subset hl)
  refine ⟨.ofAnswers run.1, run.2, hrun, hreport, hids, hrecords, ?_⟩
  intro l hl hspared
  have hkept : l.after ((s.plan z.records).applied (.ofAnswers run.1)) = some l :=
    LiveRecord.after_eq_self (hspared.not_mem_applied hz.nodup hl hreport.entries)
  rw [hrecords]
  apply List.mem_append_left
  exact List.mem_filterMap.mpr ⟨l, hl, hkept⟩

/-- Two declared records of one key, which no document could declare. -/
def twinState : DesiredState := .ofRecords "example.com" [
  { name := "www", type := .a, value := .content "192.0.2.9" },
  { name := "WWW", type := .a, value := .content "192.0.2.10" }]

/-- What becomes of the records of `mixedZone` in their run: one is removed, that of the other
    domain stays, one is replaced, and one stays because it cannot be removed. -/
def mixedAfter : List (Option LiveRecord) := [
  none,
  some ⟨"2", { name := "www.example.org", type := .a, value := .content "192.0.2.2",
               ttl := .seconds 60, comment := some "not ours" }⟩,
  some ⟨"3", { name := "www.example.com", type := .a, value := .content "192.0.2.9",
               proxied := some true }⟩,
  some ⟨"4", { name := "stuck.example.com", type := .a, value := .content "192.0.2.4" }⟩]

/-- The record that their run adds to it. -/
def mixedCreated : LiveRecord :=
  ⟨"rec-new-0", { name := "WWW.example.com", type := .a, value := .content "192.0.2.10",
                  proxied := some true }⟩

/-- Their run removes, replaces and adds just these records, and that of the other domain is
    spared. -/
theorem sync_frame_mixedZone :
    ∃ report z', (Zone.provider.sync twinState).run mixedZone =
        (.ok (twinState.plan mixedZone.records, report), z') ∧
      (twinState.plan mixedZone.records).ReportedBy report ∧
      (changeIds (twinState.plan mixedZone.records).changes).Nodup ∧
      mixedZone.records.map
        (·.after ((twinState.plan mixedZone.records).applied report)) = mixedAfter ∧
      createdFrom mixedZone.nextId ((twinState.plan mixedZone.records).applied report) =
        [mixedCreated] ∧
      z'.records = mixedAfter.reduceOption ++ [mixedCreated] ∧
      ⟨"2", { name := "www.example.org", type := .a, value := .content "192.0.2.2",
              ttl := .seconds 60, comment := some "not ours" }⟩ ∈ z'.records := by
  obtain ⟨report, z', hrun, hreported, hids, hrecords, hspared⟩ :=
    sync_frame twinState identified_mixedZone rfl
  have happlied : (((Zone.provider.sync twinState).run mixedZone).1.toOption.map fun p =>
      (mixedZone.records.map (·.after (p.1.applied p.2)),
        createdFrom mixedZone.nextId (p.1.applied p.2))) = some (mixedAfter, [mixedCreated]) := by
    decide +kernel
  rw [hrun] at happlied
  obtain ⟨hafter, hcreated⟩ := Prod.mk.inj (Option.some.inj happlied)
  refine ⟨report, z', hrun, hreported, hids, hafter, hcreated, ?_, hspared _ ?_ (.inl ?_)⟩
  · rw [hrecords, hcreated, ← hafter, List.reduceOption, List.filterMap_map]
    rfl
  · decide
  · decide

end ZoneSync
