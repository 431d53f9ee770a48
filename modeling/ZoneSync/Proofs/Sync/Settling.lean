import ZoneSync.Proofs.Plan.Deletions
import ZoneSync.Proofs.Plan.Matching
import ZoneSync.Proofs.Sync.Frame
import ZoneSync.Proofs.Sync.Residual

namespace ZoneSync

/-!
# One run settles everything

In a zone without faults every request of a plan is carried out. Then each declared record has a
live one of its own, whether it shares its key with others or not, and the next plan keeps one for
each.

* `Zone.Identified.applied_answer`, `Zone.Identified.applied_carryOut` — one entry, and entries that
  name different records of the zone, are carried out;
* `Zone.records_faultless` — the zone after a run without faults;
* `servedIds` — the identifiers of the records that declared ones have then;
* `DesiredState.exists_served` — a live record for each declared one;
* `DesiredState.not_isStale_of_after`, `DesiredState.not_isStale_of_created` — nothing is left to
  delete;
* `DesiredState.forall₂_changes_plan_after`, `sync_settles` — the plan after everything was carried
  out, and after one run.
-/

namespace Zone

/-! ### Runs without faults -/

variable {z : Zone} {c : Change} {cs : List Change}

theorem fails_eq_false (h : z.failing = []) (name : String) : z.fails name = false := by
  simp [fails, h]

/-- An entry that names a record of the zone is carried out, and no fault comes up in that. -/
theorem Identified.applied_answer (hz : z.Identified) (hfailing : z.failing = [])
    (hid : ∀ id, c.action.id? = some id → id ∈ liveIds z.records) :
    ((provider.answer c).run z).1.all (·.isApplied) = true ∧
      ((provider.answer c).run z).2.failing = [] := by
  have hnot : ∀ name, ¬ z.fails name = true :=
    fun name => Bool.eq_false_iff.mp (fails_eq_false hfailing name)
  unfold Provider.answer
  cases hc : c.action with
  | unchanged id => exact ⟨rfl, hfailing⟩
  | create r =>
    show (some (⟨c.key, .create, failure? (z.create r).1⟩ : Outcome)).all (·.isApplied) = true ∧
      (z.create r).2.failing = []
    obtain ⟨calls, h⟩ := create_eq z r
    rw [h, if_neg (hnot _)]
    exact ⟨rfl, hfailing⟩
  | update id r current =>
    show (some (⟨c.key, .update, failure? (z.update id r).1⟩ : Outcome)).all (·.isApplied) = true ∧
      (z.update id r).2.failing = []
    obtain ⟨calls, h⟩ := update_eq hz id r
    rw [h, if_neg (hnot _), if_pos (hid id (by rw [hc]; rfl))]
    exact ⟨rfl, hfailing⟩
  | delete id current =>
    show (some (⟨c.key, .delete, failure? (z.delete id).1⟩ : Outcome)).all (·.isApplied) = true ∧
      (z.delete id).2.failing = []
    obtain ⟨l, hl, rfl⟩ := List.mem_map.mp (hid id (by rw [hc]; rfl))
    obtain ⟨calls, h⟩ := delete_of_mem hz hl
    rw [h, if_neg (hnot _)]
    exact ⟨rfl, hfailing⟩

/-- A record stays when an entry is asked for that does not name it. -/
theorem Identified.mem_liveIds_answer (hz : z.Identified) {id : String}
    (hid : id ∈ liveIds z.records) (hother : c.action.id? ≠ some id) :
    id ∈ liveIds ((provider.answer c).run z).2.records := by
  cases answered hz c with
  | kept _ hr _ => rwa [hr]
  | created r _ _ hr _ =>
    rw [hr, liveIds, List.map_append]
    exact List.mem_append_left _ hid
  | updated id' r current _ _ hr _ => rwa [hr, liveIds_replaceAll]
  | deleted id' current haction _ hr _ =>
    obtain ⟨l, hl, rfl⟩ := List.mem_map.mp hid
    have hne : l.id ≠ id' := by
      rintro rfl
      exact hother (by rw [haction]; rfl)
    rw [hr]
    exact mem_liveIds (List.mem_filter.mpr ⟨hl, decide_eq_true hne⟩)

/-- Entries that name different records of the zone are all carried out. -/
theorem Identified.applied_carryOut (hz : z.Identified) (hfailing : z.failing = [])
    (hnodup : (changeIds cs).Nodup) (hids : ∀ id ∈ changeIds cs, id ∈ liveIds z.records) :
    ∀ o ∈ (z.carryOut cs).1, o.all (·.isApplied) = true := by
  induction cs generalizing z with
  | nil => exact fun o ho => absurd ho List.not_mem_nil
  | cons c cs ih =>
    have hsub : (changeIds cs).Sublist (changeIds (c :: cs)) :=
      (List.sublist_cons_self c cs).filterMap _
    obtain ⟨happlied, hnext⟩ := hz.applied_answer hfailing fun id hid =>
      hids id (mem_changeIds.mpr ⟨c, List.mem_cons_self, hid⟩)
    rw [carryOut_cons, List.forall_mem_cons]
    refine ⟨happlied, ih (hz.answer c) hnext (hsub.nodup hnodup) fun id hid => ?_⟩
    -- The records that later entries name are not the one that is named now.
    refine hz.mem_liveIds_answer (hids id (hsub.subset hid)) fun hc => ?_
    have hcons : changeIds (c :: cs) = id :: changeIds cs := List.filterMap_cons_some hc
    rw [hcons, List.nodup_cons] at hnodup
    exact hnodup.1 hid

end Zone

/-! ### What is carried out -/

/-- When nothing fails, the entries that ask for something are carried out. -/
theorem carriedOut_eq_filter {cs : List Change} {os : List (Option Outcome)}
    (h : List.Forall₂ Change.HasOutcome cs os) (happlied : ∀ o ∈ os, o.all (·.isApplied) = true) :
    carriedOut (cs.zip os) = cs.filter (·.action.isMutation) := by
  induction h with
  | nil => rfl
  | @cons c o cs os hco _ ih =>
    obtain ⟨ho, hos⟩ := List.forall_mem_cons.mp happlied
    have hmutation := hco.isSome_eq
    rw [List.zip_cons_cons]
    cases o with
    | none =>
      rw [carriedOut_cons_of_kept rfl, ih hos, List.filter_cons_of_neg]
      rw [← hmutation]
      exact Bool.false_ne_true
    | some o =>
      have hany : (some o).any (·.isApplied) = true := ho
      rw [carriedOut_cons_of_applied hany, ih hos,
        List.filter_cons_of_pos (by exact hmutation.symm)]

/-- Entries that ask for nothing add no records. -/
theorem createdFrom_filter (n : Nat) (cs : List Change) :
    createdFrom n (cs.filter (·.action.isMutation)) = createdFrom n cs := by
  induction cs generalizing n with
  | nil => rfl
  | cons c cs ih =>
    by_cases hmutation : c.action.isMutation = true
    · rw [List.filter_cons_of_pos (by exact hmutation)]
      cases hc : c.action with
      | create r => simp only [createdFrom, hc, ih]
      | _ => simp only [createdFrom, hc, ih]
    · rw [List.filter_cons_of_neg (by exact hmutation), ih]
      cases hc : c.action with
      | unchanged id => simp only [createdFrom, hc]
      | _ => exact absurd rfl (hc ▸ hmutation)

/-- Where no record is named twice, it becomes what the entry that names it makes of it. -/
theorem LiveRecord.after_of_mem {l : LiveRecord} {cs : List Change} (hnodup : (changeIds cs).Nodup)
    {c : Change} (hc : c ∈ cs) (hid : c.action.id? = some l.id) :
    l.after cs = c.action.effect l := by
  induction cs with
  | nil => exact absurd hc List.not_mem_nil
  | cons c' cs ih =>
    rcases List.mem_cons.mp hc with rfl | hmem
    · exact after_cons_of_eq hid
    · have hsub : (changeIds cs).Sublist (changeIds (c' :: cs)) :=
        (List.sublist_cons_self c' cs).filterMap _
      have hother : c'.action.id? ≠ some l.id := by
        intro hc'
        have hcons : changeIds (c' :: cs) = l.id :: changeIds cs := List.filterMap_cons_some hc'
        rw [hcons, List.nodup_cons] at hnodup
        exact hnodup.1 (mem_changeIds.mpr ⟨c, hmem, hid⟩)
      rw [after_cons_of_ne hother, ih (hsub.nodup hnodup) hmem]

/-- Entries that ask for nothing leave the records that they name as they are. -/
theorem LiveRecord.after_filter {l : LiveRecord} {cs : List Change}
    (hnodup : (changeIds cs).Nodup) :
    l.after (cs.filter (·.action.isMutation)) = l.after cs := by
  induction cs with
  | nil => rfl
  | cons c cs ih =>
    have hsub : (changeIds cs).Sublist (changeIds (c :: cs)) :=
      (List.sublist_cons_self c cs).filterMap _
    have hrest := ih (hsub.nodup hnodup)
    by_cases hmutation : c.action.isMutation = true
    · rw [List.filter_cons_of_pos (by exact hmutation)]
      by_cases hid : c.action.id? = some l.id
      · rw [after_cons_of_eq hid, after_cons_of_eq hid]
      · rw [after_cons_of_ne hid, after_cons_of_ne hid, hrest]
    · rw [List.filter_cons_of_neg (by exact hmutation)]
      by_cases hid : c.action.id? = some l.id
      -- The record is kept, and no other entry names it.
      · have hcons : changeIds (c :: cs) = l.id :: changeIds cs := List.filterMap_cons_some hid
        rw [hcons, List.nodup_cons] at hnodup
        have hkeep : c.action.effect l = some l := by
          cases hc : c.action with
          | unchanged id => rfl
          | _ => exact absurd rfl (hc ▸ hmutation)
        rw [hrest, after_eq_self hnodup.1, after_cons_of_eq hid, hkeep]
      · rw [hrest, after_cons_of_ne hid]

/-- **The zone after a run without faults.** Every record is what the entry that names it makes of
    it, and the new ones follow in order. -/
theorem Zone.records_faultless {z : Zone} (hz : z.Identified) (hfailing : z.failing = [])
    {cs : List Change} (hnodup : (changeIds cs).Nodup)
    (hids : ∀ id ∈ changeIds cs, id ∈ liveIds z.records) :
    (z.carryOut cs).2.records = z.records.filterMap (·.after cs) ++ createdFrom z.nextId cs := by
  have hrecords := z.records_carryOut cs hz hnodup fun n hn hid => hz.fresh n hn (hids _ hid)
  have happlied := hz.applied_carryOut hfailing hnodup hids
  rw [carriedOut_eq_filter (z.forall₂_carryOut cs) happlied, createdFrom_filter] at hrecords
  simp only [LiveRecord.after_filter hnodup] at hrecords
  exact hrecords

/-! ### A live record for each declared one -/

/-- The identifiers of the records that entries leave for the declared ones: that of the record that
    they name, or a new one. -/
def servedIds (n : Nat) : List Change → List String
  | [] => []
  | c :: cs =>
    match c.action.id? with
    | some id => id :: servedIds n cs
    | none => Zone.newId n :: servedIds (n + 1) cs

theorem mem_servedIds {n : Nat} {cs : List Change} {id : String} (h : id ∈ servedIds n cs) :
    id ∈ changeIds cs ∨ ∃ m, n ≤ m ∧ id = Zone.newId m := by
  induction cs generalizing n with
  | nil => exact absurd h List.not_mem_nil
  | cons c cs ih =>
    rw [servedIds] at h
    rw [changeIds, List.filterMap_cons]
    cases hc : c.action.id? with
    | some id' =>
      rw [hc] at h
      rcases List.mem_cons.mp h with rfl | h
      · exact .inl List.mem_cons_self
      · exact (ih h).imp_left (List.mem_cons_of_mem _)
    | none =>
      rw [hc] at h
      rcases List.mem_cons.mp h with rfl | h
      · exact .inr ⟨n, le_refl n, rfl⟩
      · rcases ih h with hid | ⟨m, hm, hid⟩
        · exact .inl hid
        · exact .inr ⟨m, Nat.le_of_succ_le hm, hid⟩

/-- No two of these identifiers are the same, when no record is named twice and new identifiers are
    new. -/
theorem servedIds_nodup {n : Nat} {cs : List Change} (hnodup : (changeIds cs).Nodup)
    (hnew : ∀ m, n ≤ m → Zone.newId m ∉ changeIds cs) : (servedIds n cs).Nodup := by
  induction cs generalizing n with
  | nil => exact List.nodup_nil
  | cons c cs ih =>
    have hsub : (changeIds cs).Sublist (changeIds (c :: cs)) :=
      (List.sublist_cons_self c cs).filterMap _
    have hnew' : ∀ m, n ≤ m → Zone.newId m ∉ changeIds cs :=
      fun m hm hid => hnew m hm (hsub.subset hid)
    rw [servedIds]
    cases hc : c.action.id? with
    | some id =>
      have hcons : changeIds (c :: cs) = id :: changeIds cs := List.filterMap_cons_some hc
      rw [hcons] at hnodup hnew
      refine List.nodup_cons.mpr ⟨fun hid => ?_, ih (hsub.nodup (hcons ▸ hnodup)) hnew'⟩
      rcases mem_servedIds hid with hid | ⟨m, hm, rfl⟩
      · exact (List.nodup_cons.mp hnodup).1 hid
      · exact hnew m hm List.mem_cons_self
    | none =>
      refine List.nodup_cons.mpr ⟨fun hid => ?_, ih (hsub.nodup hnodup)
        fun m hm => hnew' m (Nat.le_of_succ_le hm)⟩
      rcases mem_servedIds hid with hid | ⟨m, hm, heq⟩
      · exact hnew' n (le_refl n) hid
      · have := Zone.newId_injective heq
        omega

namespace DesiredState

variable {domain : String} {managed : List LiveRecord} {s : DesiredState} {r : Record}
  {l : LiveRecord}

/-- What the entry of a declared record makes of the live one that it takes: a record of the same
    identifier and key, that says what is declared. -/
theorem effect_actionFor (hkey : l.key = r.keyIn domain) :
    ∃ x, (actionFor domain r (some l)).effect l = some x ∧ x.id = l.id ∧
      x.key = r.keyIn domain ∧ r.sameValue x.record = true := by
  rw [actionFor]
  by_cases hsame : r.sameValue l.record = true
  · rw [if_pos hsame]
    exact ⟨l, rfl, rfl, hkey, hsame⟩
  · rw [if_neg hsame]
    exact ⟨⟨l.id, Zone.stored (r.qualified domain)⟩, rfl, rfl, Zone.key_stored l.id r domain,
      Zone.sameValue_stored r domain⟩

/-- When the entries for declared records are carried out, each of these has a live record of its
    own: the one that its entry names, or a new one. -/
theorem exists_serving {live : List LiveRecord} (rs : List Record) (taken : List String) (n : Nat)
    (hnamed : ∀ c ∈ declaredChanges domain managed taken rs, ∀ l ∈ managed,
      c.action.id? = some l.id → ∀ x, c.action.effect l = some x → x ∈ live)
    (hcreated : ∀ x ∈ createdFrom n (declaredChanges domain managed taken rs), x ∈ live) :
    ∃ ls, List.Forall₂ (Serves domain live) rs ls ∧
      liveIds ls = servedIds n (declaredChanges domain managed taken rs) := by
  induction rs generalizing taken n with
  | nil => exact ⟨[], .nil, rfl⟩
  | cons r rest ih =>
    rw [declaredChanges] at hnamed hcreated ⊢
    obtain ⟨hhere, hrest⟩ := List.forall_mem_cons.mp hnamed
    cases hc : choose? r (managed.filter fun l => l.key = r.keyIn domain && l.id ∉ taken) with
    | none =>
      rw [hc] at hrest hcreated
      obtain ⟨hnew, hlater⟩ := List.forall_mem_cons.mp hcreated
      obtain ⟨ls, hls, hids⟩ := ih _ (n + 1) hrest hlater
      have hserves : Serves domain live r ⟨Zone.newId n, Zone.stored (r.qualified domain)⟩ :=
        ⟨hnew, Zone.key_stored _ r domain, Zone.sameValue_stored r domain⟩
      exact ⟨_, .cons hserves hls, congrArg (Zone.newId n :: ·) hids⟩
    | some l =>
      have hl := mem_of_choose? hc
      rw [List.mem_filter, Bool.and_eq_true, decide_eq_true_eq] at hl
      obtain ⟨hmanaged, hkey, _⟩ := hl
      rw [hc] at hhere hrest hcreated
      have hid : (actionFor domain r (some l)).id? = some l.id := id?_actionFor domain r (some l)
      rw [createdFrom_cons_of_id? hid] at hcreated
      obtain ⟨ls, hls, hids⟩ := ih _ n hrest hcreated
      obtain ⟨x, heffect, hxid, hxkey, hsame⟩ := effect_actionFor hkey
      have hserves : Serves domain live r x := ⟨hhere l hmanaged hid x heffect, hxkey, hsame⟩
      refine ⟨x :: ls, .cons hserves hls, ?_⟩
      rw [servedIds]
      dsimp only
      rw [hid]
      dsimp only
      rw [← hids, ← hxid]
      rfl

/-! ### Nothing else -/

/-- An entry for a declared record is that of some live one of its key, or of none. -/
theorem exists_of_mem_declaredChanges {taken : List String} {rs : List Record} {c : Change}
    (h : c ∈ declaredChanges domain managed taken rs) :
    ∃ r ∈ rs, ∃ chosen, c = ⟨r.keyIn domain, actionFor domain r chosen⟩ ∧
      ∀ l, chosen = some l → l ∈ managed ∧ l.key = r.keyIn domain := by
  induction rs generalizing taken with
  | nil => exact absurd h List.not_mem_nil
  | cons r rest ih =>
    rw [declaredChanges] at h
    rcases List.mem_cons.mp h with rfl | h
    · refine ⟨r, List.mem_cons_self, _, rfl, fun l hl => ?_⟩
      have hmem := mem_of_choose? hl
      rw [List.mem_filter, Bool.and_eq_true, decide_eq_true_eq] at hmem
      exact ⟨hmem.1, hmem.2.1⟩
    · obtain ⟨r', hr', hc⟩ := ih h
      exact ⟨r', List.mem_cons_of_mem _ hr', hc⟩

end DesiredState

theorem mem_createdFrom {n : Nat} {cs : List Change} {x : LiveRecord} (h : x ∈ createdFrom n cs) :
    ∃ c ∈ cs, ∃ r, c.action = .create r ∧ x.record = Zone.stored r := by
  induction cs generalizing n with
  | nil => exact absurd h List.not_mem_nil
  | cons c cs ih =>
    have hlater : ∀ m, x ∈ createdFrom m cs →
        ∃ c' ∈ c :: cs, ∃ r, c'.action = .create r ∧ x.record = Zone.stored r := by
      intro m hm
      obtain ⟨c', hc', hr⟩ := ih hm
      exact ⟨c', List.mem_cons_of_mem _ hc', hr⟩
    cases hc : c.action with
    | create r =>
      simp only [createdFrom, hc] at h
      rcases List.mem_cons.mp h with rfl | h
      · exact ⟨c, List.mem_cons_self, r, hc, rfl⟩
      · exact hlater _ h
    | _ =>
      simp only [createdFrom, hc] at h
      exact hlater _ h

/-- Further entries add their records behind. -/
theorem isPrefix_createdFrom_append (n : Nat) (cs ds : List Change) :
    createdFrom n cs <+: createdFrom n (cs ++ ds) := by
  induction cs generalizing n with
  | nil => exact List.nil_prefix
  | cons c cs ih =>
    cases hc : c.action with
    | create r =>
      simp only [List.cons_append, createdFrom, hc]
      exact (List.prefix_cons_inj _).mpr (ih _)
    | _ =>
      simp only [List.cons_append, createdFrom, hc]
      exact ih _

namespace DesiredState

variable {s : DesiredState} {live : List LiveRecord} {x : LiveRecord}

/-- After a run without faults, a record that was there before is not to be deleted: it would have
    been deleted by now. -/
theorem not_isStale_of_after (hids : (liveIds live).Nodup) {l : LiveRecord} (hl : l ∈ live)
    (hx : l.after (s.plan live).changes = some x) : ¬ s.IsStale x := by
  intro hstale
  have hnodup := s.changeIds_plan_nodup hids
  by_cases hnamed : l.id ∈ changeIds (s.plan live).changes
  · obtain ⟨c, hc, hid⟩ := mem_changeIds.mp hnamed
    rw [LiveRecord.after_of_mem hnodup hc hid] at hx
    rw [changes_plan_append, List.mem_append] at hc
    rcases hc with hc | hc
    -- The entry of a declared record leaves one of a declared key.
    · obtain ⟨r, hr, chosen, rfl, hchosen⟩ := exists_of_mem_declaredChanges hc
      rw [id?_actionFor, Option.map_eq_some_iff] at hid
      obtain ⟨l', rfl, hl'⟩ := hid
      obtain ⟨hmanaged, hkey⟩ := hchosen l' rfl
      obtain rfl := eq_of_id_eq hids ((s.managed_sublist live).subset hmanaged) hl hl'
      obtain ⟨x', heffect, _, hxkey, _⟩ := effect_actionFor hkey
      obtain rfl := Option.some.inj (heffect.symm.trans hx)
      exact hstale.undeclared r hr hxkey.symm
    · obtain ⟨l', _, rfl⟩ := List.mem_map.mp hc
      exact nomatch hx
  -- A record that was not named is as it was, and would have been named.
  · rw [LiveRecord.after_eq_self hnamed] at hx
    obtain rfl := Option.some.inj hx
    refine hnamed (mem_changeIds.mpr ⟨l.deletion, ?_, rfl⟩)
    rw [changes_plan_append, List.mem_append, List.mem_map]
    exact .inr ⟨l, List.mem_filter.mpr ⟨hl, decide_eq_true hstale⟩, rfl⟩

/-- A record that a plan creates has a declared key. -/
theorem not_isStale_of_created {n : Nat} (hx : x ∈ createdFrom n (s.plan live).changes) :
    ¬ s.IsStale x := by
  intro hstale
  obtain ⟨c, hc, r', haction, hrecord⟩ := mem_createdFrom hx
  rw [changes_plan_append, List.mem_append] at hc
  rcases hc with hc | hc
  · obtain ⟨r, hr, chosen, rfl, _⟩ := exists_of_mem_declaredChanges hc
    obtain ⟨_, rfl⟩ := actionFor_eq_create_iff.mp haction
    refine hstale.undeclared r hr ?_
    rw [← Zone.key_stored x.id r s.domain, ← hrecord]
  · obtain ⟨l, _, rfl⟩ := List.mem_map.mp hc
    exact nomatch haction

/-- A record of a declared key lies in the domain. -/
theorem Serves.managed (hdomain : ∃ c ∈ s.domain.toList, c ≠ '.') {r : Record}
    (h : Serves s.domain live r x) : Serves s.domain (s.managed live) r x := by
  refine ⟨List.mem_filter.mpr ⟨h.mem, ?_⟩, h.key, h.same⟩
  rw [Name.inDomain_congr (congrArg RecordKey.name h.key)]
  exact Name.inDomain_qualify r.name hdomain

/-! ### The next plan -/

/-- When every entry of a plan was carried out, each declared record has a live one of its own. -/
theorem exists_served {live' : List LiveRecord} {n : Nat} (hids : (liveIds live).Nodup)
    (hnew : ∀ m, n ≤ m → Zone.newId m ∉ liveIds live)
    (hlive' : live' = live.filterMap (·.after (s.plan live).changes) ++
      createdFrom n (s.plan live).changes) :
    ∃ ls, List.Forall₂ (Serves s.domain live') s.records ls ∧ (liveIds ls).Nodup := by
  have hnodup := s.changeIds_plan_nodup hids
  have hserving : ∃ ls, List.Forall₂ (Serves s.domain live') s.records ls ∧
      liveIds ls = servedIds n (declaredChanges s.domain (s.managed live) [] s.records) := by
    apply exists_serving
    · intro c hc l hl hid x hx
      have hmem : c ∈ (s.plan live).changes := List.mem_append_left _ hc
      rw [hlive']
      refine List.mem_append_left _ (List.mem_filterMap.mpr ⟨l, ?_, ?_⟩)
      · exact (s.managed_sublist live).subset hl
      · rw [LiveRecord.after_of_mem hnodup hmem hid, hx]
    · intro x hx
      rw [hlive']
      exact List.mem_append_right _ ((isPrefix_createdFrom_append _ _ _).subset hx)
  obtain ⟨ls, hserve, hls⟩ := hserving
  refine ⟨ls, hserve, ?_⟩
  rw [hls]
  refine servedIds_nodup (changeIds_declaredChanges _ _ _ _).1 fun m hm hid => hnew m hm ?_
  obtain ⟨l, hl, hlid, _⟩ := exists_of_mem_changeIds_declared hid
  exact hlid ▸ mem_liveIds ((s.managed_sublist live).subset hl)

/-- When every entry of a plan was carried out, the next one keeps a live record for each declared
    one, and has no other entries. -/
theorem forall₂_changes_plan_after (hdomain : ∃ c ∈ s.domain.toList, c ≠ '.')
    {live' : List LiveRecord} {n : Nat} (hids : (liveIds live).Nodup)
    (hids' : (liveIds live').Nodup) (hnew : ∀ m, n ≤ m → Zone.newId m ∉ liveIds live)
    (hlive' : live' = live.filterMap (·.after (s.plan live).changes) ++
      createdFrom n (s.plan live).changes) :
    List.Forall₂ (fun r c => ∃ l, Serves s.domain (s.managed live') r l ∧
      c = ⟨r.keyIn s.domain, .unchanged l.id⟩) s.records (s.plan live').changes := by
  have hstale : live'.filter (fun l => s.IsStale l) = [] := by
    rw [List.filter_eq_nil_iff]
    intro x hx
    rw [decide_eq_true_eq]
    rw [hlive', List.mem_append] at hx
    rcases hx with hx | hx
    · obtain ⟨l, hl, hafter⟩ := List.mem_filterMap.mp hx
      exact not_isStale_of_after hids hl hafter
    · exact not_isStale_of_created hx
  rw [changes_plan_append, hstale, List.map_nil, List.append_nil]
  obtain ⟨ls, hserve, hls⟩ := exists_served hids hnew hlive'
  exact forall₂_kept (liveIds_managed_nodup hids') (hserve.imp fun _ _ h => h.managed hdomain) hls
    fun _ _ => List.not_mem_nil

end DesiredState

/-- **One run settles everything.** In a zone without faults, whatever is declared, a run succeeds,
    and the next plan has one entry for each declared record, in order, and no others: it keeps a
    live record that has the key and says the same, and no two entries keep the same one. -/
theorem sync_settles (s : DesiredState) (hdomain : ∃ c ∈ s.domain.toList, c ≠ '.') {z : Zone}
    (hz : z.Identified) (hfailing : z.failing = []) (hlist : z.listingFails = false) :
    ∃ report z', (Zone.provider.sync s).run z = (.ok (s.plan z.records, report), z') ∧
      report.isSuccess = true ∧
      (changeIds (s.plan z'.records).changes).Nodup ∧
      List.Forall₂ (fun r c => ∃ l, DesiredState.Serves s.domain (s.managed z'.records) r l ∧
        c = ⟨r.keyIn s.domain, .unchanged l.id⟩) s.records (s.plan z'.records).changes := by
  obtain ⟨calls, hrun⟩ := Zone.run_sync s hlist
  let z₀ : Zone := { z with calls := calls }
  have hz₀ : z₀.Identified := ⟨hz.nodup, hz.fresh⟩
  let run := z₀.carryOut (s.plan z.records).changes
  have hnodup := s.changeIds_plan_nodup hz.nodup
  have hthere : ∀ id ∈ changeIds (s.plan z.records).changes, id ∈ liveIds z.records := by
    intro id hid
    obtain ⟨l, hl, hlid, _⟩ := DesiredState.exists_of_mem_changeIds hid
    exact hlid ▸ mem_liveIds ((s.managed_sublist z.records).subset hl)
  have hids : (liveIds run.2.records).Nodup := (hz₀.carryOut _).nodup
  refine ⟨.ofAnswers run.1, run.2, hrun, ?_, s.changeIds_plan_nodup hids, ?_⟩
  · exact (ApplyReport.isSuccess_ofAnswers run.1).mpr
      (hz₀.applied_carryOut hfailing hnodup hthere)
  · exact DesiredState.forall₂_changes_plan_after hdomain hz.nodup hids hz.fresh
      (Zone.records_faultless hz₀ hfailing hnodup hthere)

/-- A zone with one address for the name that is declared twice, and one that has to go. -/
def twinZone : Zone where
  records := [
    ⟨"1", { name := "www.example.com", type := .a, value := .content "192.0.2.10" }⟩,
    ⟨"2", { name := "old.example.com", type := .a, value := .content "192.0.2.1" }⟩]

theorem identified_twinZone : twinZone.Identified :=
  Zone.identified_of_not_prefix (by decide) (by decide)

/-- After a run both declared records of the name have an address of their own. -/
theorem sync_settles_twinZone :
    ∃ report z', (Zone.provider.sync twinState).run twinZone =
        (.ok (twinState.plan twinZone.records, report), z') ∧
      report.isSuccess = true ∧ (changeIds (twinState.plan z'.records).changes).Nodup := by
  obtain ⟨report, z', hrun, hsuccess, hnodup, _⟩ :=
    sync_settles twinState ⟨'e', by decide, by decide⟩ identified_twinZone rfl rfl
  exact ⟨report, z', hrun, hsuccess, hnodup⟩

end ZoneSync
