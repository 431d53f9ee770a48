import ZoneSync.Proofs.Plan.Answers
import ZoneSync.Proofs.Record.Identity
import ZoneSync.Proofs.Text.Numbers

namespace ZoneSync

/-!
# Zones whose records can be told apart

A request names a record by its identifier, and the first record with it is meant. As long as no
two records share an identifier, and none has one that the zone will still give out, the first is
the only one, and what a request does can be said without the order of the records.

* `Zone.Identified` — identifiers are not shared, and new ones will be new;
* `Zone.replaceFirst_eq_map`, `Zone.eraseP_eq_filter` — replacing and removing by identifier, for
  all records at once;
* `Zone.Answered`, `Zone.answered` — everything that asking for an entry of a plan can do;
* `Zone.Identified.answer` — identifiers stay apart.
-/

namespace Zone

/-! ### Identifiers -/

/-- New identifiers differ when their numbers do. -/
theorem newId_injective : Function.Injective newId := fun _ _ h =>
  Text.repr_injective ((String.append_right_inj "rec-new-").mp h)

/-- No two records share an identifier, and none has one that is still to be given out. -/
structure Identified (z : Zone) : Prop where
  nodup : (liveIds z.records).Nodup
  fresh : ∀ n, z.nextId ≤ n → newId n ∉ liveIds z.records

/-- Identifiers that do not look like new ones are never given out. -/
theorem identified_of_not_prefix {z : Zone} (hnodup : (liveIds z.records).Nodup)
    (h : ∀ id ∈ liveIds z.records, "rec-new-".toList.isPrefixOf id.toList = false) :
    z.Identified := by
  refine ⟨hnodup, fun n _ hmem => ?_⟩
  have hprefix : "rec-new-".toList.isPrefixOf (newId n).toList = true := by
    rw [List.isPrefixOf_iff_prefix, newId, String.toList_append]
    exact List.prefix_append _ _
  rw [h _ hmem] at hprefix
  exact nomatch hprefix

end Zone

/-- A record of another domain among records that a run replaces, deletes, and fails to delete. -/
def mixedZone : Zone where
  records := [
    ⟨"1", { name := "old.example.com", type := .a, value := .content "192.0.2.1" }⟩,
    ⟨"2", { name := "www.example.org", type := .a, value := .content "192.0.2.2",
            ttl := .seconds 60, comment := some "not ours" }⟩,
    ⟨"3", { name := "www.example.com", type := .a, value := .content "192.0.2.3" }⟩,
    ⟨"4", { name := "stuck.example.com", type := .a, value := .content "192.0.2.4" }⟩]
  failing := ["stuck.example.com"]

theorem identified_mixedZone : mixedZone.Identified :=
  Zone.identified_of_not_prefix (by decide) (by decide)

namespace Zone

/-! ### Requests by identifier -/

/-- The records with another value under an identifier. -/
def replaceAll (id : String) (r : Record) (records : List LiveRecord) : List LiveRecord :=
  records.map fun l => if l.id = id then ⟨id, r⟩ else l

/-- Without a record of the identifier nothing is replaced. -/
theorem replaceAll_of_not_mem {id : String} {records : List LiveRecord} (h : id ∉ liveIds records)
    (r : Record) : replaceAll id r records = records := by
  have hkeep : ∀ l ∈ records, (if l.id = id then ⟨id, r⟩ else l) = l := by
    intro l hl
    have hid : l.id ≠ id := fun hid => h (hid ▸ mem_liveIds hl)
    rw [if_neg hid]
  rw [replaceAll, List.map_congr_left hkeep, List.map_id']

/-- Replacing the first record with an identifier replaces all of them, as there is only one. -/
theorem replaceFirst_eq_map {records : List LiveRecord} (h : (liveIds records).Nodup) (id : String)
    (r : Record) : replaceFirst id r records = replaceAll id r records := by
  induction records with
  | nil => rfl
  | cons l rest ih =>
    obtain ⟨hl, hrest⟩ := List.nodup_cons.mp h
    by_cases hid : l.id = id
    -- Behind the first record of an identifier there is none that would have to be replaced.
    · have hkeep : replaceAll id r rest = rest := replaceAll_of_not_mem (hid ▸ hl) r
      rw [replaceAll] at hkeep
      rw [replaceFirst, if_pos hid, replaceAll, List.map_cons, if_pos hid, hkeep]
    · rw [replaceFirst, if_neg hid, ih hrest, replaceAll, replaceAll, List.map_cons, if_neg hid]

/-- Removing the first record with an identifier removes all of them, as there is only one. -/
theorem eraseP_eq_filter {records : List LiveRecord} (h : (liveIds records).Nodup) (id : String) :
    records.eraseP (·.id = id) = records.filter (·.id ≠ id) := by
  induction records with
  | nil => rfl
  | cons l rest ih =>
    obtain ⟨hl, hrest⟩ := List.nodup_cons.mp h
    by_cases hid : l.id = id
    · have hkeep : rest.filter (·.id ≠ id) = rest := by
        rw [List.filter_eq_self]
        intro l' hl'
        rw [decide_eq_true_eq]
        intro hid'
        exact hl (List.mem_map.mpr ⟨l', hl', hid'.trans hid.symm⟩)
      rw [List.eraseP_cons_of_pos (by simpa using hid),
        List.filter_cons_of_neg (by simpa using hid), hkeep]
    · rw [List.eraseP_cons_of_neg (by simpa using hid),
        List.filter_cons_of_pos (by simpa using hid), ih hrest]

@[simp] theorem liveIds_replaceAll (id : String) (r : Record) (records : List LiveRecord) :
    liveIds (replaceAll id r records) = liveIds records := by
  rw [liveIds, liveIds, replaceAll, List.map_map]
  refine List.map_congr_left fun l _ => ?_
  by_cases hid : l.id = id <;> simp [hid]

/-! ### Requests, apart from what they count -/

theorem list_eq {z : Zone} (hlist : z.listingFails = false) :
    ∃ calls, z.list = (.ok z.records, { z with calls := calls }) := by
  refine ⟨{ z.calls with list := z.calls.list + 1 }, ?_⟩
  unfold list
  simp only [hlist]
  rfl

theorem create_eq (z : Zone) (r : Record) : ∃ calls, z.create r =
    if z.fails r.name then (.error (failure r.name), { z with calls := calls })
    else (.ok (newId z.nextId),
      { z with records := z.records ++ [⟨newId z.nextId, stored r⟩], nextId := z.nextId + 1,
               calls := calls }) :=
  ⟨_, rfl⟩

theorem update_eq {z : Zone} (hz : z.Identified) (id : String) (r : Record) :
    ∃ calls, z.update id r =
      if z.fails r.name then (.error (failure r.name), { z with calls := calls })
      else if id ∈ liveIds z.records then
        (.ok (), { z with records := replaceAll id (stored r) z.records, calls := calls })
      else (.error (.notFound id), { z with calls := calls }) := by
  refine ⟨{ z.calls with update := z.calls.update + 1 }, ?_⟩
  rw [← replaceFirst_eq_map hz.nodup]
  have hid : z.records.any (·.id = id) = true ↔ id ∈ liveIds z.records := by
    simp [liveIds]
  simp only [← hid]
  rfl

theorem delete_of_not_mem {z : Zone} {id : String} (h : id ∉ liveIds z.records) :
    ∃ calls, z.delete id = (.error (.notFound id), { z with calls := calls }) := by
  have hnone : z.records.find? (·.id = id) = none := by
    rw [List.find?_eq_none]
    intro l hl hid
    exact h (List.mem_map.mpr ⟨l, hl, by simpa using hid⟩)
  refine ⟨{ z.calls with delete := z.calls.delete + 1 }, ?_⟩
  unfold delete
  simp only [hnone]

theorem delete_of_mem {z : Zone} (hz : z.Identified) {l : LiveRecord} (hl : l ∈ z.records) :
    ∃ calls, z.delete l.id =
      if z.fails l.record.name then (.error (failure l.record.name), { z with calls := calls })
      else (.ok (), { z with records := z.records.filter (·.id ≠ l.id), calls := calls }) := by
  have hsome : z.records.find? (·.id = l.id) = some l := by
    cases hf : z.records.find? (·.id = l.id) with
    | none => exact absurd (decide_eq_true rfl) (List.find?_eq_none.mp hf l hl)
    | some l' =>
      have hid : l'.id = l.id := by simpa using List.find?_some hf
      rw [eq_of_id_eq hz.nodup (List.mem_of_find?_eq_some hf) hl hid]
  refine ⟨{ z.calls with delete := z.calls.delete + 1 }, ?_⟩
  rw [← eraseP_eq_filter hz.nodup]
  unfold delete
  simp only [hsome]
  rfl

/-! ### Answers to the entries of a plan -/

/-- What asking for an entry can do to a zone: nothing, when the outcome is no success, or what the
    entry says. -/
inductive Answered (z : Zone) (c : Change) (o : Option Outcome) (z' : Zone) : Prop
  | kept (outcome : o.any (·.isApplied) = false) (records : z'.records = z.records)
      (nextId : z'.nextId = z.nextId)
  | created (r : Record) (action : c.action = .create r) (outcome : o.any (·.isApplied) = true)
      (records : z'.records = z.records ++ [⟨newId z.nextId, stored r⟩])
      (nextId : z'.nextId = z.nextId + 1)
  | updated (id : String) (r current : Record) (action : c.action = .update id r current)
      (outcome : o.any (·.isApplied) = true)
      (records : z'.records = replaceAll id (stored r) z.records)
      (nextId : z'.nextId = z.nextId)
  | deleted (id : String) (current : Record) (action : c.action = .delete id current)
      (outcome : o.any (·.isApplied) = true)
      (records : z'.records = z.records.filter (·.id ≠ id))
      (nextId : z'.nextId = z.nextId)

/-- A zone whose identifiers are not shared answers in one of these ways. -/
theorem answered {z : Zone} (hz : z.Identified) (c : Change) :
    z.Answered c ((provider.answer c).run z).1 ((provider.answer c).run z).2 := by
  unfold Provider.answer
  cases hc : c.action with
  | unchanged id => exact .kept rfl rfl rfl
  | create r =>
    show z.Answered c (some ⟨c.key, .create, failure? (z.create r).1⟩) (z.create r).2
    obtain ⟨calls, h⟩ := create_eq z r
    rw [h]
    by_cases hf : z.fails r.name = true
    · rw [if_pos hf]
      exact .kept rfl rfl rfl
    · rw [if_neg hf]
      exact .created r hc rfl rfl rfl
  | update id r current =>
    show z.Answered c (some ⟨c.key, .update, failure? (z.update id r).1⟩) (z.update id r).2
    obtain ⟨calls, h⟩ := update_eq hz id r
    rw [h]
    by_cases hf : z.fails r.name = true
    · rw [if_pos hf]
      exact .kept rfl rfl rfl
    · by_cases hid : id ∈ liveIds z.records
      · rw [if_neg hf, if_pos hid]
        exact .updated id r current hc rfl rfl rfl
      · rw [if_neg hf, if_neg hid]
        exact .kept rfl rfl rfl
  | delete id current =>
    show z.Answered c (some ⟨c.key, .delete, failure? (z.delete id).1⟩) (z.delete id).2
    by_cases hid : id ∈ liveIds z.records
    · obtain ⟨l, hl, rfl⟩ := List.mem_map.mp hid
      obtain ⟨calls, h⟩ := delete_of_mem hz hl
      rw [h]
      by_cases hf : z.fails l.record.name = true
      · rw [if_pos hf]
        exact .kept rfl rfl rfl
      · rw [if_neg hf]
        exact .deleted l.id current hc rfl rfl rfl
    · obtain ⟨calls, h⟩ := delete_of_not_mem hid
      rw [h]
      exact .kept rfl rfl rfl

/-- Records stay apart, whatever the answer is. -/
theorem Identified.answer {z : Zone} (hz : z.Identified) (c : Change) :
    ((provider.answer c).run z).2.Identified := by
  cases answered hz c with
  | kept _ hr hn => exact ⟨hr ▸ hz.nodup, by rw [hr, hn]; exact hz.fresh⟩
  | created r _ _ hr hn =>
    constructor
    · rw [hr, liveIds, List.map_append]
      refine List.nodup_append.mpr ⟨hz.nodup, List.nodup_singleton _, ?_⟩
      intro id hid id' hid' h
      rw [List.map_singleton, List.mem_singleton] at hid'
      have hnew : id = newId z.nextId := h.trans hid'
      exact hz.fresh z.nextId (Nat.le_refl _) (hnew ▸ hid)
    -- Identifiers that will be given out have greater numbers than the one given out now.
    · intro n hn' hmem
      rw [hn] at hn'
      rw [hr, liveIds, List.map_append, List.mem_append, List.map_singleton,
        List.mem_singleton] at hmem
      rcases hmem with hmem | hmem
      · exact hz.fresh n (by omega) hmem
      · have := newId_injective hmem
        omega
  | updated id r _ _ _ hr hn =>
    refine ⟨?_, ?_⟩
    · rw [hr, liveIds_replaceAll]
      exact hz.nodup
    · rw [hr, hn, liveIds_replaceAll]
      exact hz.fresh
  | deleted id _ _ _ hr hn =>
    have hsub := liveIds_filter_sublist (·.id ≠ id) z.records
    refine ⟨?_, ?_⟩
    · rw [hr]
      exact hsub.nodup hz.nodup
    · rw [hr, hn]
      intro n hn' hmem
      exact hz.fresh n hn' (hsub.subset hmem)

theorem nextId_le_answer {z : Zone} (hz : z.Identified) (c : Change) :
    z.nextId ≤ ((provider.answer c).run z).2.nextId := by
  cases answered hz c with
  | kept _ _ hn => omega
  | created _ _ _ _ hn => omega
  | updated _ _ _ _ _ _ hn => omega
  | deleted _ _ _ _ _ hn => omega

/-! ### Whole plans -/

/-- The outcomes of entries that are asked for in order, and the zone after the last one. -/
def carryOut (z : Zone) (cs : List Change) : List (Option Outcome) × Zone :=
  (cs.mapM provider.answer).run z

theorem carryOut_cons (z : Zone) (c : Change) (cs : List Change) :
    z.carryOut (c :: cs) =
      (((provider.answer c).run z).1 :: (((provider.answer c).run z).2.carryOut cs).1,
        (((provider.answer c).run z).2.carryOut cs).2) := by
  rw [carryOut, List.mapM_cons]
  rfl

/-- Records stay apart during a whole plan. -/
theorem Identified.carryOut {z : Zone} (hz : z.Identified) (cs : List Change) :
    (z.carryOut cs).2.Identified := by
  induction cs generalizing z with
  | nil => exact hz
  | cons c cs ih =>
    rw [carryOut_cons]
    exact ih (hz.answer c)

/-- Every outcome belongs to its entry. -/
theorem hasOutcome_answer (z : Zone) (c : Change) :
    c.HasOutcome ((provider.answer c).run z).1 := by
  unfold Provider.answer Change.HasOutcome
  cases hc : c.action with
  | unchanged id => exact trivial
  | create r => exact ⟨rfl, rfl⟩
  | update id r current => exact ⟨rfl, rfl⟩
  | delete id current => exact ⟨rfl, rfl⟩

theorem forall₂_carryOut (z : Zone) (cs : List Change) :
    List.Forall₂ Change.HasOutcome cs (z.carryOut cs).1 := by
  induction cs generalizing z with
  | nil => exact .nil
  | cons c cs ih =>
    rw [carryOut_cons]
    exact .cons (hasOutcome_answer z c) (ih _)

/-- A run on a zone whose records can be read. -/
theorem run_sync (s : DesiredState) {z : Zone} (hlist : z.listingFails = false) :
    ∃ calls, (provider.sync s).run z =
      let run := ({ z with calls := calls } : Zone).carryOut (s.plan z.records).changes
      (.ok (s.plan z.records, ApplyReport.ofAnswers run.1), run.2) := by
  obtain ⟨calls, hread⟩ := list_eq hlist
  refine ⟨calls, ?_⟩
  -- Reading the records changes nothing but a counter.
  have hrun : provider.list.run z = (.ok z.records, { z with calls := calls }) := hread
  rw [Provider.sync_eq, StateT.run_bind, hrun]
  rfl

end Zone

end ZoneSync
