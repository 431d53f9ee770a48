import ZoneSync.Proofs.Plan.Deletions

namespace ZoneSync

/-!
# What is planned for a key depends on that key alone

Declared records are gone through one after the other, and what one takes is not there for the next.
Between records of different keys this makes no difference, so that every declared record gets the
entry that it would get by itself.

* `recordsAt`, `DesiredState.only`, `Plan.entriesFor`, `Plan.deletions` — the live records of a key,
  a declared record by itself, and parts of a plan;
* `DesiredState.entryFor_congr` — the entry of a declared record follows from the domain, the
  record, and the live records of its key;
* `DesiredState.changes_plan_only`, `DesiredState.entriesFor_plan` — it is all that is planned for
  the record by itself, and all that any plan has for its key;
* `DesiredState.deletions_congr` — deletions follow from which records are declared;
* `plan_locality` — all together.
-/

/-- The live records of a key, in their order. -/
def recordsAt (key : RecordKey) (live : List LiveRecord) : List LiveRecord :=
  live.filter (·.key = key)

/-- One declared record of a domain, by itself. -/
def DesiredState.only (domain : String) (r : Record) : DesiredState := .ofRecords domain [r]

namespace Plan

/-- The entries of a key. -/
def entriesFor (p : Plan) (key : RecordKey) : List Change := p.changes.filter (·.key = key)

/-- The entries that delete a record. -/
def deletions (p : Plan) : List Change := p.changes.filter (·.action.isDeletion)

end Plan

namespace DesiredState

variable {s s' : DesiredState} {live live' : List LiveRecord} {r : Record} {key : RecordKey}

/-! ### The entry of a declared record -/

/-- What a declared record can take are the live records of its key that lie in the domain. -/
theorem candidates_eq_filter (s : DesiredState) (live : List LiveRecord) (key : RecordKey) :
    s.candidates live key =
      (recordsAt key live).filter fun l => Name.inDomain l.record.name s.domain := by
  rw [candidates, managed, recordsAt, List.filter_filter, List.filter_filter]
  exact List.filter_congr fun l _ => Bool.and_comm _ _

/-- The entry of a declared record follows from the domain and the live records of its key. -/
theorem entryFor_congr (hdomain : s'.domain = s.domain)
    (hlive : recordsAt (r.keyIn s.domain) live' = recordsAt (r.keyIn s.domain) live) :
    s'.entryFor live' r = s.entryFor live r := by
  have hcandidates : s'.candidates live' (r.keyIn s'.domain) =
      s.candidates live (r.keyIn s.domain) := by
    rw [candidates_eq_filter, candidates_eq_filter, hdomain, hlive]
  rw [entryFor, entryFor, hcandidates, hdomain]

theorem recordsAt_recordsAt (key : RecordKey) (live : List LiveRecord) :
    recordsAt key (recordsAt key live) = recordsAt key live := by
  rw [recordsAt, recordsAt, List.filter_filter]
  exact List.filter_congr fun l _ => Bool.and_self _

@[simp] theorem records_only (domain : String) (r : Record) : (only domain r).records = [r] :=
  records_ofRecords domain [r]

@[simp] theorem keys_only (domain : String) (r : Record) :
    (only domain r).keys = [r.keyIn domain] := by
  rw [keys, records_only]
  rfl

/-- A declared record by itself, with the live records of its key, has one entry and nothing to
    delete. -/
theorem changes_plan_only (hids : (liveIds live).Nodup) (r : Record) :
    ((only s.domain r).plan (recordsAt (r.keyIn s.domain) live)).changes =
      [s.entryFor live r] := by
  have hnodup : (only s.domain r).keys.Nodup := by
    rw [keys_only]
    exact List.nodup_singleton _
  have hdeletions : ((only s.domain r).managed (recordsAt (r.keyIn s.domain) live)).filterMap
      (deletion? (only s.domain r).keys) = [] := by
    rw [List.filterMap_eq_nil_iff]
    intro l hl
    have hkey := (List.mem_filter.mp ((managed_sublist _ _).subset hl)).2
    refine deletion?_of_mem_keys ?_
    rw [keys_only, List.mem_singleton]
    exact of_decide_eq_true hkey
  have hentry : (only s.domain r).entryFor (recordsAt (r.keyIn s.domain) live) r =
      s.entryFor live r := entryFor_congr rfl (recordsAt_recordsAt _ _)
  have hids' : (liveIds (recordsAt (r.keyIn s.domain) live)).Nodup :=
    (liveIds_filter_sublist _ live).nodup hids
  rw [changes_plan_eq hnodup hids', hdeletions, List.append_nil, records_only, List.map_singleton,
    hentry]

/-- With distinct keys, a plan has no entry for a declared key but that of its record. -/
theorem entriesFor_plan (hkeys : s.keys.Nodup) (hids : (liveIds live).Nodup)
    (hr : r ∈ s.records) :
    (s.plan live).entriesFor (r.keyIn s.domain) = [s.entryFor live r] := by
  have hdeletions : ((s.managed live).filterMap (deletion? s.keys)).filter
      (·.key = r.keyIn s.domain) = [] := by
    rw [List.filter_eq_nil_iff]
    intro c hc hkey
    obtain ⟨l, _, hdel⟩ := List.mem_filterMap.mp hc
    obtain ⟨⟨hundeclared, _⟩, rfl⟩ := deletion?_eq_some_iff.mp hdel
    replace hkey : l.key = r.keyIn s.domain := of_decide_eq_true hkey
    exact hundeclared (hkey ▸ keyIn_mem_keys hr)
  obtain ⟨pre, post, hsplit⟩ := List.append_of_mem hr
  have hother : ∀ r' ∈ pre ++ post, r'.keyIn s.domain ≠ r.keyIn s.domain := by
    rw [keys, hsplit, List.map_append, List.map_cons, List.nodup_middle, List.nodup_cons,
      ← List.map_append] at hkeys
    exact fun r' hr' heq => hkeys.1 (heq ▸ List.mem_map_of_mem hr')
  have hnone : ∀ rs ⊆ pre ++ post,
      (rs.map (s.entryFor live)).filter (·.key = r.keyIn s.domain) = [] := by
    intro rs hrs
    rw [List.filter_eq_nil_iff]
    intro c hc hkey
    obtain ⟨r', hr', rfl⟩ := List.mem_map.mp hc
    exact hother r' (hrs hr') (of_decide_eq_true hkey)
  rw [Plan.entriesFor, changes_plan_eq hkeys hids, List.filter_append, hdeletions, List.append_nil,
    hsplit, List.map_append, List.map_cons, List.filter_append,
    hnone pre (List.subset_append_left _ _), List.nil_append,
    List.filter_cons_of_pos (by exact decide_eq_true rfl),
    hnone post (List.subset_append_right _ _)]

/-! ### Deletions -/

/-- The deletions of a plan are those of the stale live records. -/
theorem deletions_plan_eq (s : DesiredState) (live : List LiveRecord) :
    (s.plan live).deletions = (live.filter fun l => s.IsStale l).map LiveRecord.deletion := by
  have hkept : (declaredChanges s.domain (s.managed live) [] s.records).filter
      (·.action.isDeletion) = [] := by
    rw [List.filter_eq_nil_iff]
    intro c hc
    rw [isDeletion_of_mem_declaredChanges _ _ _ _ c hc]
    exact Bool.false_ne_true
  rw [Plan.deletions, changes_plan_append, List.filter_append, hkept, List.nil_append,
    List.filter_eq_self]
  intro c hc
  obtain ⟨l, _, rfl⟩ := List.mem_map.mp hc
  exact l.isDeletion_deletion

/-- Deletions follow from which records are declared, in whatever order. -/
theorem deletions_congr (hdomain : s'.domain = s.domain)
    (hrecords : ∀ r, r ∈ s'.records ↔ r ∈ s.records) (live : List LiveRecord) :
    (s'.plan live).deletions = (s.plan live).deletions := by
  have hkeys : ∀ k, k ∈ s'.keys ↔ k ∈ s.keys := by
    intro k
    rw [keys, keys, List.mem_map, List.mem_map, hdomain]
    exact exists_congr fun r => and_congr_left fun _ => hrecords r
  rw [deletions_plan_eq, deletions_plan_eq]
  refine congrArg _ (List.filter_congr fun l _ => decide_eq_decide.mpr ?_)
  rw [isStale_iff, isStale_iff, hdomain, hkeys]

end DesiredState

/-- **Planning is local.** With distinct keys and identifiers, the entries for the declared records
    come first and in their order, and each is the only one of its key and all that is planned for
    the record by itself, with the live records of its key alone. So it stays the same in any other
    plan for the domain that has the record, as long as the live records of its key are the same and
    in the same order, whatever becomes of other keys on either side. And the deletions stay the
    same when declared records change places. -/
theorem plan_locality {s : DesiredState} (hkeys : s.keys.Nodup) {live : List LiveRecord}
    (hids : (liveIds live).Nodup) :
    List.Forall₂ (fun r c =>
        ((DesiredState.only s.domain r).plan (recordsAt (r.keyIn s.domain) live)).changes = [c] ∧
          (s.plan live).entriesFor (r.keyIn s.domain) = [c])
      s.records ((s.plan live).changes.take s.records.length) ∧
      (∀ (s' : DesiredState) (live' : List LiveRecord), s'.domain = s.domain → s'.keys.Nodup →
        (liveIds live').Nodup → ∀ r ∈ s.records, r ∈ s'.records →
        recordsAt (r.keyIn s.domain) live' = recordsAt (r.keyIn s.domain) live →
        (s'.plan live').entriesFor (r.keyIn s.domain) =
          (s.plan live).entriesFor (r.keyIn s.domain)) ∧
      ∀ s' : DesiredState, s'.domain = s.domain → s'.records.Perm s.records →
        (s'.plan live).deletions = (s.plan live).deletions := by
  refine ⟨?_, ?_, ?_⟩
  · have hlength : s.records.length = (s.records.map (s.entryFor live)).length :=
      (List.length_map _).symm
    rw [DesiredState.changes_plan_eq hkeys hids, hlength, List.take_left,
      List.forall₂_map_right_iff, List.forall₂_same]
    exact fun r hr =>
      ⟨DesiredState.changes_plan_only hids r, DesiredState.entriesFor_plan hkeys hids hr⟩
  · intro s' live' hdomain hkeys' hids' r hr hr' hlive
    have hplan' := DesiredState.entriesFor_plan hkeys' hids' hr'
    rw [hdomain, DesiredState.entryFor_congr hdomain hlive] at hplan'
    rw [hplan', DesiredState.entriesFor_plan hkeys hids hr]
  · intro s' hdomain hperm
    exact DesiredState.deletions_congr hdomain (fun _ => hperm.mem_iff) live

/-- An address. -/
def homeRecord : Record := { name := "www", type := .a, value := .content "192.0.2.9" }

/-- The address and a text. -/
def homeState : DesiredState := .ofRecords "example.com" [
  homeRecord, { name := "@", type := .txt, value := .content "hello" }]

/-- Another address under the name of the first, and one under a name that is not declared. -/
def homeRecords : List LiveRecord := [
  ⟨"1", { name := "WWW.example.com.", type := .a, value := .content "192.0.2.3" }⟩,
  ⟨"2", { name := "old.example.com", type := .a, value := .content "192.0.2.1" }⟩]

/-- The same records in another place, behind a further one. -/
def movedState : DesiredState := .ofRecords "example.com" [
  { name := "ftp", type := .cname, value := .content "www.example.com" },
  { name := "@", type := .txt, value := .content "hello" }, homeRecord]

/-- The address is planned in the same way when the declared records change places, one more is
    declared, and the other live record is gone. -/
theorem plan_locality_homeState :
    homeState.keys.Nodup ∧ (liveIds homeRecords).Nodup ∧
      (movedState.plan (homeRecords.take 1)).entriesFor (homeRecord.keyIn "example.com") =
        (homeState.plan homeRecords).entriesFor (homeRecord.keyIn "example.com") := by
  have hkeys : homeState.keys.Nodup := by decide
  have hids : (liveIds homeRecords).Nodup := by decide
  have hkeys' : movedState.keys.Nodup := by decide
  have hlive : recordsAt (homeRecord.keyIn "example.com") (homeRecords.take 1) =
      recordsAt (homeRecord.keyIn "example.com") homeRecords := by decide
  exact ⟨hkeys, hids, (plan_locality hkeys hids).2.1 movedState (homeRecords.take 1) rfl hkeys'
    (by decide) homeRecord (by decide) (by decide) hlive⟩

end ZoneSync
