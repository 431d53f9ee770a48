import Mathlib.Data.Fintype.EquivFin
import Mathlib.Order.Bounds.Defs
import ZoneSync.Proofs.Sync.Residual
import ZoneSync.Proofs.Plan.Deletions

namespace ZoneSync

/-!
# Plans ask for no more than they have to

Whatever brings a zone to a state with nothing to do takes at least as many requests as the plan
asks for. A zone has work to do for every declared record that no live one says, and for every live
record that has to go. One request does at most one piece of this work, wherever it is made, and the
plan asks for one request for each.

* `Edit`, `Edits` — one request, and a number of them, as changes of the records;
* `DesiredState.Lacks`, `DesiredState.work` — the work that a zone has to do;
* `DesiredState.length_mutations` — the plan asks for as much;
* `DesiredState.work_le_of_edit`, `DesiredState.work_le_of_edits` — one request does one piece of
  work at most, and a number of them as many;
* `DesiredState.exists_edit`, `DesiredState.exists_edits` — the requests of the plan do as many;
* `plan_minimal` — no fewer requests lead to a zone with nothing to do.
-/

/-! ### Requests -/

/-- One request: any record is added under a new identifier, a record is replaced under its key, or
    the record of an identifier is removed. In which order the records are kept does not matter. -/
inductive Edit (live live' : List LiveRecord) : Prop
  | create (id : String) (r : Record) (fresh : id ∉ liveIds live)
      (records : live'.Perm (⟨id, r⟩ :: live))
  | update (l : LiveRecord) (r : Record) (mem : l ∈ live) (key : LiveRecord.key ⟨l.id, r⟩ = l.key)
      (records : live'.Perm (Zone.replaceAll l.id r live))
  | delete (id : String) (records : live'.Perm (live.filter (·.id ≠ id)))

/-- A number of requests, one after the other. -/
inductive Edits : Nat → List LiveRecord → List LiveRecord → Prop
  | none (live : List LiveRecord) : Edits 0 live live
  | cons {n : Nat} {live live' live'' : List LiveRecord} (first : Edit live live')
      (rest : Edits n live' live'') : Edits (n + 1) live live''

variable {live live' : List LiveRecord}

/-- Identifiers stay apart. -/
theorem Edit.nodup (h : Edit live live') (hids : (liveIds live).Nodup) : (liveIds live').Nodup := by
  cases h with
  | create id r fresh records =>
    rw [liveIds, (records.map _).nodup_iff]
    exact List.nodup_cons.mpr ⟨fresh, hids⟩
  | update l r mem key records =>
    rw [liveIds, (records.map _).nodup_iff, ← liveIds, Zone.liveIds_replaceAll]
    exact hids
  | delete id records =>
    rw [liveIds, (records.map _).nodup_iff]
    exact (liveIds_filter_sublist _ live).nodup hids

namespace DesiredState

variable {s : DesiredState} {r : Record}

/-! ### Work -/

/-- A declared record is lacking when no live one of its key says the same. -/
def Lacks (s : DesiredState) (live : List LiveRecord) (r : Record) : Prop :=
  ∀ l ∈ s.candidates live (r.keyIn s.domain), r.sameValue l.record = false

instance (s : DesiredState) (live : List LiveRecord) : DecidablePred (s.Lacks live) :=
  fun r => inferInstanceAs
    (Decidable (∀ l ∈ s.candidates live (r.keyIn s.domain), r.sameValue l.record = false))

/-- How much there is to do: the declared records that are lacking, and the live ones that have to
    go. -/
def work (s : DesiredState) (live : List LiveRecord) : Nat :=
  s.records.countP (fun r => s.Lacks live r) + live.countP (fun l => s.IsStale l)

/-- The entry of a declared record asks for something when the record is lacking. -/
theorem isMutation_entryFor_iff :
    (s.entryFor live r).action.isMutation = true ↔ s.Lacks live r := by
  rw [entryFor]
  cases hchoose : choose? r (s.candidates live (r.keyIn s.domain)) with
  | none =>
    refine iff_of_true rfl fun l hl => ?_
    rw [choose?_eq_none_iff.mp hchoose] at hl
    exact absurd hl List.not_mem_nil
  | some l =>
    rw [actionFor]
    rcases choose?_cases hchoose with ⟨hsame, hmem⟩ | ⟨hhead, hnone⟩
    · rw [if_pos hsame]
      refine iff_of_false Bool.false_ne_true fun hlacks => ?_
      exact Bool.false_ne_true ((hlacks l hmem).symm.trans hsame)
    · have hdiff := hnone l (List.mem_of_mem_head? hhead)
      rw [if_neg (Bool.eq_false_iff.mp hdiff)]
      exact iff_of_true rfl hnone

/-- A plan asks for as many requests as there is work to do. -/
theorem length_mutations (hkeys : s.keys.Nodup) (hids : (liveIds live).Nodup) :
    (s.plan live).mutations.length = s.work live := by
  have hentries : ((s.records.map (s.entryFor live)).filter (·.action.isMutation)).length =
      s.records.countP (fun r => s.Lacks live r) := by
    rw [← List.countP_eq_length_filter, List.countP_map]
    refine List.countP_congr fun r _ => ?_
    rw [Function.comp_apply, isMutation_entryFor_iff, decide_eq_true_eq]
  have hdeletions : ((live.filter fun l => s.IsStale l).map LiveRecord.deletion).filter
      (·.action.isMutation) = (live.filter fun l => s.IsStale l).map LiveRecord.deletion := by
    rw [List.filter_eq_self]
    intro c hc
    obtain ⟨l, _, rfl⟩ := List.mem_map.mp hc
    rfl
  rw [Plan.mutations, changes_plan_eq hkeys hids, deletions_managed, List.filter_append,
    List.length_append, hentries, hdeletions, List.length_map, ← List.countP_eq_length_filter,
    work]

/-! ### What one request can do -/

/-- When only the live records of one key are touched, at most one declared record that is lacking
    is so no more: no two declared records have one key. -/
theorem countP_lacks_le (hkeys : s.keys.Nodup) (key : RecordKey)
    (hother : ∀ r, r.keyIn s.domain ≠ key → s.Lacks live r → s.Lacks live' r) :
    s.records.countP (fun r => s.Lacks live r) ≤
      s.records.countP (fun r => s.Lacks live' r) + 1 := by
  have hone : s.records.countP (fun r => r.keyIn s.domain = key) ≤ 1 := by
    have hcount := List.nodup_iff_count_le_one.mp hkeys key
    rw [List.count_eq_countP, keys, List.countP_map] at hcount
    refine le_trans (List.countP_mono_left fun r _ hr => ?_) hcount
    simpa using hr
  have hsplit : ∀ rs : List Record, rs.countP (fun r => s.Lacks live r) ≤
      rs.countP (fun r => s.Lacks live' r) + rs.countP (fun r => r.keyIn s.domain = key) := by
    intro rs
    induction rs with
    | nil => exact le_refl 0
    | cons r rs ih =>
      simp only [List.countP_cons, decide_eq_true_eq]
      by_cases hkey : r.keyIn s.domain = key
      · rw [if_pos hkey]
        split <;> split <;> omega
      · have hstill := hother r hkey
        rw [if_neg hkey]
        by_cases hlacks : s.Lacks live r
        · rw [if_pos hlacks, if_pos (hstill hlacks)]
          omega
        · rw [if_neg hlacks]
          omega
  exact le_trans (hsplit s.records) (Nat.add_le_add_left hone _)

/-- Whether a live record has to go depends on its key only. -/
theorem isStale_congr {l l' : LiveRecord} (h : l.key = l'.key) : s.IsStale l ↔ s.IsStale l' := by
  have htype : l.record.type = l'.record.type := congrArg RecordKey.type h
  rw [isStale_iff, isStale_iff, inDomain_of_key_eq h, h, htype]

/-- A declared record stays lacking when no further live record has its key. -/
theorem Lacks.mono (h : s.Lacks live r)
    (hsub : ∀ l ∈ live', l.key = r.keyIn s.domain → l ∈ live) : s.Lacks live' r := by
  intro l hl
  obtain ⟨hmanaged, hkey⟩ := mem_candidates.mp hl
  obtain ⟨hmem, hdomain⟩ := List.mem_filter.mp hmanaged
  exact h l (mem_candidates.mpr ⟨List.mem_filter.mpr ⟨hsub l hmem hkey, hdomain⟩, hkey⟩)

/-- With one record less, there is one record less to delete at most. -/
theorem countP_isStale_le_filter (hids : (liveIds live).Nodup) (id : String) :
    live.countP (fun l => s.IsStale l) ≤
      (live.filter (·.id ≠ id)).countP (fun l => s.IsStale l) + 1 := by
  have hone : (live.filter fun l => !decide (l.id ≠ id)).length ≤ 1 := by
    have hcount := List.nodup_iff_count_le_one.mp hids id
    rw [List.count_eq_countP, liveIds, List.countP_map, List.countP_eq_length_filter] at hcount
    refine le_trans (le_of_eq (congrArg _ (List.filter_congr fun l _ => ?_))) hcount
    by_cases hid : l.id = id <;> simp [hid]
  rw [List.countP_eq_countP_filter_add live _ (fun l => decide (l.id ≠ id))]
  exact Nat.add_le_add_left (le_trans List.countP_le_length hone) _

/-- **One request does one piece of work at most.** -/
theorem work_le_of_edit (hkeys : s.keys.Nodup) (hids : (liveIds live).Nodup)
    (h : Edit live live') : s.work live ≤ s.work live' + 1 := by
  rw [work, work]
  cases h with
  | create id r fresh records =>
    have hlacks : s.records.countP (fun r => s.Lacks live r) ≤
        s.records.countP (fun r => s.Lacks live' r) + 1 := by
      refine countP_lacks_le hkeys (LiveRecord.key ⟨id, r⟩) fun r' hkey hlacks => ?_
      refine hlacks.mono fun l hl hlkey => ?_
      rcases List.mem_cons.mp (records.mem_iff.mp hl) with rfl | hmem
      · exact absurd hlkey.symm hkey
      · exact hmem
    have hstale : live.countP (fun l => s.IsStale l) ≤ live'.countP (fun l => s.IsStale l) := by
      rw [records.countP_eq]
      exact (List.sublist_cons_self _ _).countP_le
    omega
  | update l r mem key records =>
    have hlacks : s.records.countP (fun r => s.Lacks live r) ≤
        s.records.countP (fun r => s.Lacks live' r) + 1 := by
      refine countP_lacks_le hkeys l.key fun r' hkey hlacks => hlacks.mono fun x hx hxkey => ?_
      obtain ⟨y, hy, hyx⟩ := List.mem_map.mp (records.mem_iff.mp hx)
      by_cases hid : y.id = l.id
      · rw [if_pos hid] at hyx
        rw [← hyx, key] at hxkey
        exact absurd hxkey.symm hkey
      · rw [if_neg hid] at hyx
        exact hyx ▸ hy
    have hstale : live'.countP (fun l => s.IsStale l) = live.countP (fun l => s.IsStale l) := by
      rw [records.countP_eq, Zone.replaceAll, List.countP_map]
      refine List.countP_congr fun y hy => ?_
      rw [Function.comp_apply, decide_eq_true_eq, decide_eq_true_eq]
      by_cases hid : y.id = l.id
      · rw [if_pos hid, isStale_congr key, eq_of_id_eq hids hy mem hid]
      · rw [if_neg hid]
    omega
  | delete id records =>
    have hlacks : s.records.countP (fun r => s.Lacks live r) ≤
        s.records.countP (fun r => s.Lacks live' r) := by
      refine List.countP_mono_left fun r _ hr => decide_eq_true ((of_decide_eq_true hr).mono ?_)
      exact fun l hl _ => (List.mem_filter.mp (records.mem_iff.mp hl)).1
    have hstale := countP_isStale_le_filter (s := s) hids id
    rw [← records.countP_eq] at hstale
    omega

/-- So many requests do so much work at most. -/
theorem work_le_of_edits (hkeys : s.keys.Nodup) {n : Nat} (h : Edits n live live')
    (hids : (liveIds live).Nodup) : s.work live ≤ n + s.work live' ∧ (liveIds live').Nodup := by
  induction h with
  | none live => exact ⟨by omega, hids⟩
  | cons first rest ih =>
    obtain ⟨hwork, hids'⟩ := ih (first.nodup hids)
    have hfirst := work_le_of_edit hkeys hids first
    exact ⟨by omega, hids'⟩

/-- A plan that asks for nothing has no work to do. -/
theorem isConverged_iff_work_eq_zero (hkeys : s.keys.Nodup) (hids : (liveIds live).Nodup) :
    (s.plan live).isConverged = true ↔ s.work live = 0 := by
  rw [← length_mutations hkeys hids, Plan.isConverged, List.isEmpty_iff, List.length_eq_zero_iff]

/-! ### The requests of the plan -/

/-- A plan with one entry settled asks for one request less. -/
theorem length_mutations_substitute (hkeys : s.keys.Nodup) (hids : (liveIds live).Nodup)
    {c : Change} {ds : List Change} (hc : c ∈ (s.plan live).changes)
    (hmutation : c.action.isMutation = true) (hds : ∀ d ∈ ds, d.action.isMutation = false)
    (hnext : (s.plan live').changes = substitute c ds (s.plan live).changes) :
    (s.plan live').mutations.length + 1 = (s.plan live).mutations.length := by
  have hnodup := changes_plan_nodup hkeys hids
  obtain ⟨pre, post, hsplit⟩ := List.append_of_mem hc
  rw [hsplit] at hnodup hnext
  have hnone : ds.filter (·.action.isMutation) = [] :=
    List.filter_eq_nil_iff.mpr fun d hd => Bool.eq_false_iff.mp (hds d hd)
  rw [Plan.mutations, Plan.mutations, hnext, hsplit, substitute_split hnodup]
  simp only [List.filter_append, List.filter_cons, hnone, hmutation, if_true, List.length_append,
    List.length_cons, List.length_nil]
  omega

/-- There is always an identifier that no record has. -/
theorem exists_fresh (ids : List String) : ∃ id, id ∉ ids := by
  have : Infinite String := .of_injective Zone.newId Zone.newId_injective
  obtain ⟨id, hid⟩ := Infinite.exists_notMem_finset ids.toFinset
  exact ⟨id, fun hmem => hid (List.mem_toFinset.mpr hmem)⟩

/-- While there is something to do, one of the requests of the plan leaves less of it. -/
theorem exists_edit (hkeys : s.keys.Nodup) (hdomain : ∃ c ∈ s.domain.toList, c ≠ '.')
    (hids : (liveIds live).Nodup) (hwork : (s.plan live).mutations ≠ []) :
    ∃ live', Edit live live' ∧
      (s.plan live').mutations.length + 1 = (s.plan live).mutations.length := by
  obtain ⟨c, hc⟩ := List.exists_mem_of_ne_nil _ hwork
  obtain ⟨hmem, hmutation⟩ := List.mem_filter.mp hc
  rcases (mem_changes_iff hkeys hids).mp hmem with ⟨r, hr, rfl⟩ | ⟨l, hl, hdel⟩
  · cases hchoose : choose? r (s.candidates live (r.keyIn s.domain)) with
    | none =>
      obtain ⟨id, hfresh⟩ := exists_fresh (liveIds live)
      let l : LiveRecord := ⟨id, Zone.stored (r.qualified s.domain)⟩
      have hedit : Edit live (live ++ [l]) := .create id _ hfresh List.perm_append_comm
      refine ⟨live ++ [l], hedit, length_mutations_substitute hkeys hids hmem hmutation ?_
        (changes_plan_create hkeys hids (hedit.nodup hids) hr (inDomain_stored hdomain r)
          (Zone.key_stored id r s.domain) (Zone.sameValue_stored r s.domain)
          (choose?_eq_none_iff.mp hchoose))⟩
      exact List.forall_mem_singleton.mpr rfl
    | some l =>
      have hdiff : r.sameValue l.record = false := by
        rw [entryFor, hchoose, actionFor] at hmutation
        by_contra hsame
        rw [if_pos (Bool.not_eq_false _ ▸ hsame)] at hmutation
        exact Bool.false_ne_true hmutation
      obtain ⟨hmanaged, hkey⟩ := mem_candidates.mp (mem_of_choose? hchoose)
      have hstored := Zone.key_stored l.id r s.domain
      refine ⟨Zone.replaceAll l.id _ live,
        .update l _ ((s.managed_sublist live).subset hmanaged) (hstored.trans hkey.symm) (.refl _),
        length_mutations_substitute hkeys hids hmem hmutation ?_
          (changes_plan_update hkeys hids hr hchoose hdiff hstored
            (Zone.sameValue_stored r s.domain))⟩
      exact List.forall_mem_singleton.mpr rfl
  · exact ⟨live.filter (·.id ≠ l.id), .delete l.id (.refl _),
      length_mutations_substitute hkeys hids hmem hmutation (fun d hd => absurd hd List.not_mem_nil)
        (changes_plan_delete hkeys hids hl hdel)⟩

/-- As many requests as the plan asks for leave nothing to do. -/
theorem exists_edits (hkeys : s.keys.Nodup) (hdomain : ∃ c ∈ s.domain.toList, c ≠ '.')
    (hids : (liveIds live).Nodup) :
    ∃ live', Edits (s.plan live).mutations.length live live' ∧
      (s.plan live').isConverged = true := by
  induction hn : (s.plan live).mutations.length generalizing live with
  | zero =>
    refine ⟨live, .none live, ?_⟩
    rw [Plan.isConverged, List.isEmpty_iff]
    exact List.length_eq_zero_iff.mp hn
  | succ n ih =>
    have hwork : (s.plan live).mutations ≠ [] := List.ne_nil_of_length_eq_add_one hn
    obtain ⟨live', hedit, hlength⟩ := exists_edit hkeys hdomain hids hwork
    obtain ⟨live'', hedits, hconverged⟩ := ih (hedit.nodup hids) (by omega)
    exact ⟨live'', .cons hedit hedits, hconverged⟩

end DesiredState

/-- **A plan is as small as it can be.** For the state of a document, and records of which no two
    share an identifier, the number of requests that the plan asks for is the least number of
    requests that lead to records for which there is nothing to do. -/
theorem plan_minimal {d : Document} {s : DesiredState} (hload : d.load = .ok s)
    {live : List LiveRecord} (hids : (liveIds live).Nodup) :
    IsLeast {n | ∃ live', Edits n live live' ∧ (s.plan live').isConverged = true}
      (s.plan live).mutations.length := by
  have hloaded := Document.loaded_of_load hload
  have hdomain := Document.exists_ne_dot_of_isDomainText hloaded.isDomain
  refine ⟨DesiredState.exists_edits hloaded.keys hdomain hids, ?_⟩
  rintro n ⟨live', hedits, hconverged⟩
  obtain ⟨hwork, hids'⟩ := DesiredState.work_le_of_edits hloaded.keys hedits hids
  rw [DesiredState.isConverged_iff_work_eq_zero hloaded.keys hids'] at hconverged
  rw [DesiredState.length_mutations hloaded.keys hids]
  omega

/-- A zone with a record of each kind converges with a document of an address and a text after no
    less than four requests: one record is created, one replaced, and two are deleted. -/
theorem plan_minimal_mixedZone :
    IsLeast {n | ∃ live', Edits n mixedZone.records live' ∧
      (wwwState.plan live').isConverged = true} 4 := by
  have hload : wwwDocument.load = .ok wwwState := rfl
  have hlength : (wwwState.plan mixedZone.records).mutations.length = 4 := by decide
  exact hlength ▸ plan_minimal hload identified_mixedZone.nodup

end ZoneSync
