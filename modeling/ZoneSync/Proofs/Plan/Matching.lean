import Mathlib.Data.List.Forall2
import ZoneSync.Proofs.Plan.Entries
import ZoneSync.Proofs.Record.Meaning

namespace ZoneSync

/-!
# Declared records that share a key

Declared records take live ones greedily: each takes the first that is left and says the same. With
several declared records of one key this could go wrong in two ways, as a record might take the only
one that a later record could keep. It does not: what two declared records can both keep says the
same as both of them, so that one can give way to the other.

* `DesiredState.Serves` — a live record that a declared one can keep;
* `DesiredState.Serves.exchange` — the exchange of two live records;
* `DesiredState.forall₂_kept` — when there is a live record for each declared one, in whatever way
  they are assigned, the greedy choice keeps a live record for each.
-/

namespace DesiredState

variable {domain : String} {managed : List LiveRecord} {r r' : Record} {l l' : LiveRecord}

/-- A live record is one that a declared record can keep: it has its key, and says the same. -/
structure Serves (domain : String) (managed : List LiveRecord) (r : Record) (l : LiveRecord) :
    Prop where
  mem : l ∈ managed
  key : l.key = r.keyIn domain
  same : r.sameValue l.record = true

theorem Serves.type_eq (h : Serves domain managed r l) : r.type = l.record.type :=
  (congrArg RecordKey.type h.key).symm

/-- Two declared records that can both keep one live record can keep the same ones. -/
theorem Serves.exchange (h : Serves domain managed r l) (h' : Serves domain managed r' l)
    (hl' : Serves domain managed r l') : Serves domain managed r' l' := by
  refine ⟨hl'.mem, ?_, ?_⟩
  · calc l'.key
      _ = r.keyIn domain := hl'.key
      _ = l.key := h.key.symm
      _ = r'.keyIn domain := h'.key
  · exact Record.sameValue_exchange h.type_eq h'.type_eq hl'.type_eq h.same h'.same hl'.same

/-- Live records with another one in the place of the one with an identifier. -/
def yieldTo (l : LiveRecord) (id : String) (ls : List LiveRecord) : List LiveRecord :=
  ls.map fun x => if x.id = id then l else x

theorem mem_yieldTo {id : String} {ls : List LiveRecord} {x : LiveRecord}
    (h : x ∈ yieldTo l id ls) : (x = l ∧ id ∈ liveIds ls) ∨ (x ∈ ls ∧ x.id ≠ id) := by
  obtain ⟨y, hy, hyx⟩ := List.mem_map.mp h
  by_cases hid : y.id = id
  · rw [if_pos hid] at hyx
    exact .inl ⟨hyx.symm, hid ▸ mem_liveIds hy⟩
  · rw [if_neg hid] at hyx
    exact .inr ⟨hyx ▸ hy, hyx ▸ hid⟩

theorem liveIds_yieldTo_nodup {ls : List LiveRecord} (h : (liveIds (l :: ls)).Nodup) (id : String) :
    (liveIds (yieldTo l id ls)).Nodup := by
  obtain ⟨hl, hls⟩ := List.nodup_cons.mp h
  replace hl : l.id ∉ liveIds ls := hl
  have hids : liveIds (yieldTo l id ls) =
      (liveIds ls).map fun other => if other = id then l.id else other := by
    rw [liveIds, yieldTo, liveIds, List.map_map, List.map_map]
    refine List.map_congr_left fun x _ => ?_
    by_cases hid : x.id = id <;> simp [hid]
  rw [hids]
  -- The record that comes in was not among the others, so that no identifier is there twice.
  refine List.Nodup.map_on (fun a ha b hb hab => ?_) hls
  by_cases haid : a = id <;> by_cases hbid : b = id
  · exact haid.trans hbid.symm
  · rw [if_pos haid, if_neg hbid] at hab
    exact absurd (hab ▸ hb) hl
  · rw [if_neg haid, if_pos hbid] at hab
    exact absurd (hab ▸ ha) hl
  · rwa [if_neg haid, if_neg hbid] at hab

/-- **The greedy choice misses nothing.** When the declared records can be assigned live ones that
    they can keep, each to another one and none to one that was taken, then in the order of the plan
    each of them keeps one. -/
theorem forall₂_kept (hids : (liveIds managed).Nodup) {rs : List Record} {ls : List LiveRecord}
    (hserve : List.Forall₂ (Serves domain managed) rs ls) (hls : (liveIds ls).Nodup)
    {taken : List String} (htaken : ∀ l ∈ ls, l.id ∉ taken) :
    List.Forall₂ (fun r c => ∃ l, Serves domain managed r l ∧ c = ⟨r.keyIn domain, .unchanged l.id⟩)
      rs (declaredChanges domain managed taken rs) := by
  induction rs generalizing ls taken with
  | nil => exact .nil
  | cons r rest ih =>
    obtain _ | ⟨hl, hrest⟩ := hserve
    rename_i l ls
    have hfound : l ∈ managed.filter fun l => l.key = r.keyIn domain && l.id ∉ taken := by
      have hfree := htaken l List.mem_cons_self
      simp [hl.mem, hl.key, hfree]
    obtain ⟨l', hl', hchoose, hsame⟩ := exists_choose?_of_sameValue hfound hl.same
    rw [List.mem_filter, Bool.and_eq_true, decide_eq_true_eq, decide_eq_true_eq] at hl'
    obtain ⟨hmem, hkey, hfree⟩ := hl'
    have hserves : Serves domain managed r l' := ⟨hmem, hkey, hsame⟩
    rw [declaredChanges, hchoose]
    refine .cons ⟨l', hserves, ?_⟩ ?_
    · rw [actionFor_eq_unchanged_iff.mpr ⟨l', rfl, rfl, hsame⟩]
    -- A later record that was to keep the one taken now gets the one that was meant for this.
    · have hleft : List.Forall₂ (Serves domain managed) rest (yieldTo l l'.id ls) := by
        rw [yieldTo, List.forall₂_map_right_iff]
        refine hrest.imp fun r' x hx => ?_
        by_cases hid : x.id = l'.id
        · rw [if_pos hid]
          have hxl : x = l' := eq_of_id_eq hids hx.mem hmem hid
          exact hserves.exchange (hxl ▸ hx) hl
        · rw [if_neg hid]
          exact hx
      refine ih hleft (liveIds_yieldTo_nodup hls l'.id) fun x hx => ?_
      show x.id ∉ l'.id :: taken
      rw [List.mem_cons, not_or]
      rcases mem_yieldTo hx with ⟨rfl, hid⟩ | ⟨hxls, hne⟩
      · have hnew : x.id ∉ liveIds ls := (List.nodup_cons.mp hls).1
        exact ⟨fun heq => hnew (heq ▸ hid), htaken x List.mem_cons_self⟩
      · exact ⟨hne, htaken x (List.mem_cons_of_mem _ hxls)⟩

end DesiredState

end ZoneSync
