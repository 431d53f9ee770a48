import ZoneSync.Proofs.Plan.Deletions

namespace ZoneSync

/-!
# Which live record a declared one gets

Declared records may share a key, and so may live ones. They are assigned in the order in which they
are declared: each takes the first live record of its key that is left and says the same, or else
the first one that is left, and is created when none is.

* `DesiredState.unclaimed` — the live records of a key that entries have left;
* `DesiredState.Assigned` — what the entry of a declared record is, behind the entries before it;
* `DesiredState.declaredChanges_append`, `DesiredState.assigned_entry` — what has been taken is what
  the entries before name, and the next entry is the one that is described;
* `DesiredState.countP_not_mem_cons`, `DesiredState.countP_created` — with each entry one live
  record less is left, so that as many records are created as there are too few live ones;
* `plan_assignment` — all entries of a plan.
-/

/-- Whether an action creates a record. -/
def Action.isCreation : Action → Bool
  | create _ => true
  | _ => false

namespace DesiredState

/-- The live records of a key, within the domain, that entries do not name. -/
def unclaimed (s : DesiredState) (live : List LiveRecord) (earlier : List Change)
    (key : RecordKey) : List LiveRecord :=
  (s.managed live).filter fun l => l.key = key && l.id ∉ changeIds earlier

/-- The entry of a declared record, behind earlier entries. -/
structure Assigned (s : DesiredState) (live : List LiveRecord) (earlier : List Change) (r : Record)
    (c : Change) : Prop where
  key : c.key = r.keyIn s.domain
  not_deletion : c.action.isDeletion = false
  /-- It names a live record that is left, and keeps it exactly when that says the same. -/
  named : ∀ id, c.action.id? = some id → ∃ l ∈ s.unclaimed live earlier c.key,
    l.id = id ∧ (c.action = .unchanged id ↔ r.sameValue l.record = true)
  /-- It replaces the first live record that is left, when none that is left says the same. -/
  replaced : ∀ id r' current, c.action = .update id r' current →
    r' = r.qualified s.domain ∧
      (s.unclaimed live earlier c.key).head? = some ⟨id, current⟩ ∧
      ∀ l ∈ live, l.key = c.key → l.id ∉ changeIds earlier → r.sameValue l.record = false
  /-- It creates the record under its full name exactly when no live record is left. -/
  created : ∀ r', c.action = .create r' ↔
    s.unclaimed live earlier c.key = [] ∧ r' = { r with name := Name.qualify r.name s.domain }

variable {s : DesiredState} {live managed : List LiveRecord} {domain : String}

/-! ### One entry after the other -/

/-- What was taken when the next declared record comes is what the entries so far name. -/
theorem declaredChanges_append (domain : String) (managed : List LiveRecord)
    (rs rs' : List Record) (taken : List String) :
    declaredChanges domain managed taken (rs ++ rs') =
      declaredChanges domain managed taken rs ++
        declaredChanges domain managed
          ((changeIds (declaredChanges domain managed taken rs)).reverse ++ taken) rs' := by
  induction rs generalizing taken with
  | nil => rfl
  | cons r rs ih =>
    have hreverse : ∀ o : Option String, o.toList.reverse = o.toList := by
      intro o
      cases o <;> rfl
    rw [changeIds_declaredChanges_cons, List.reverse_append, hreverse, List.append_assoc,
      List.cons_append, declaredChanges, declaredChanges, ih, List.cons_append]

/-- The entry for the record that is chosen among those left is the one that is described. -/
theorem assigned_entry (s : DesiredState) (live : List LiveRecord) (earlier : List Change)
    (r : Record) :
    s.Assigned live earlier r ⟨r.keyIn s.domain,
      actionFor s.domain r (choose? r (s.unclaimed live earlier (r.keyIn s.domain)))⟩ where
  key := rfl
  not_deletion := by
    generalize choose? r _ = chosen
    cases h : actionFor s.domain r chosen with
    | delete id current => exact absurd h actionFor_ne_delete
    | _ => rfl
  named id hid := by
    rw [id?_actionFor, Option.map_eq_some_iff] at hid
    obtain ⟨l, hchosen, rfl⟩ := hid
    refine ⟨l, mem_of_choose? hchosen, rfl, ?_⟩
    rw [actionFor_eq_unchanged_iff, hchosen]
    constructor
    · rintro ⟨l', hl', _, hsame⟩
      exact Option.some.inj hl' ▸ hsame
    · exact fun hsame => ⟨l, rfl, rfl, hsame⟩
  replaced id r' current hupdate := by
    obtain ⟨hchosen, hdiff, hr'⟩ := actionFor_eq_update_iff.mp hupdate
    rcases choose?_cases hchosen with ⟨hsame, _⟩ | ⟨hhead, hnone⟩
    · exact absurd (hdiff.symm.trans hsame) Bool.false_ne_true
    · refine ⟨hr', hhead, fun l hl hkey hfree => hnone l ?_⟩
      -- All live records of the key are within the domain, as the one that is taken is.
      have hfirst := List.mem_filter.mp (List.mem_of_mem_head? hhead)
      have hfirstKey := of_decide_eq_true (Bool.and_eq_true_iff.mp hfirst.2).1
      have hdomain := (List.mem_filter.mp hfirst.1).2
      rw [inDomain_of_key_eq (hfirstKey.trans hkey.symm)] at hdomain
      refine List.mem_filter.mpr ⟨List.mem_filter.mpr ⟨hl, hdomain⟩, ?_⟩
      rw [Bool.and_eq_true, decide_eq_true_eq, decide_eq_true_eq]
      exact ⟨hkey, hfree⟩
  created r' := by
    rw [actionFor_eq_create_iff, choose?_eq_none_iff]
    rfl

/-- Every declared record has an entry at its place, which is the one that is described. -/
theorem exists_assigned {pre post : List Record} {r : Record} (h : s.records = pre ++ r :: post) :
    ∃ earlier c later, (s.plan live).changes = earlier ++ c :: later ∧
      earlier.length = pre.length ∧ s.Assigned live earlier r c := by
  let earlier := declaredChanges s.domain (s.managed live) [] pre
  have hleft : (s.managed live).filter (fun l => l.key = r.keyIn s.domain &&
      l.id ∉ (changeIds earlier).reverse ++ []) = s.unclaimed live earlier (r.keyIn s.domain) := by
    refine List.filter_congr fun l _ => ?_
    simp only [List.append_nil, List.mem_reverse]
  have hlength : earlier.length = pre.length := by
    rw [← List.length_map (·.key), map_key_declaredChanges, List.length_map]
  have hplan := s.changes_plan_append live
  rw [h, declaredChanges_append, declaredChanges, hleft, List.append_assoc,
    List.cons_append] at hplan
  exact ⟨earlier, _, _, hplan, hlength, s.assigned_entry live earlier r⟩

/-! ### How many are created -/

variable {taken : List String} {l : LiveRecord} {key : RecordKey}

/-- When a live record is taken, one less is left of its key. -/
theorem countP_not_mem_cons (hids : (liveIds managed).Nodup) (hl : l ∈ managed)
    (hfree : l.id ∉ taken) :
    managed.countP (fun x => x.key = l.key && x.id ∉ taken) =
      managed.countP (fun x => x.key = l.key && x.id ∉ l.id :: taken) + 1 := by
  obtain ⟨pre, post, rfl⟩ := List.append_of_mem hl
  have hother : ∀ x ∈ pre ++ post, x.id ≠ l.id := by
    rw [liveIds, List.map_append, List.map_cons, List.nodup_middle, List.nodup_cons,
      ← List.map_append] at hids
    exact fun x hx heq => hids.1 (heq ▸ List.mem_map_of_mem hx)
  have hrest : ∀ xs ⊆ pre ++ post, xs.countP (fun x => x.key = l.key && x.id ∉ l.id :: taken) =
      xs.countP fun x => x.key = l.key && x.id ∉ taken := by
    intro xs hxs
    refine List.countP_congr fun x hx => ?_
    have hne := hother x (hxs hx)
    simp [hne]
  rw [List.countP_append, List.countP_cons_of_pos (by simp [hfree]), List.countP_append,
    List.countP_cons_of_neg (by simp), hrest pre (List.subset_append_left _ _),
    hrest post (List.subset_append_right _ _), Nat.add_assoc]

/-- When a live record is taken, as many as before are left of another key. -/
theorem countP_not_mem_cons_of_ne (hids : (liveIds managed).Nodup) (hl : l ∈ managed)
    (hkey : l.key ≠ key) :
    managed.countP (fun x => x.key = key && x.id ∉ l.id :: taken) =
      managed.countP (fun x => x.key = key && x.id ∉ taken) := by
  refine List.countP_congr fun x hx => ?_
  by_cases hxkey : x.key = key
  · have hne : x.id ≠ l.id := by
      intro hid
      rw [eq_of_id_eq hids hx hl hid] at hxkey
      exact hkey hxkey
    simp [hne]
  · simp [hxkey]

/-- As many records of a key are created as there are more declared ones than live ones that are
    left. -/
theorem countP_created (hids : (liveIds managed).Nodup) (key : RecordKey) (rs : List Record)
    (taken : List String) :
    (declaredChanges domain managed taken rs).countP
        (fun c => c.key = key && c.action.isCreation) =
      (rs.map (·.keyIn domain)).count key -
        managed.countP (fun l => l.key = key && l.id ∉ taken) := by
  -- What was taken grows along the records, so the induction is for any such list.
  induction rs generalizing taken with
  | nil => simp [declaredChanges]
  | cons r rest ih =>
    rw [declaredChanges, List.countP_cons, ih, List.map_cons, List.count_cons]
    cases hchoose : choose? r (managed.filter fun l => l.key = r.keyIn domain && l.id ∉ taken) with
    | none =>
      show _ - managed.countP (fun l => l.key = key && l.id ∉ taken) +
        (if (decide (r.keyIn domain = key) && true) = true then 1 else 0) = _
      by_cases hkey : r.keyIn domain = key
      · have hnone := choose?_eq_none_iff.mp hchoose
        rw [hkey, ← List.length_eq_zero_iff, ← List.countP_eq_length_filter] at hnone
        rw [hnone, if_pos (beq_iff_eq.mpr hkey), if_pos (by simp [hkey]), Nat.sub_zero,
          Nat.sub_zero]
      · rw [if_neg (mt beq_iff_eq.mp hkey), if_neg (by simp [hkey]), Nat.add_zero, Nat.add_zero]
    | some l =>
      have hl := mem_of_choose? hchoose
      rw [List.mem_filter, Bool.and_eq_true, decide_eq_true_eq, decide_eq_true_eq] at hl
      obtain ⟨hmem, hlkey, hfree⟩ := hl
      have hcreation : (actionFor domain r (some l)).isCreation = false := by
        cases haction : actionFor domain r (some l) with
        | create r' => exact absurd (actionFor_eq_create_iff.mp haction).1 (Option.some_ne_none l)
        | _ => rfl
      show _ - managed.countP (fun x => x.key = key && x.id ∉ l.id :: taken) +
        (if (decide (r.keyIn domain = key) && (actionFor domain r (some l)).isCreation) = true
          then 1 else 0) = _
      rw [hcreation, Bool.and_false, if_neg Bool.false_ne_true, Nat.add_zero]
      by_cases hkey : r.keyIn domain = key
      · rw [if_pos (beq_iff_eq.mpr hkey), ← hkey, ← hlkey, countP_not_mem_cons hids hmem hfree,
          Nat.add_sub_add_right]
      · have hne : l.key ≠ key := fun heq => hkey (hlkey.symm.trans heq)
        rw [if_neg (mt beq_iff_eq.mp hkey), countP_not_mem_cons_of_ne hids hmem hne, Nat.add_zero]

end DesiredState

/-- **How a plan assigns live records.** Whatever is declared, as long as no two live records share
    an identifier: every declared record has an entry at its place, which takes one of the live
    records that the entries before have left, as `DesiredState.Assigned` describes; no two entries
    of the plan name one live record; and of each key, as many records are created as there are
    declared ones beyond the live ones of the domain. -/
theorem plan_assignment (s : DesiredState) {live : List LiveRecord} (hids : (liveIds live).Nodup) :
    (∀ pre r post, s.records = pre ++ r :: post →
      ∃ earlier c later, (s.plan live).changes = earlier ++ c :: later ∧
        earlier.length = pre.length ∧ s.Assigned live earlier r c) ∧
      (changeIds (s.plan live).changes).Nodup ∧
      ∀ key, (s.plan live).changes.countP (fun c => c.key = key && c.action.isCreation) =
        s.keys.count key - (s.managed live).countP (·.key = key) := by
  refine ⟨fun pre r post h => DesiredState.exists_assigned h, s.changeIds_plan_nodup hids,
    fun key => ?_⟩
  have hdeletions : ((live.filter fun l => s.IsStale l).map LiveRecord.deletion).countP
      (fun c => c.key = key && c.action.isCreation) = 0 := by
    rw [List.countP_eq_zero]
    intro c hc
    obtain ⟨l, _, rfl⟩ := List.mem_map.mp hc
    rw [Bool.and_eq_true]
    exact fun h => Bool.false_ne_true h.2
  rw [DesiredState.changes_plan_append, List.countP_append, hdeletions, Nat.add_zero,
    DesiredState.countP_created (DesiredState.liveIds_managed_nodup hids), DesiredState.keys]
  simp

/-- Three addresses under one name, in two spellings. -/
def mirrorState : DesiredState := .ofRecords "example.com" [
  { name := "www", type := .a, value := .content "192.0.2.1" },
  { name := "WWW", type := .a, value := .content "192.0.2.2" },
  { name := "www", type := .a, value := .content "192.0.2.3" }]

/-- Two live addresses of the name, the second of which is declared. -/
def mirrorRecords : List LiveRecord := [
  ⟨"1", { name := "www.example.com", type := .a, value := .content "192.0.2.9" }⟩,
  ⟨"2", { name := "www.example.com", type := .a, value := .content "192.0.2.2" }⟩]

/-- One of the three addresses is created, the second declared one has an entry behind that of the
    first, and no live record is named twice. -/
theorem plan_assignment_mirrorState :
    (liveIds mirrorRecords).Nodup ∧
      (∃ earlier c later, (mirrorState.plan mirrorRecords).changes = earlier ++ c :: later ∧
        earlier.length = 1 ∧ mirrorState.Assigned mirrorRecords earlier
          { name := "WWW", type := .a, value := .content "192.0.2.2" } c) ∧
      (changeIds (mirrorState.plan mirrorRecords).changes).Nodup ∧
      (mirrorState.plan mirrorRecords).changes.countP
        (fun c => c.key = ⟨"www.example.com", .a⟩ && c.action.isCreation) = 3 - 2 := by
  have hids : (liveIds mirrorRecords).Nodup := by decide
  obtain ⟨hassigned, hnodup, hcreated⟩ := plan_assignment mirrorState hids
  have hdeclared : mirrorState.keys.count ⟨"www.example.com", .a⟩ = 3 := by decide
  have hlive : (mirrorState.managed mirrorRecords).countP
      (·.key = ⟨"www.example.com", .a⟩) = 2 := by decide
  refine ⟨hids, hassigned [_] _ [_] rfl, hnodup, ?_⟩
  rw [hcreated, hdeclared, hlive]

example : (mirrorState.plan mirrorRecords).changes.map (·.action) = [
    .update "1" { name := "www.example.com", type := .a, value := .content "192.0.2.1" }
      { name := "www.example.com", type := .a, value := .content "192.0.2.9" },
    .unchanged "2",
    .create { name := "www.example.com", type := .a, value := .content "192.0.2.3" }] := by decide

end ZoneSync
