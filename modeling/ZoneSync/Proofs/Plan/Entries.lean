import ZoneSync.Plan.Basic
import ZoneSync.Proofs.Record.Identity

namespace ZoneSync

/-!
# The entries of a plan

Which live records the entries of a plan name, for any declared records, and what a plan looks like
when no key is declared twice.

* `Action.id?`, `changeIds` — the live record that an entry names;
* `DesiredState.choose?_cases` — the live record that a declared one takes;
* `DesiredState.changeIds_plan_nodup`, `DesiredState.exists_of_mem_changeIds` — a plan names no live
  record twice, and which ones it can name;
* `DesiredState.changes_plan_eq` — with distinct keys, every declared record has an entry that only
  depends on the live records of its key.
-/

/-! ### Named records -/

/-- The identifier of the live record that an action names. -/
def Action.id? : Action → Option String
  | .create _ => none
  | .update id _ _ => some id
  | .delete id _ => some id
  | .unchanged id => some id

/-- The identifiers that entries name, in order. -/
def changeIds (cs : List Change) : List String := cs.filterMap (·.action.id?)

@[simp] theorem changeIds_append (cs cs' : List Change) :
    changeIds (cs ++ cs') = changeIds cs ++ changeIds cs' :=
  List.filterMap_append

theorem mem_changeIds {cs : List Change} {id : String} :
    id ∈ changeIds cs ↔ ∃ c ∈ cs, c.action.id? = some id :=
  List.mem_filterMap

/-- A plan has converged when no entry asks for anything. -/
theorem Plan.isConverged_iff {p : Plan} :
    p.isConverged = true ↔ ∀ c ∈ p.changes, c.action.isMutation = false := by
  rw [isConverged, mutations, List.isEmpty_iff, List.filter_eq_nil_iff]
  simp only [Bool.not_eq_true]

namespace DesiredState

/-! ### The choice of a live record -/

variable {r : Record} {found : List LiveRecord} {l : LiveRecord}

/-- A declared record takes one that says the same, or else the first one when none does. -/
theorem choose?_cases (h : choose? r found = some l) :
    (r.sameValue l.record = true ∧ l ∈ found) ∨
      (found.head? = some l ∧ ∀ l' ∈ found, r.sameValue l'.record = false) := by
  rw [choose?, Option.or_eq_some_iff] at h
  rcases h with h | ⟨hnone, hhead⟩
  · have hsame := List.find?_some h
    exact .inl ⟨hsame, List.mem_of_find?_eq_some h⟩
  · refine .inr ⟨hhead, fun l' hl' => ?_⟩
    exact Bool.eq_false_iff.mpr (List.find?_eq_none.mp hnone l' hl')

theorem mem_of_choose? (h : choose? r found = some l) : l ∈ found := by
  rcases choose?_cases h with ⟨_, hmem⟩ | ⟨hhead, _⟩
  · exact hmem
  · exact List.mem_of_mem_head? hhead

/-- Nothing is taken only when there is nothing to take. -/
theorem choose?_eq_none_iff : choose? r found = none ↔ found = [] := by
  rw [choose?, Option.or_eq_none_iff, List.head?_eq_none_iff]
  constructor
  · exact fun h => h.2
  · rintro rfl
    exact ⟨rfl, rfl⟩

/-- Where some record says the same, one that does is taken. -/
theorem exists_choose?_of_sameValue (hl : l ∈ found) (hsame : r.sameValue l.record = true) :
    ∃ l' ∈ found, choose? r found = some l' ∧ r.sameValue l'.record = true := by
  cases hchoose : choose? r found with
  | none =>
    rw [choose?_eq_none_iff.mp hchoose] at hl
    exact absurd hl List.not_mem_nil
  | some l' =>
    rcases choose?_cases hchoose with ⟨hsame', hmem⟩ | ⟨_, hnone⟩
    · exact ⟨l', hmem, rfl, hsame'⟩
    · exact absurd (hnone l hl ▸ hsame) Bool.false_ne_true

@[simp] theorem id?_actionFor (domain : String) (r : Record) (chosen : Option LiveRecord) :
    (actionFor domain r chosen).id? = chosen.map (·.id) := by
  cases chosen with
  | none => rfl
  | some l =>
    rw [actionFor]
    split <;> rfl

/-- A declared record is created when it takes no live one. -/
theorem actionFor_eq_create_iff {domain : String} {r' : Record} {chosen : Option LiveRecord} :
    actionFor domain r chosen = .create r' ↔ chosen = none ∧ r' = r.qualified domain := by
  cases chosen with
  | none =>
    rw [actionFor, Action.create.injEq]
    exact ⟨fun h => ⟨rfl, h.symm⟩, fun h => h.2.symm⟩
  | some l =>
    rw [actionFor]
    constructor
    · intro h
      split at h <;> exact nomatch h
    · exact fun h => nomatch h.1

/-- A declared record replaces the one that it takes when that says something else. -/
theorem actionFor_eq_update_iff {domain id : String} {r' current : Record}
    {chosen : Option LiveRecord} :
    actionFor domain r chosen = .update id r' current ↔
      chosen = some ⟨id, current⟩ ∧ r.sameValue current = false ∧ r' = r.qualified domain := by
  cases chosen with
  | none =>
    constructor
    · exact fun h => nomatch h
    · exact fun h => nomatch h.1
  | some l =>
    rw [actionFor]
    constructor
    · intro h
      split at h
      · exact nomatch h
      · rename_i hsame
        obtain ⟨rfl, rfl, rfl⟩ := Action.update.inj h
        exact ⟨rfl, Bool.eq_false_iff.mpr hsame, rfl⟩
    · rintro ⟨hl, hsame, rfl⟩
      obtain rfl := Option.some.inj hl
      rw [if_neg (Bool.eq_false_iff.mp hsame)]

/-- A declared record keeps the one that it takes when that says the same. -/
theorem actionFor_eq_unchanged_iff {domain id : String} {chosen : Option LiveRecord} :
    actionFor domain r chosen = .unchanged id ↔
      ∃ l, chosen = some l ∧ l.id = id ∧ r.sameValue l.record = true := by
  cases chosen with
  | none =>
    constructor
    · exact fun h => nomatch h
    · rintro ⟨l, hl, _⟩
      exact nomatch hl
  | some l =>
    rw [actionFor]
    constructor
    · intro h
      split at h
      · rename_i hsame
        exact ⟨l, rfl, Action.unchanged.inj h, hsame⟩
      · exact nomatch h
    · rintro ⟨l', hl, rfl, hsame⟩
      obtain rfl := Option.some.inj hl
      rw [if_pos hsame]

theorem actionFor_ne_delete {domain id : String} {current : Record} {chosen : Option LiveRecord} :
    actionFor domain r chosen ≠ .delete id current := by
  cases chosen with
  | none => exact nofun
  | some l =>
    rw [actionFor]
    split <;> exact nofun

/-! ### No live record is named twice -/

theorem changeIds_declaredChanges_cons (domain : String) (managed : List LiveRecord)
    (taken : List String) (r : Record) (rest : List Record) :
    let chosen := choose? r (managed.filter fun l => l.key = r.keyIn domain && l.id ∉ taken)
    changeIds (declaredChanges domain managed taken (r :: rest)) =
      (chosen.map (·.id)).toList ++
        changeIds (declaredChanges domain managed ((chosen.map (·.id)).toList ++ taken) rest) := by
  intro chosen
  rw [declaredChanges, changeIds, List.filterMap_cons]
  simp only [id?_actionFor]
  cases hc : chosen with
  | none => simp only [chosen] at hc; rw [hc]; rfl
  | some l => simp only [chosen] at hc; rw [hc]; rfl

/-- The entries for declared records name live records of their keys, none of them taken before and
    none of them twice. -/
theorem changeIds_declaredChanges (domain : String) (managed : List LiveRecord)
    (rs : List Record) (taken : List String) :
    (changeIds (declaredChanges domain managed taken rs)).Nodup ∧
      ∀ id ∈ changeIds (declaredChanges domain managed taken rs),
        id ∉ taken ∧ ∃ l ∈ managed, l.id = id ∧ l.key ∈ rs.map (·.keyIn domain) := by
  -- What was taken grows along the records, so the induction is for any such list.
  induction rs generalizing taken with
  | nil => exact ⟨List.nodup_nil, fun id hid => absurd hid List.not_mem_nil⟩
  | cons r rest ih =>
    rw [changeIds_declaredChanges_cons]
    cases hc : choose? r (managed.filter fun l => l.key = r.keyIn domain && l.id ∉ taken) with
    | none =>
      obtain ⟨hnodup, hmem⟩ := ih taken
      refine ⟨hnodup, fun id hid => ?_⟩
      obtain ⟨htaken, l, hl, hlid, hkey⟩ := hmem id hid
      exact ⟨htaken, l, hl, hlid, List.mem_cons_of_mem _ hkey⟩
    | some l =>
      have hl := mem_of_choose? hc
      rw [List.mem_filter, Bool.and_eq_true, decide_eq_true_eq, decide_eq_true_eq] at hl
      obtain ⟨hmanaged, hkey, htaken⟩ := hl
      -- The live record counts as taken for the rest, so that it is named nowhere else.
      obtain ⟨hnodup, hmem⟩ := ih (l.id :: taken)
      refine ⟨List.nodup_cons.mpr ⟨fun hid => ?_, hnodup⟩, fun id hid => ?_⟩
      · exact (hmem l.id hid).1 List.mem_cons_self
      · rcases List.mem_cons.mp hid with rfl | hid
        · exact ⟨htaken, l, hmanaged, rfl, by rw [hkey]; exact List.mem_cons_self⟩
        · obtain ⟨hnew, l', hl', hlid', hkey'⟩ := hmem id hid
          exact ⟨fun h => hnew (List.mem_cons_of_mem _ h), l', hl', hlid',
            List.mem_cons_of_mem _ hkey'⟩

/-- A live record is deleted when its key is not declared, and its type not preserved. -/
theorem deletion?_eq_some_iff {declared : List RecordKey} {c : Change} :
    deletion? declared l = some c ↔
      (l.key ∉ declared ∧ l.record.type.isPreserved = false) ∧
        c = ⟨l.key, .delete l.id l.record⟩ := by
  rw [deletion?]
  by_cases h : l.key ∈ declared ∨ l.record.type.isPreserved = true
  · rw [if_pos h]
    constructor
    · exact fun h' => absurd h' (by simp)
    · rintro ⟨⟨hkey, htype⟩, _⟩
      rcases h with h | h
      · exact absurd h hkey
      · exact absurd (htype.symm.trans h) (by simp)
  · rw [if_neg h, Option.some.injEq]
    rw [not_or, Bool.not_eq_true] at h
    exact ⟨fun h' => ⟨h, h'.symm⟩, fun h' => h'.2.symm⟩

/-- Deletions name live records in their order. -/
theorem changeIds_deletions_sublist (declared : List RecordKey) (managed : List LiveRecord) :
    (changeIds (managed.filterMap (deletion? declared))).Sublist (liveIds managed) := by
  induction managed with
  | nil => exact List.Sublist.slnil
  | cons l rest ih =>
    rw [List.filterMap_cons]
    cases hd : deletion? declared l with
    | none => exact ih.cons _
    | some c =>
      obtain ⟨_, rfl⟩ := deletion?_eq_some_iff.mp hd
      exact ih.cons_cons _

theorem managed_sublist (s : DesiredState) (live : List LiveRecord) :
    (s.managed live).Sublist live :=
  List.filter_sublist

/-- Within the domain identifiers are not shared either. -/
theorem liveIds_managed_nodup {s : DesiredState} {live : List LiveRecord}
    (h : (liveIds live).Nodup) : (liveIds (s.managed live)).Nodup :=
  (liveIds_filter_sublist _ live).nodup h

/-- An entry for a declared record names a live record of a declared key. -/
theorem exists_of_mem_changeIds_declared {s : DesiredState} {live : List LiveRecord} {id : String}
    (h : id ∈ changeIds (declaredChanges s.domain (s.managed live) [] s.records)) :
    ∃ l ∈ s.managed live, l.id = id ∧ l.key ∈ s.keys := by
  obtain ⟨_, l, hl, hid, hkey⟩ := (changeIds_declaredChanges _ _ _ _).2 id h
  exact ⟨l, hl, hid, hkey⟩

/-- A deletion names a live record of an undeclared key and of a type that is not preserved. -/
theorem exists_of_mem_changeIds_deletions {s : DesiredState} {live : List LiveRecord} {id : String}
    (h : id ∈ changeIds ((s.managed live).filterMap (deletion? s.keys))) :
    ∃ l ∈ s.managed live,
      l.id = id ∧ l.key ∉ s.keys ∧ l.record.type.isPreserved = false := by
  obtain ⟨c, hc, hid⟩ := mem_changeIds.mp h
  obtain ⟨l, hl, hdel⟩ := List.mem_filterMap.mp hc
  obtain ⟨⟨hkey, htype⟩, rfl⟩ := deletion?_eq_some_iff.mp hdel
  exact ⟨l, hl, Option.some.inj hid, hkey, htype⟩

/-- A plan names no live record twice. -/
theorem changeIds_plan_nodup (s : DesiredState) {live : List LiveRecord}
    (h : (liveIds live).Nodup) : (changeIds (s.plan live).changes).Nodup := by
  have hmanaged := liveIds_managed_nodup (s := s) h
  show (changeIds (_ ++ _)).Nodup
  rw [changeIds_append]
  refine List.nodup_append.mpr ⟨(changeIds_declaredChanges _ _ _ _).1,
    (changeIds_deletions_sublist _ _).nodup hmanaged, ?_⟩
  -- An identifier in both parts would be that of a record whose key is declared, and is not.
  rintro id hid _ hid' rfl
  obtain ⟨l, hl, hlid, hkey⟩ := exists_of_mem_changeIds_declared hid
  obtain ⟨l', hl', hlid', hkey', _⟩ := exists_of_mem_changeIds_deletions hid'
  have hsame : l = l' := eq_of_id_eq hmanaged hl hl' (hlid.trans hlid'.symm)
  rw [hsame] at hkey
  exact hkey' hkey

/-- A plan only names records that are there: for a declared record, one of a declared key, and for
    a deletion, one of an undeclared key and of a type that is not preserved. -/
theorem exists_of_mem_changeIds {s : DesiredState} {live : List LiveRecord} {id : String}
    (h : id ∈ changeIds (s.plan live).changes) :
    ∃ l ∈ s.managed live,
      l.id = id ∧ (l.key ∈ s.keys ∨ l.key ∉ s.keys ∧ l.record.type.isPreserved = false) := by
  have h' : id ∈ changeIds (_ ++ _) := h
  rw [changeIds_append, List.mem_append] at h'
  rcases h' with h' | h'
  · obtain ⟨l, hl, hid, hkey⟩ := exists_of_mem_changeIds_declared h'
    exact ⟨l, hl, hid, .inl hkey⟩
  · obtain ⟨l, hl, hid, hkey⟩ := exists_of_mem_changeIds_deletions h'
    exact ⟨l, hl, hid, .inr hkey⟩

/-! ### Distinct keys -/

theorem keyIn_mem_keys {s : DesiredState} (hr : r ∈ s.records) : r.keyIn s.domain ∈ s.keys :=
  List.mem_map_of_mem hr

/-- Where no key is declared twice, a key says which declared record is meant. -/
theorem eq_of_keyIn_eq {s : DesiredState} (hkeys : s.keys.Nodup) {r r' : Record}
    (hr : r ∈ s.records) (hr' : r' ∈ s.records) (h : r.keyIn s.domain = r'.keyIn s.domain) :
    r = r' :=
  List.inj_on_of_nodup_map hkeys hr hr' h

/-- A live record of a declared key is not deleted. -/
theorem deletion?_of_mem_keys {declared : List RecordKey} (h : l.key ∈ declared) :
    deletion? declared l = none := by
  rw [deletion?, if_pos (.inl h)]

/-- The live records within the domain that have a key. -/
def candidates (s : DesiredState) (live : List LiveRecord) (key : RecordKey) : List LiveRecord :=
  (s.managed live).filter (·.key = key)

theorem mem_candidates {s : DesiredState} {live : List LiveRecord} {key : RecordKey} :
    l ∈ s.candidates live key ↔ l ∈ s.managed live ∧ l.key = key := by
  rw [candidates, List.mem_filter, decide_eq_true_eq]

/-- The entry of a declared record, by the live records of its key alone. -/
def entryFor (s : DesiredState) (live : List LiveRecord) (r : Record) : Change :=
  ⟨r.keyIn s.domain, actionFor s.domain r (choose? r (s.candidates live (r.keyIn s.domain)))⟩

/-- What earlier records took is of no use to the ones of other keys. -/
theorem declaredChanges_eq_map {s : DesiredState} {live : List LiveRecord}
    (hids : (liveIds (s.managed live)).Nodup) (rs : List Record) (taken : List String)
    (hkeys : (rs.map (·.keyIn s.domain)).Nodup)
    (htaken : ∀ l ∈ s.managed live, l.id ∈ taken → l.key ∉ rs.map (·.keyIn s.domain)) :
    declaredChanges s.domain (s.managed live) taken rs = rs.map (s.entryFor live) := by
  induction rs generalizing taken with
  | nil => rfl
  | cons r rest ih =>
    obtain ⟨hr, hrest⟩ := List.nodup_cons.mp hkeys
    -- What was taken before has other keys, so that all records of this one are left.
    have hfilter : (s.managed live).filter (fun l => l.key = r.keyIn s.domain && l.id ∉ taken) =
        s.candidates live (r.keyIn s.domain) := by
      refine List.filter_congr fun l hl => ?_
      by_cases hkey : l.key = r.keyIn s.domain
      · have : l.id ∉ taken := fun hid =>
          htaken l hl hid (by rw [hkey]; exact List.mem_cons_self)
        simp [hkey, this]
      · simp [hkey]
    rw [declaredChanges, List.map_cons, hfilter]
    refine congrArg₂ _ rfl (ih _ hrest ?_)
    intro l hl hid
    cases hc : choose? r (s.candidates live (r.keyIn s.domain)) with
    | none =>
      rw [hc] at hid
      exact fun hkey => htaken l hl hid (List.mem_cons_of_mem _ hkey)
    | some chosen =>
      obtain ⟨hchosen, hkey⟩ := mem_candidates.mp (mem_of_choose? hc)
      rw [hc] at hid
      rcases List.mem_cons.mp hid with hid | hid
      · rw [eq_of_id_eq hids hl hchosen hid, hkey]
        exact hr
      · exact fun hkey => htaken l hl hid (List.mem_cons_of_mem _ hkey)

/-- With distinct keys a plan has an entry for every declared record, each by itself, and then the
    deletions. -/
theorem changes_plan_eq {s : DesiredState} (hkeys : s.keys.Nodup) {live : List LiveRecord}
    (hids : (liveIds live).Nodup) :
    (s.plan live).changes =
      s.records.map (s.entryFor live) ++ (s.managed live).filterMap (deletion? s.keys) := by
  show declaredChanges s.domain (s.managed live) [] s.records ++ _ = _
  rw [declaredChanges_eq_map (liveIds_managed_nodup hids) s.records [] hkeys
    (fun _ _ hid => absurd hid List.not_mem_nil)]

/-- An entry of a plan is that of a declared record, or a deletion. -/
theorem mem_changes_iff {s : DesiredState} (hkeys : s.keys.Nodup) {live : List LiveRecord}
    (hids : (liveIds live).Nodup) {c : Change} :
    c ∈ (s.plan live).changes ↔
      (∃ r ∈ s.records, s.entryFor live r = c) ∨
        ∃ l ∈ s.managed live, deletion? s.keys l = some c := by
  rw [changes_plan_eq hkeys hids, List.mem_append, List.mem_map, List.mem_filterMap]

/-- With distinct keys no two entries of a plan are the same. -/
theorem changes_plan_nodup {s : DesiredState} (hkeys : s.keys.Nodup) {live : List LiveRecord}
    (hids : (liveIds live).Nodup) : (s.plan live).changes.Nodup := by
  rw [changes_plan_eq hkeys hids]
  -- Entries of declared records differ in their keys, and deletions in the records they name.
  refine List.nodup_append.mpr ⟨List.Nodup.of_map Change.key ?_, ?_, ?_⟩
  · rw [List.map_map]
    exact hkeys
  · refine List.Nodup.filterMap ?_ (List.Nodup.of_map _ (liveIds_managed_nodup hids))
    intro l l' c hc hc'
    obtain ⟨_, rfl⟩ := deletion?_eq_some_iff.mp hc
    obtain ⟨_, heq⟩ := deletion?_eq_some_iff.mp hc'
    obtain ⟨hid, hrecord⟩ := Action.delete.inj (congrArg Change.action heq)
    show (⟨l.id, l.record⟩ : LiveRecord) = ⟨l'.id, l'.record⟩
    rw [hid, hrecord]
  · rintro c hc _ hc' rfl
    obtain ⟨r, hr, rfl⟩ := List.mem_map.mp hc
    obtain ⟨l, _, hdel⟩ := List.mem_filterMap.mp hc'
    exact actionFor_ne_delete (congrArg Change.action (deletion?_eq_some_iff.mp hdel).2)

/-- A plan that asks for nothing has an entry for every declared record and no others. -/
theorem changes_of_isConverged {s : DesiredState} (hkeys : s.keys.Nodup) {live : List LiveRecord}
    (hids : (liveIds live).Nodup) (h : (s.plan live).isConverged = true) :
    (s.plan live).changes.map (·.key) = s.keys ∧
      ∀ c ∈ (s.plan live).changes, ∃ id, c.action = .unchanged id := by
  have hkeep : ∀ c ∈ (s.plan live).changes, ∃ id, c.action = .unchanged id := by
    intro c hc
    have hnone := Plan.isConverged_iff.mp h c hc
    cases haction : c.action with
    | unchanged id => exact ⟨id, rfl⟩
    | create r => exact nomatch haction ▸ hnone
    | update id r current => exact nomatch haction ▸ hnone
    | delete id current => exact nomatch haction ▸ hnone
  refine ⟨?_, hkeep⟩
  have hdels : (s.managed live).filterMap (deletion? s.keys) = [] := by
    rw [List.filterMap_eq_nil_iff]
    intro l hl
    cases hdel : deletion? s.keys l with
    | none => rfl
    | some c =>
      obtain ⟨id, hid⟩ := hkeep c ((mem_changes_iff hkeys hids).mpr (.inr ⟨l, hl, hdel⟩))
      rw [(deletion?_eq_some_iff.mp hdel).2] at hid
      exact nomatch hid
  rw [changes_plan_eq hkeys hids, hdels, List.append_nil, List.map_map]
  rfl

/-- A declared record for which there is a live one that says the same keeps such a one: not
    necessarily the given one, but only another that says the same too. -/
theorem exists_entryFor_eq_unchanged {s : DesiredState} {live : List LiveRecord}
    (hl : l ∈ s.candidates live (r.keyIn s.domain)) (hsame : r.sameValue l.record = true) :
    ∃ l' ∈ s.candidates live (r.keyIn s.domain),
      s.entryFor live r = ⟨r.keyIn s.domain, .unchanged l'.id⟩ := by
  obtain ⟨l', hl', hchoose, hsame'⟩ := exists_choose?_of_sameValue hl hsame
  refine ⟨l', hl', ?_⟩
  rw [entryFor, actionFor_eq_unchanged_iff.mpr ⟨l', hchoose, rfl, hsame'⟩]

/-- There is nothing to do when every declared record has a live one that says the same, and no live
    record is without a declaration. -/
theorem isConverged_of_forall {s : DesiredState} (hkeys : s.keys.Nodup) {live : List LiveRecord}
    (hids : (liveIds live).Nodup)
    (hdeclared : ∀ r ∈ s.records, ∃ l ∈ s.candidates live (r.keyIn s.domain),
      r.sameValue l.record = true)
    (hdels : ∀ l ∈ s.managed live, deletion? s.keys l = none) :
    (s.plan live).isConverged = true := by
  rw [Plan.isConverged_iff]
  intro c hc
  rcases (mem_changes_iff hkeys hids).mp hc with ⟨r, hr, rfl⟩ | ⟨l, hl, hdel⟩
  · obtain ⟨l, hl, hsame⟩ := hdeclared r hr
    obtain ⟨l', _, hentry⟩ := exists_entryFor_eq_unchanged hl hsame
    rw [hentry]
    rfl
  · rw [hdels l hl] at hdel
    exact nomatch hdel

end DesiredState

end ZoneSync
