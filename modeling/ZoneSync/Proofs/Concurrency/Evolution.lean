import ZoneSync.Proofs.Concurrency.Client
import ZoneSync.Proofs.Plan.Entries
import ZoneSync.Proofs.Zone.Identifiers

namespace ZoneSync

/-!
# Zones that several runs change

While a run is under way, others change the zone that it planned for. As long as all of them run the
same desired state, some things can be relied on: an identifier keeps its key, a record of a
declared key stays, and one that says what is declared goes on saying it.

* `Zone.Ready` — a zone in which no fault is set up;
* `DesiredState.Evolves` — what a zone becomes can be relied on;
* `DesiredState.Allows`, `DesiredState.allows_of_mem_changes` — entries that keep what others rely
  on, and that those of a plan are such entries, however old the plan is;
* `DesiredState.Settled` — entries that the zone agrees with;
* `DesiredState.evolves_answer`, `DesiredState.settled_answer`, `DesiredState.failure_answer` — what
  asking for an allowed entry does.
-/

/-! ### Zones without faults -/

/-- A zone that can be read, whose records can be told apart, and which refuses no name. -/
structure Zone.Ready (z : Zone) : Prop extends z.Identified where
  working : z.failing = []
  readable : z.listingFails = false

namespace Zone

variable {z : Zone}

theorem Ready.fails_eq (hz : z.Ready) (name : String) : z.fails name = false := by
  rw [fails, hz.working]
  exact decide_eq_false List.not_mem_nil

/-- An entry leaves the faults of a zone as they are. -/
theorem faults_answer (z : Zone) (c : Change) :
    ((provider.answer c).run z).2.failing = z.failing ∧
      ((provider.answer c).run z).2.listingFails = z.listingFails := by
  unfold Provider.answer
  cases c.action with
  | unchanged id => exact ⟨rfl, rfl⟩
  | create r =>
    show (z.create r).2.failing = _ ∧ (z.create r).2.listingFails = _
    unfold create
    dsimp only
    split <;> exact ⟨rfl, rfl⟩
  | update id r current =>
    show (z.update id r).2.failing = _ ∧ (z.update id r).2.listingFails = _
    unfold update
    dsimp only
    split
    · exact ⟨rfl, rfl⟩
    · split <;> exact ⟨rfl, rfl⟩
  | delete id current =>
    show (z.delete id).2.failing = _ ∧ (z.delete id).2.listingFails = _
    unfold delete
    dsimp only
    split
    · exact ⟨rfl, rfl⟩
    · split <;> exact ⟨rfl, rfl⟩

theorem Ready.answer (hz : z.Ready) (c : Change) : ((provider.answer c).run z).2.Ready := by
  obtain ⟨hfailing, hlisting⟩ := faults_answer z c
  exact ⟨hz.toIdentified.answer c, hfailing.trans hz.working, hlisting.trans hz.readable⟩

/-- Reading the records of a zone without faults changes nothing of it. -/
theorem Ready.serve_list (hz : z.Ready) :
    (z.serve .list).1 = .ok z.records ∧ (z.serve .list).2.records = z.records ∧
      (z.serve .list).2.nextId = z.nextId ∧ (z.serve .list).2.Ready := by
  obtain ⟨calls, hlist⟩ := list_eq hz.readable
  show z.list.1 = _ ∧ z.list.2.records = _ ∧ z.list.2.nextId = _ ∧ z.list.2.Ready
  rw [hlist]
  exact ⟨rfl, rfl, rfl, ⟨hz.nodup, hz.fresh⟩, hz.working, hz.readable⟩

/-- In a zone without faults, an entry that is not carried out asks for nothing, or names a record
    that is not there. -/
theorem Ready.answer_cases (hz : z.Ready) (c : Change) :
    ((provider.answer c).run z).1.any (·.isApplied) = true ∨
      (∃ id, c.action = .unchanged id) ∨
      (∃ id r current, c.action = .update id r current ∧ id ∉ liveIds z.records) ∨
      ∃ id current, c.action = .delete id current ∧ id ∉ liveIds z.records ∧
        ((provider.answer c).run z).1 =
          some ⟨c.key, .delete, some (Error.notFound id).message⟩ := by
  unfold Provider.answer
  cases hc : c.action with
  | unchanged id => exact .inr (.inl ⟨id, rfl⟩)
  | create r =>
    left
    show (some (⟨c.key, .create, failure? (z.create r).1⟩ : Outcome)).any _ = true
    obtain ⟨calls, h⟩ := create_eq z r
    rw [h, hz.fails_eq]
    rfl
  | update id r current =>
    by_cases hid : id ∈ liveIds z.records
    · left
      show (some (⟨c.key, .update, failure? (z.update id r).1⟩ : Outcome)).any _ = true
      obtain ⟨calls, h⟩ := update_eq hz.toIdentified id r
      rw [h, hz.fails_eq, if_neg Bool.false_ne_true, if_pos hid]
      rfl
    · exact .inr (.inr (.inl ⟨id, r, current, rfl, hid⟩))
  | delete id current =>
    by_cases hid : id ∈ liveIds z.records
    · left
      show (some (⟨c.key, .delete, failure? (z.delete id).1⟩ : Outcome)).any _ = true
      obtain ⟨l, hl, rfl⟩ := List.mem_map.mp hid
      obtain ⟨calls, h⟩ := delete_of_mem hz.toIdentified hl
      rw [h, hz.fails_eq]
      rfl
    · refine .inr (.inr (.inr ⟨id, current, rfl, hid, ?_⟩))
      show some (⟨c.key, .delete, failure? (z.delete id).1⟩ : Outcome) = _
      obtain ⟨calls, h⟩ := delete_of_not_mem hid
      rw [h]
      rfl

/-- Only a deletion takes a record away. -/
theorem action_of_not_mem_answer (hz : z.Identified) {c : Change} {id : String}
    (hid : id ∈ liveIds z.records)
    (hgone : id ∉ liveIds ((provider.answer c).run z).2.records) :
    ∃ current, c.action = .delete id current ∧
      ((provider.answer c).run z).1.any (·.isApplied) = true := by
  cases answered hz c with
  | kept _ hr _ => exact absurd (hr ▸ hid) hgone
  | created r _ _ hr _ =>
    rw [hr, liveIds, List.map_append] at hgone
    exact absurd (List.mem_append_left _ hid) hgone
  | updated id' r _ _ _ hr _ =>
    rw [hr, liveIds_replaceAll] at hgone
    exact absurd hid hgone
  | deleted id' current haction ho hr _ =>
    by_cases hne : id = id'
    · exact ⟨current, hne ▸ haction, ho⟩
    · obtain ⟨l, hl, rfl⟩ := List.mem_map.mp hid
      rw [hr] at hgone
      exact absurd (mem_liveIds (List.mem_filter.mpr ⟨hl, by simpa using hne⟩)) hgone

end Zone

namespace DesiredState

/-! ### What others rely on -/

/-- What a zone becomes while the state is run on it, by whomever: identifiers keep their keys,
    records of declared keys stay and go on saying what is declared, and whatever is new has a
    declared key and an identifier that was not given out before. -/
structure Evolves (s : DesiredState) (z z' : Zone) : Prop where
  keys : ∀ l ∈ z.records, ∀ l' ∈ z'.records, l'.id = l.id → l'.key = l.key
  kept : ∀ l ∈ z.records, l.key ∈ s.keys → ∃ l' ∈ z'.records, l'.id = l.id ∧
    ∀ r ∈ s.records, r.keyIn s.domain = l.key → r.sameValue l.record = true →
      r.sameValue l'.record = true
  new : ∀ l' ∈ z'.records, l'.id ∈ liveIds z.records ∨
    l'.key ∈ s.keys ∧ ∃ n, z.nextId ≤ n ∧ l'.id = Zone.newId n
  nextId : z.nextId ≤ z'.nextId

variable {s : DesiredState} {z z' z'' : Zone}

/-- Nothing has to happen. -/
theorem evolves_of_records_eq (hz : z.Identified) (hr : z'.records = z.records)
    (hn : z'.nextId = z.nextId) : s.Evolves z z' := by
  refine ⟨?_, ?_, ?_, Nat.le_of_eq hn.symm⟩
  · intro l hl l' hl' hid
    rw [eq_of_id_eq hz.nodup (hr ▸ hl') hl hid]
  · intro l hl _
    exact ⟨l, hr ▸ hl, rfl, fun r _ _ hsame => hsame⟩
  · intro l' hl'
    exact .inl (mem_liveIds (hr ▸ hl'))

/-- An identifier that is gone does not come back, so that what can be relied on for one change
    after the other can be relied on for both. -/
theorem Evolves.trans (hz : z.Identified) (h : s.Evolves z z') (h' : s.Evolves z' z'') :
    s.Evolves z z'' := by
  constructor
  · intro l hl l'' hl'' hid
    -- The zone between has the identifier, or it is a new one, which the first zone cannot have.
    rcases h'.new l'' hl'' with hmem | ⟨_, n, hn, hnew⟩
    · obtain ⟨l', hl', hid'⟩ := List.mem_map.mp hmem
      rw [h'.keys l' hl' l'' hl'' hid'.symm, h.keys l hl l' hl' (hid'.trans hid)]
    · have hmem : Zone.newId n ∈ liveIds z.records := by
        rw [← hnew, hid]
        exact mem_liveIds hl
      exact absurd hmem (hz.fresh n (le_trans h.nextId hn))
  · intro l hl hkey
    obtain ⟨l', hl', hid', hsame'⟩ := h.kept l hl hkey
    have hkey' : l'.key = l.key := h.keys l hl l' hl' hid'
    obtain ⟨l'', hl'', hid'', hsame''⟩ := h'.kept l' hl' (hkey' ▸ hkey)
    refine ⟨l'', hl'', hid''.trans hid', fun r hr hrkey hsame => ?_⟩
    exact hsame'' r hr (hrkey.trans hkey'.symm) (hsame' r hr hrkey hsame)
  · intro l'' hl''
    rcases h'.new l'' hl'' with hmem | ⟨hkey, n, hn, hnew⟩
    · obtain ⟨l', hl', hid'⟩ := List.mem_map.mp hmem
      rcases h.new l' hl' with hold | ⟨hkey, hnew⟩
      · exact .inl (hid' ▸ hold)
      · have hkey'' : l''.key = l'.key := h'.keys l' hl' l'' hl'' hid'.symm
        exact .inr ⟨hkey'' ▸ hkey, hid' ▸ hnew⟩
    · exact .inr ⟨hkey, n, le_trans h.nextId hn, hnew⟩
  · exact le_trans h.nextId h'.nextId

/-- What a record without a declaration is called was its name from the start. -/
theorem Evolves.mem_liveIds (h : s.Evolves z z') {l : LiveRecord} (hl : l ∈ z'.records)
    (hkey : l.key ∉ s.keys) : l.id ∈ liveIds z.records := by
  rcases h.new l hl with hmem | ⟨hdeclared, _⟩
  · exact hmem
  · exact absurd hdeclared hkey

/-- A record that is gone stays away. -/
theorem Evolves.not_mem_liveIds (hz : z.Identified) (h : s.Evolves z z') (h' : s.Evolves z' z'')
    {id : String} (hid : id ∈ liveIds z.records) (hgone : id ∉ liveIds z'.records) :
    id ∉ liveIds z''.records := by
  intro hmem
  obtain ⟨l'', hl'', rfl⟩ := List.mem_map.mp hmem
  -- It could only come back as a new identifier, and none of those was in use.
  rcases h'.new l'' hl'' with hback | ⟨_, n, hn, hnew⟩
  · exact hgone hback
  · exact hz.fresh n (le_trans h.nextId hn) (hnew ▸ hid)

/-! ### Allowed entries -/

/-- Entries that keep what others rely on: they create and replace declared records under their own
    keys, and delete records of undeclared ones. -/
def Allows (s : DesiredState) (z : Zone) (c : Change) : Prop :=
  match c.action with
  | .create r' => ∃ r ∈ s.records, c.key = r.keyIn s.domain ∧ r' = r.qualified s.domain
  | .update id r' _ => ∃ r ∈ s.records, c.key = r.keyIn s.domain ∧ r' = r.qualified s.domain ∧
      ∃ l ∈ z.records, l.id = id ∧ l.key = r.keyIn s.domain
  | .delete id _ => ∀ l ∈ z.records, l.id = id → l.key ∉ s.keys
  | .unchanged _ => True

/-- Whether a zone has the declared record of a key, with what it says. -/
def Holds (s : DesiredState) (z : Zone) (key : RecordKey) : Prop :=
  ∃ r ∈ s.records, r.keyIn s.domain = key ∧
    ∃ l ∈ z.records, l.key = key ∧ r.sameValue l.record = true

/-- Entries that the zone agrees with: a declared record is there with what it says, or a deleted
    one is gone. -/
def Settled (s : DesiredState) (z : Zone) (c : Change) : Prop :=
  match c.action with
  | .delete id _ => id ∉ liveIds z.records
  | _ => s.Holds z c.key

/-- A settled entry that deletes nothing is one of a declared record that the zone has. -/
theorem Settled.holds {c : Change} (h : s.Settled z c)
    (hc : ∀ id current, c.action ≠ .delete id current) : s.Holds z c.key := by
  unfold Settled at h
  split at h
  · rename_i id current haction
    exact absurd haction (hc id current)
  · exact h

theorem Holds.evolves {key : RecordKey} (h : s.Evolves z z') (hholds : s.Holds z key) :
    s.Holds z' key := by
  obtain ⟨r, hr, hrkey, l, hl, hlkey, hsame⟩ := hholds
  have hmem : l.key ∈ s.keys := (hrkey.trans hlkey.symm) ▸ keyIn_mem_keys hr
  obtain ⟨l', hl', hid, hsame'⟩ := h.kept l hl hmem
  exact ⟨r, hr, hrkey, l', hl', (h.keys l hl l' hl' hid).trans hlkey,
    hsame' r hr (hrkey.trans hlkey.symm) hsame⟩

/-- What a zone has for a declared record is found by the plan for it. -/
theorem Holds.exists_candidate (hkeys : s.keys.Nodup) (hdomain : ∃ c ∈ s.domain.toList, c ≠ '.')
    {r : Record} (hr : r ∈ s.records) (h : s.Holds z (r.keyIn s.domain)) :
    ∃ l ∈ s.candidates z.records (r.keyIn s.domain), r.sameValue l.record = true := by
  obtain ⟨r', hr', hrkey, l, hl, hlkey, hsame⟩ := h
  rw [eq_of_keyIn_eq hkeys hr' hr hrkey] at hsame
  have hin : Name.inDomain l.record.name s.domain = true := by
    have hname : Name.normalize l.record.name = Name.normalize (Name.qualify r.name s.domain) :=
      congrArg RecordKey.name hlkey
    rw [Name.inDomain_congr hname, Name.inDomain_qualify r.name hdomain]
  exact ⟨l, mem_candidates.mpr ⟨List.mem_filter.mpr ⟨hl, hin⟩, hlkey⟩, hsame⟩

/-- A record that should be deleted was to be deleted from the start. -/
theorem Evolves.exists_delete (hkeys : s.keys.Nodup) (hz : z.Identified) (h : s.Evolves z z')
    {l : LiveRecord} {c : Change} (hl : l ∈ s.managed z'.records)
    (hdel : deletion? s.keys l = some c) :
    ∃ key current, ⟨key, .delete l.id current⟩ ∈ (s.plan z.records).changes := by
  obtain ⟨⟨hkey, htype⟩, _⟩ := deletion?_eq_some_iff.mp hdel
  obtain ⟨hlive, hin⟩ := List.mem_filter.mp hl
  obtain ⟨l₀, hl₀, hid⟩ := List.mem_map.mp (h.mem_liveIds hlive hkey)
  have hkey₀ : l.key = l₀.key := h.keys l₀ hl₀ l hlive hid.symm
  have htypes : l.record.type = l₀.record.type := congrArg RecordKey.type hkey₀
  have hin₀ : Name.inDomain l₀.record.name s.domain = true :=
    (inDomain_of_key_eq hkey₀ s.domain).symm.trans hin
  refine ⟨l₀.key, l₀.record, hid ▸ (mem_changes_iff hkeys hz.nodup).mpr (.inr ⟨l₀, ?_, ?_⟩)⟩
  · exact List.mem_filter.mpr ⟨hl₀, hin₀⟩
  · exact deletion?_eq_some_iff.mpr ⟨⟨hkey₀ ▸ hkey, htypes ▸ htype⟩, rfl⟩

/-- An entry of a plan is allowed ever after, although the zone is no longer the one that was
    planned for. -/
theorem allows_of_mem_changes (hkeys : s.keys.Nodup) (hz : z.Identified) (h : s.Evolves z z')
    {c : Change} (hc : c ∈ (s.plan z.records).changes) : s.Allows z' c := by
  rcases (mem_changes_iff hkeys hz.nodup).mp hc with ⟨r, hr, rfl⟩ | ⟨l, hl, hdel⟩
  · unfold Allows
    cases haction : (s.entryFor z.records r).action with
    | create r' =>
      obtain ⟨_, rfl⟩ := actionFor_eq_create_iff.mp haction
      exact ⟨r, hr, rfl, rfl⟩
    | update id r' current =>
      obtain ⟨hchoose, _, rfl⟩ := actionFor_eq_update_iff.mp haction
      obtain ⟨hmanaged, hkey⟩ := mem_candidates.mp (mem_of_choose? hchoose)
      have hlive := (s.managed_sublist z.records).subset hmanaged
      obtain ⟨l', hl', hid, _⟩ := h.kept _ hlive (hkey ▸ keyIn_mem_keys hr)
      exact ⟨r, hr, rfl, rfl, l', hl', hid, (h.keys _ hlive l' hl' hid).trans hkey⟩
    | delete id current => exact absurd haction actionFor_ne_delete
    | unchanged id => exact trivial
  · obtain ⟨⟨hkey, _⟩, rfl⟩ := deletion?_eq_some_iff.mp hdel
    intro l' hl' hid
    rw [h.keys l ((s.managed_sublist z.records).subset hl) l' hl' hid]
    exact hkey

/-- An entry that asks for nothing is settled in the zone that was planned for. -/
theorem settled_of_unchanged (hkeys : s.keys.Nodup) (hz : z.Identified) {c : Change}
    (hc : c ∈ (s.plan z.records).changes) {id : String} (haction : c.action = .unchanged id) :
    s.Settled z c := by
  unfold Settled
  rw [haction]
  rcases (mem_changes_iff hkeys hz.nodup).mp hc with ⟨r, hr, rfl⟩ | ⟨l, _, hdel⟩
  · obtain ⟨l, hchoose, _, hsame⟩ := actionFor_eq_unchanged_iff.mp haction
    obtain ⟨hmanaged, hkey⟩ := mem_candidates.mp (mem_of_choose? hchoose)
    exact ⟨r, hr, rfl, l, (s.managed_sublist z.records).subset hmanaged, hkey, hsame⟩
  · rw [(deletion?_eq_some_iff.mp hdel).2] at haction
    exact nomatch haction

/-- An entry of a plan that is settled stays settled. -/
theorem Settled.evolves (hz : z.Identified) (h : s.Evolves z z') (h' : s.Evolves z' z'')
    {c : Change} (hc : c ∈ (s.plan z.records).changes) (hsettled : s.Settled z' c) :
    s.Settled z'' c := by
  unfold Settled at hsettled ⊢
  cases haction : c.action with
  | delete id current =>
    rw [haction] at hsettled
    have hplan : id ∈ changeIds (s.plan z.records).changes :=
      mem_changeIds.mpr ⟨c, hc, by rw [haction]; rfl⟩
    obtain ⟨l, hl, hid, _⟩ := exists_of_mem_changeIds hplan
    have hold : id ∈ liveIds z.records :=
      hid ▸ ZoneSync.mem_liveIds ((s.managed_sublist z.records).subset hl)
    exact h.not_mem_liveIds hz h' hold hsettled
  | create r =>
    rw [haction] at hsettled
    exact Holds.evolves h' hsettled
  | update id r current =>
    rw [haction] at hsettled
    exact Holds.evolves h' hsettled
  | unchanged id =>
    rw [haction] at hsettled
    exact Holds.evolves h' hsettled

/-! ### Answers to allowed entries -/

/-- A new record under a declared key changes none of the old ones. -/
theorem evolves_of_created (hz : z.Identified) {l : LiveRecord} (hid : l.id = Zone.newId z.nextId)
    (hkey : l.key ∈ s.keys) (hr : z'.records = z.records ++ [l]) (hn : z.nextId ≤ z'.nextId) :
    s.Evolves z z' := by
  refine ⟨?_, ?_, ?_, hn⟩
  · intro l₁ hl₁ l' hl' hsame
    rw [hr, List.mem_append, List.mem_singleton] at hl'
    rcases hl' with hl' | rfl
    · rw [eq_of_id_eq hz.nodup hl' hl₁ hsame]
    · -- The new identifier was not given out before.
      exact absurd (hid ▸ hsame ▸ ZoneSync.mem_liveIds hl₁) (hz.fresh z.nextId (le_refl _))
  · intro l₁ hl₁ _
    exact ⟨l₁, by rw [hr]; exact List.mem_append_left _ hl₁, rfl, fun r _ _ hsame => hsame⟩
  · intro l' hl'
    rw [hr, List.mem_append, List.mem_singleton] at hl'
    rcases hl' with hl' | rfl
    · exact .inl (ZoneSync.mem_liveIds hl')
    · exact .inr ⟨hkey, z.nextId, le_refl _, hid⟩

/-- A declared record in the place of one with its key says what is declared. -/
theorem evolves_of_replaced (hkeys : s.keys.Nodup) (hz : z.Identified) {r : Record}
    (hrec : r ∈ s.records) {l₀ : LiveRecord} (hl₀ : l₀ ∈ z.records)
    (hkey₀ : l₀.key = r.keyIn s.domain)
    (hr : z'.records = Zone.replaceAll l₀.id (Zone.stored (r.qualified s.domain)) z.records)
    (hn : z.nextId ≤ z'.nextId) : s.Evolves z z' := by
  have hkey : LiveRecord.key ⟨l₀.id, Zone.stored (r.qualified s.domain)⟩ = r.keyIn s.domain := rfl
  have hone : ∀ l ∈ z.records, l.id = l₀.id → l.key = r.keyIn s.domain := by
    intro l hl hid
    rw [eq_of_id_eq hz.nodup hl hl₀ hid, hkey₀]
  refine ⟨?_, ?_, ?_, hn⟩
  · intro l hl l' hl' hid
    rw [hr, Zone.replaceAll] at hl'
    obtain ⟨l₁, hl₁, rfl⟩ := List.mem_map.mp hl'
    by_cases hid₁ : l₁.id = l₀.id
    · rw [if_pos hid₁] at hid ⊢
      exact hkey.trans (hone l hl hid.symm).symm
    · rw [if_neg hid₁] at hid ⊢
      rw [eq_of_id_eq hz.nodup hl₁ hl hid]
  · intro l hl hlkey
    have hmem : (if l.id = l₀.id then ⟨l₀.id, Zone.stored (r.qualified s.domain)⟩ else l) ∈
        Zone.replaceAll l₀.id (Zone.stored (r.qualified s.domain)) z.records :=
      List.mem_map_of_mem hl
    rw [← hr] at hmem
    by_cases hid : l.id = l₀.id
    · rw [if_pos hid] at hmem
      refine ⟨_, hmem, hid.symm, fun r₁ hr₁ hr₁key _ => ?_⟩
      -- Another declared record of the key would be another one of a key that is declared once.
      have heq : r₁ = r := eq_of_keyIn_eq hkeys hr₁ hrec (hr₁key.trans (hone l hl hid))
      rw [heq]
      exact Zone.sameValue_stored r s.domain
    · rw [if_neg hid] at hmem
      exact ⟨l, hmem, rfl, fun r _ _ hsame => hsame⟩
  · intro l' hl'
    left
    rw [← Zone.liveIds_replaceAll l₀.id (Zone.stored (r.qualified s.domain)), ← hr]
    exact ZoneSync.mem_liveIds hl'

/-- A record of an undeclared key may go. -/
theorem evolves_of_deleted (hz : z.Identified) {id : String}
    (hundeclared : ∀ l ∈ z.records, l.id = id → l.key ∉ s.keys)
    (hr : z'.records = z.records.filter (·.id ≠ id)) (hn : z.nextId ≤ z'.nextId) :
    s.Evolves z z' := by
  refine ⟨?_, ?_, ?_, hn⟩
  · intro l hl l' hl' hid
    rw [hr] at hl'
    rw [eq_of_id_eq hz.nodup (List.mem_of_mem_filter hl') hl hid]
  · intro l hl hlkey
    have hne : l.id ≠ id := fun hid => hundeclared l hl hid hlkey
    exact ⟨l, by rw [hr]; exact List.mem_filter.mpr ⟨hl, by simpa using hne⟩, rfl,
      fun r _ _ hsame => hsame⟩
  · intro l' hl'
    rw [hr] at hl'
    exact .inl (ZoneSync.mem_liveIds (List.mem_of_mem_filter hl'))

/-- An allowed entry keeps what others rely on. -/
theorem evolves_answer (hkeys : s.keys.Nodup) (hz : z.Identified) {c : Change}
    (hc : s.Allows z c) : s.Evolves z ((Zone.provider.answer c).run z).2 := by
  unfold Allows at hc
  cases Zone.answered hz c with
  | kept _ hr hn => exact evolves_of_records_eq hz hr hn
  | created r' haction _ hr hn =>
    rw [haction] at hc
    obtain ⟨r, hrec, _, rfl⟩ := hc
    have hkey : LiveRecord.key ⟨Zone.newId z.nextId, Zone.stored (r.qualified s.domain)⟩ ∈ s.keys :=
      keyIn_mem_keys hrec
    exact evolves_of_created hz rfl hkey hr (by omega)
  | updated id r' current haction _ hr hn =>
    rw [haction] at hc
    obtain ⟨r, hrec, _, rfl, l₀, hl₀, rfl, hkey₀⟩ := hc
    exact evolves_of_replaced hkeys hz hrec hl₀ hkey₀ hr (by omega)
  | deleted id current haction _ hr hn =>
    rw [haction] at hc
    exact evolves_of_deleted hz hc hr (by omega)

/-- An allowed entry that asks for something is settled by asking for it. -/
theorem settled_answer (hz : z.Ready) {c : Change} (hc : s.Allows z c)
    (hm : c.action.isMutation = true) :
    s.Settled ((Zone.provider.answer c).run z).2 c := by
  unfold Allows at hc
  unfold Settled
  cases Zone.answered hz.toIdentified c with
  | kept ho hr _ =>
    -- An allowed entry that is not carried out can only be a deletion that comes too late.
    rcases hz.answer_cases c with ho' | ⟨id, haction⟩ | ⟨id, r, current, haction, hid⟩ |
      ⟨id, current, haction, hid, _⟩
    · exact absurd (ho.symm.trans ho') Bool.false_ne_true
    · rw [haction] at hm
      exact nomatch hm
    · rw [haction] at hc
      obtain ⟨_, _, _, _, l, hl, hlid, _⟩ := hc
      exact absurd (hlid ▸ ZoneSync.mem_liveIds hl) hid
    · rw [haction, hr]
      exact hid
  | created r' haction _ hr _ =>
    rw [haction] at hc ⊢
    obtain ⟨r, hrec, hkey, rfl⟩ := hc
    refine ⟨r, hrec, hkey.symm, ⟨Zone.newId z.nextId, Zone.stored (r.qualified s.domain)⟩, ?_,
      hkey.symm, Zone.sameValue_stored r s.domain⟩
    rw [hr]
    exact List.mem_append_right _ (List.mem_singleton.mpr rfl)
  | updated id r' current haction _ hr _ =>
    rw [haction] at hc ⊢
    obtain ⟨r, hrec, hkey, rfl, l, hl, hlid, _⟩ := hc
    refine ⟨r, hrec, hkey.symm, ⟨id, Zone.stored (r.qualified s.domain)⟩, ?_, hkey.symm,
      Zone.sameValue_stored r s.domain⟩
    rw [hr]
    exact List.mem_map.mpr ⟨l, hl, if_pos hlid⟩
  | deleted id current haction _ hr _ =>
    rw [haction, hr]
    intro hid
    obtain ⟨l, hl, hlid⟩ := List.mem_map.mp hid
    exact absurd hlid (by simpa using (List.mem_filter.mp hl).2)

/-- An allowed entry fails only when it deletes a record that is gone already. -/
theorem failure_answer (hz : z.Ready) {c : Change} (hc : s.Allows z c) {o : Outcome}
    (ho : ((Zone.provider.answer c).run z).1 = some o) (hfail : o.isApplied = false) :
    ∃ id current, c.action = .delete id current ∧ id ∉ liveIds z.records ∧
      o.failure = some (Error.notFound id).message := by
  rcases hz.answer_cases c with ho' | ⟨id, haction⟩ | ⟨id, r, current, haction, hid⟩ |
    ⟨id, current, haction, hid, ho'⟩
  · rw [ho, Option.any_some, hfail] at ho'
    exact nomatch ho'
  · have hnone : ((Zone.provider.answer c).run z).1 = none := by
      unfold Provider.answer
      rw [haction]
      rfl
    exact nomatch ho.symm.trans hnone
  · unfold Allows at hc
    rw [haction] at hc
    obtain ⟨_, _, _, _, l, hl, hlid, _⟩ := hc
    exact absurd (hlid ▸ ZoneSync.mem_liveIds hl) hid
  · refine ⟨id, current, haction, hid, ?_⟩
    rw [Option.some.inj (ho.symm.trans ho')]

end DesiredState

end ZoneSync
