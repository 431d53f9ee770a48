import ZoneSync.Proofs.Document.Loading
import ZoneSync.Proofs.Plan.Entries
import ZoneSync.Proofs.Zone.Identifiers

namespace ZoneSync

/-!
# The plan after a run

A run of a plan leaves a zone for which the next plan is the first one with everything that was
carried out settled: what failed is asked for again, and nothing else.

* `Change.residual`, `residualFrom` — what the next plan has in the place of entries that were asked
  for;
* `substitute` — a plan with something else in the place of one entry;
* `DesiredState.changes_plan_answer` — what one answer makes of the plan;
* `DesiredState.changes_plan_carryOut` — what a whole run makes of it;
* `sync_residual` — the plan after a run of the state of a document.
-/

/-! ### Residuals -/

/-- What a plan has in the place of an entry that was carried out; `n` is the number of the next
    identifier. -/
def Change.residual (c : Change) (n : Nat) : List Change :=
  match c.action with
  | .create _ => [⟨c.key, .unchanged (Zone.newId n)⟩]
  | .update id _ _ => [⟨c.key, .unchanged id⟩]
  | .delete _ _ => []
  | .unchanged _ => [c]

/-- The number of the next identifier after an entry was carried out. -/
def Change.nextId (c : Change) (n : Nat) : Nat :=
  match c.action with
  | .create _ => n + 1
  | _ => n

/-- What is left to do of entries with their outcomes: those that were carried out are settled, and
    the others stay as they are. -/
def residualFrom (n : Nat) : List (Change × Option Outcome) → List Change
  | [] => []
  | (c, o) :: rest =>
    if o.any (·.isApplied) then c.residual n ++ residualFrom (c.nextId n) rest
    else c :: residualFrom n rest

theorem residualFrom_cons_of_applied {n : Nat} {c : Change} {o : Option Outcome}
    {rest : List (Change × Option Outcome)} (h : o.any (·.isApplied) = true) :
    residualFrom n ((c, o) :: rest) = c.residual n ++ residualFrom (c.nextId n) rest := by
  rw [residualFrom, if_pos h]

theorem residualFrom_cons_of_kept {n : Nat} {c : Change} {o : Option Outcome}
    {rest : List (Change × Option Outcome)} (h : o.any (·.isApplied) = false) :
    residualFrom n ((c, o) :: rest) = c :: residualFrom n rest := by
  rw [residualFrom, if_neg (Bool.eq_false_iff.mp h)]

/-- An entry that was carried out is nothing to do any more. -/
theorem isMutation_of_mem_residual {c c' : Change} {n : Nat} (h : c' ∈ c.residual n) :
    c'.action.isMutation = false := by
  unfold Change.residual at h
  split at h
  · rw [List.mem_singleton.mp h]
    rfl
  · rw [List.mem_singleton.mp h]
    rfl
  · exact absurd h List.not_mem_nil
  · rename_i haction
    rw [List.mem_singleton.mp h, haction]
    rfl

/-- Nothing is left to do exactly when no outcome is a failure. -/
theorem forall_mem_residualFrom_iff {cs : List Change} {os : List (Option Outcome)}
    (h : List.Forall₂ Change.HasOutcome cs os) (n : Nat) :
    (∀ c ∈ residualFrom n (cs.zip os), c.action.isMutation = false) ↔
      ∀ o ∈ os, o.all (·.isApplied) = true := by
  induction h generalizing n with
  | nil =>
    constructor
    · exact fun _ _ ho => absurd ho List.not_mem_nil
    · exact fun _ _ hc => absurd hc List.not_mem_nil
  | @cons c o cs os hco _ ih =>
    have hmutation := hco.isSome_eq
    rw [List.zip_cons_cons, List.forall_mem_cons]
    cases hany : o.any (·.isApplied) with
    | true =>
      have hall : o.all (·.isApplied) = true := by
        cases o with
        | none => rfl
        | some o => exact hany
      rw [residualFrom_cons_of_applied hany, List.forall_mem_append, ih (c.nextId n)]
      constructor
      · exact fun hrest => ⟨hall, hrest.2⟩
      · exact fun hrest => ⟨fun c' hc' => isMutation_of_mem_residual hc', hrest.2⟩
    | false =>
      -- An entry that asks for nothing has no outcome, and one with a failure asks for something.
      have hkept : c.action.isMutation = false ↔ o.all (·.isApplied) = true := by
        rw [← hmutation]
        cases o with
        | none => exact ⟨fun _ => rfl, fun _ => rfl⟩
        | some o =>
          rw [Option.any_some] at hany
          rw [Option.all_some, hany]
          exact ⟨nofun, nofun⟩
      rw [residualFrom_cons_of_kept hany, List.forall_mem_cons, ih n, hkept]

/-! ### Substitution -/

/-- Entries with others in the place of one of them. -/
def substitute (c : Change) (ds cs : List Change) : List Change :=
  cs.flatMap fun c' => if c' = c then ds else [c']

theorem substitute_append (c : Change) (ds cs cs' : List Change) :
    substitute c ds (cs ++ cs') = substitute c ds cs ++ substitute c ds cs' :=
  List.flatMap_append

/-- Nothing happens to entries among which the one in question is not. -/
theorem substitute_of_not_mem {c : Change} {ds cs : List Change} (h : c ∉ cs) :
    substitute c ds cs = cs := by
  induction cs with
  | nil => rfl
  | cons c' cs ih =>
    have hne : c' ≠ c := fun heq => h (heq ▸ List.mem_cons_self)
    have hrest : c ∉ cs := fun hmem => h (List.mem_cons_of_mem _ hmem)
    rw [substitute, List.flatMap_cons, if_neg hne, ← substitute, ih hrest]
    rfl

/-- An entry with nothing in its place is taken out. -/
theorem substitute_nil (c : Change) (cs : List Change) :
    substitute c [] cs = cs.filter (· ≠ c) := by
  induction cs with
  | nil => rfl
  | cons c' cs ih =>
    rw [substitute, List.flatMap_cons, ← substitute, ih]
    by_cases heq : c' = c
    · rw [if_pos heq, List.filter_cons_of_neg (by simpa using heq), List.nil_append]
    · rw [if_neg heq, List.filter_cons_of_pos (by simpa using heq), List.singleton_append]

/-- Where an entry stands only once, the others stay in its place before and after. -/
theorem substitute_split {pre post ds : List Change} {c : Change}
    (h : (pre ++ c :: post).Nodup) :
    substitute c ds (pre ++ c :: post) = pre ++ ds ++ post := by
  obtain ⟨_, hpost, hdisjoint⟩ := List.nodup_append.mp h
  have hpre : c ∉ pre := fun hmem => hdisjoint c hmem c List.mem_cons_self rfl
  have hrest : c ∉ post := (List.nodup_cons.mp hpost).1
  rw [substitute_append, substitute_of_not_mem hpre, substitute, List.flatMap_cons, if_pos rfl,
    ← substitute, substitute_of_not_mem hrest, List.append_assoc]

namespace DesiredState

variable {s : DesiredState} {live : List LiveRecord} {r : Record}

/-! ### Plans for zones that differ in one record -/

/-- A plan changes at one entry only, when the entries of all other declared records stay as they
    are, and the deletions too. -/
theorem changes_plan_eq_substitute (hkeys : s.keys.Nodup) {live' : List LiveRecord}
    (hids : (liveIds live).Nodup) (hids' : (liveIds live').Nodup) {c : Change} {ds : List Change}
    (hentries : ∀ r ∈ s.records, [s.entryFor live' r] =
      if s.entryFor live r = c then ds else [s.entryFor live r])
    (hdels : (s.managed live').filterMap (deletion? s.keys) =
      substitute c ds ((s.managed live).filterMap (deletion? s.keys))) :
    (s.plan live').changes = substitute c ds (s.plan live).changes := by
  have hmap : s.records.map (s.entryFor live') =
      substitute c ds (s.records.map (s.entryFor live)) := by
    rw [substitute, List.flatMap_map, ← List.flatMap_singleton' (s.records.map _),
      List.flatMap_map]
    exact List.flatMap_congr hentries
  rw [changes_plan_eq hkeys hids, changes_plan_eq hkeys hids', substitute_append, hmap, hdels]

/-- A new record within the domain comes last. -/
theorem managed_append {l : LiveRecord} (hin : Name.inDomain l.record.name s.domain = true) :
    s.managed (live ++ [l]) = s.managed live ++ [l] := by
  rw [managed, List.filter_append, ← managed, List.filter_singleton, hin, Bool.cond_true]

/-- A new record is a further one of its key, and of no other. -/
theorem candidates_append {l : LiveRecord} (hin : Name.inDomain l.record.name s.domain = true)
    (key : RecordKey) :
    s.candidates (live ++ [l]) key = s.candidates live key ++ if l.key = key then [l] else [] := by
  rw [candidates, managed_append hin, List.filter_append, ← candidates, List.filter_singleton]
  by_cases hkey : l.key = key
  · simp [hkey]
  · simp [hkey]

/-- The entry of a declared record is the one of no other. -/
theorem entryFor_eq_iff (hkeys : s.keys.Nodup) {r r' : Record} (hr : r ∈ s.records)
    (hr' : r' ∈ s.records) : s.entryFor live r' = s.entryFor live r ↔ r' = r := by
  constructor
  · intro h
    exact eq_of_keyIn_eq hkeys hr' hr (congrArg Change.key h)
  · rintro rfl
    rfl

/-- A stored record lies in the domain. -/
theorem inDomain_stored (hdomain : ∃ c ∈ s.domain.toList, c ≠ '.') (r : Record) :
    Name.inDomain (Zone.stored (r.qualified s.domain)).name s.domain = true :=
  Name.inDomain_qualify r.name hdomain

/-- Deletions hold no entry of a declared record. -/
theorem entryFor_not_mem_deletions (r : Record) (live' : List LiveRecord) :
    s.entryFor live r ∉ (s.managed live').filterMap (deletion? s.keys) := by
  intro hmem
  obtain ⟨l, _, hdel⟩ := List.mem_filterMap.mp hmem
  exact actionFor_ne_delete (congrArg Change.action (deletion?_eq_some_iff.mp hdel).2)

/-- A declared record that takes a live one of its own value keeps it. -/
theorem entryFor_of_choose? {l : LiveRecord}
    (h : choose? r (s.candidates live (r.keyIn s.domain)) = some l)
    (hsame : r.sameValue l.record = true) :
    s.entryFor live r = ⟨r.keyIn s.domain, .unchanged l.id⟩ := by
  rw [entryFor, actionFor_eq_unchanged_iff.mpr ⟨l, h, rfl, hsame⟩]

/-- The first record of a key is taken when it has the declared value. -/
theorem choose?_cons_of_sameValue {l : LiveRecord} {found : List LiveRecord}
    (hsame : r.sameValue l.record = true) : choose? r (l :: found) = some l := by
  have hfind : (l :: found).find? (fun l => r.sameValue l.record) = some l :=
    List.find?_cons_of_pos hsame
  rw [choose?, hfind, Option.some_or]

/-- After a declared record without live ones was created, its entry keeps the new one. -/
theorem changes_plan_create (hkeys : s.keys.Nodup) (hids : (liveIds live).Nodup) {l : LiveRecord}
    (hids' : (liveIds (live ++ [l])).Nodup) (hr : r ∈ s.records)
    (hin : Name.inDomain l.record.name s.domain = true) (hkey : l.key = r.keyIn s.domain)
    (hsame : r.sameValue l.record = true) (hnone : s.candidates live (r.keyIn s.domain) = []) :
    (s.plan (live ++ [l])).changes =
      substitute (s.entryFor live r) [⟨r.keyIn s.domain, .unchanged l.id⟩]
        (s.plan live).changes := by
  apply changes_plan_eq_substitute hkeys hids hids'
  · intro r' hr'
    by_cases heq : r' = r
    -- The new record is the only one of its key, and so the one that is taken.
    · rw [heq, if_pos rfl, entryFor_of_choose? ?_ hsame]
      rw [candidates_append hin, if_pos hkey, hnone]
      exact choose?_cons_of_sameValue hsame
    · have hother : ¬ r.keyIn s.domain = r'.keyIn s.domain :=
        fun h => heq (eq_of_keyIn_eq hkeys hr' hr h.symm)
      rw [if_neg (fun h => heq ((entryFor_eq_iff hkeys hr hr').mp h)), entryFor,
        candidates_append hin, hkey, if_neg hother, List.append_nil]
      rfl
  · have hkept := deletion?_of_mem_keys (hkey ▸ keyIn_mem_keys hr)
    rw [substitute_of_not_mem (entryFor_not_mem_deletions r live), managed_append hin,
      List.filterMap_append, List.filterMap_cons_none hkept, List.filterMap_nil, List.append_nil]

/-- A record that is replaced under its key stays where it was among those of the domain. -/
theorem managed_replaceAll {id : String} {v : Record}
    (hkey : ∀ l ∈ live, l.id = id → l.key = LiveRecord.key ⟨id, v⟩) :
    s.managed (Zone.replaceAll id v live) = Zone.replaceAll id v (s.managed live) := by
  rw [managed, Zone.replaceAll, List.filter_map, Zone.replaceAll, managed]
  refine congrArg _ (List.filter_congr fun l hl => ?_)
  by_cases hid : l.id = id
  · rw [Function.comp_apply, if_pos hid, inDomain_of_key_eq (hkey l hl hid)]
  · rw [Function.comp_apply, if_neg hid]

/-- A record that is replaced under its key stays where it was among those of the key. -/
theorem candidates_replaceAll {id : String} {v : Record}
    (hkey : ∀ l ∈ live, l.id = id → l.key = LiveRecord.key ⟨id, v⟩) (key : RecordKey) :
    s.candidates (Zone.replaceAll id v live) key =
      Zone.replaceAll id v (s.candidates live key) := by
  rw [candidates, managed_replaceAll hkey, Zone.replaceAll, List.filter_map, Zone.replaceAll,
    candidates]
  refine congrArg _ (List.filter_congr fun l hl => ?_)
  by_cases hid : l.id = id
  · rw [Function.comp_apply, if_pos hid, hkey l ((s.managed_sublist live).subset hl) hid]
  · rw [Function.comp_apply, if_neg hid]

/-- Deletions stay as they are when a record of a declared key is replaced under this key. -/
theorem deletions_replaceAll {id : String} {v : Record}
    (hkept : ∀ l ∈ live, l.id = id → l.key = LiveRecord.key ⟨id, v⟩)
    (hdeclared : LiveRecord.key ⟨id, v⟩ ∈ s.keys) :
    (s.managed (Zone.replaceAll id v live)).filterMap (deletion? s.keys) =
      (s.managed live).filterMap (deletion? s.keys) := by
  rw [managed_replaceAll hkept, Zone.replaceAll, List.filterMap_map]
  refine List.filterMap_congr fun l hl => ?_
  by_cases hid : l.id = id
  · have hkey := hkept l ((s.managed_sublist live).subset hl) hid
    rw [Function.comp_apply, if_pos hid, deletion?_of_mem_keys hdeclared,
      deletion?_of_mem_keys (hkey ▸ hdeclared)]
  · rw [Function.comp_apply, if_neg hid]

/-- After the record that a declared one takes was replaced, its entry keeps that. -/
theorem changes_plan_update (hkeys : s.keys.Nodup) (hids : (liveIds live).Nodup) {id : String}
    {current v : Record} (hr : r ∈ s.records)
    (hchoose : choose? r (s.candidates live (r.keyIn s.domain)) = some ⟨id, current⟩)
    (hdiff : r.sameValue current = false)
    (hkey : LiveRecord.key ⟨id, v⟩ = r.keyIn s.domain) (hsame : r.sameValue v = true) :
    (s.plan (Zone.replaceAll id v live)).changes =
      substitute (s.entryFor live r) [⟨r.keyIn s.domain, .unchanged id⟩]
        (s.plan live).changes := by
  obtain ⟨hmanaged, hcurrent⟩ := mem_candidates.mp (mem_of_choose? hchoose)
  have hlive := (s.managed_sublist live).subset hmanaged
  have hone : ∀ l ∈ live, l.id = id → l.key = r.keyIn s.domain := by
    intro l hl hid
    rw [eq_of_id_eq hids hl hlive hid, hcurrent]
  have hkept : ∀ l ∈ live, l.id = id → l.key = LiveRecord.key ⟨id, v⟩ :=
    fun l hl hid => (hone l hl hid).trans hkey.symm
  have hids' : (liveIds (Zone.replaceAll id v live)).Nodup := by
    rw [Zone.liveIds_replaceAll]
    exact hids
  apply changes_plan_eq_substitute hkeys hids hids'
  · intro r' hr'
    by_cases heq : r' = r
    · -- None says the same as the declared record, so it took the first one.
      have hhead : (s.candidates live (r.keyIn s.domain)).head? = some ⟨id, current⟩ := by
        rcases choose?_cases hchoose with ⟨hsame', _⟩ | ⟨hhead, _⟩
        · rw [hdiff] at hsame'
          exact nomatch hsame'
        · exact hhead
      obtain ⟨rest, hrest⟩ := List.head?_eq_some_iff.mp hhead
      have hfirst : s.candidates (Zone.replaceAll id v live) (r.keyIn s.domain) =
          ⟨id, v⟩ :: Zone.replaceAll id v rest := by
        rw [candidates_replaceAll hkept, hrest, Zone.replaceAll, List.map_cons, if_pos rfl,
          ← Zone.replaceAll]
      have hchosen : choose? r (s.candidates (Zone.replaceAll id v live) (r.keyIn s.domain)) =
          some ⟨id, v⟩ := by
        rw [hfirst]
        exact choose?_cons_of_sameValue hsame
      rw [heq, if_pos rfl, entryFor_of_choose? hchosen hsame]
    · have hother : id ∉ liveIds (s.candidates live (r'.keyIn s.domain)) := by
        intro hmem
        obtain ⟨l, hl, hid⟩ := List.mem_map.mp hmem
        obtain ⟨hl', hkey'⟩ := mem_candidates.mp hl
        have hsub := (s.managed_sublist live).subset hl'
        exact heq (eq_of_keyIn_eq hkeys hr' hr (hkey'.symm.trans (hone l hsub hid)))
      rw [if_neg (fun h => heq ((entryFor_eq_iff hkeys hr hr').mp h)), entryFor,
        candidates_replaceAll hkept, Zone.replaceAll_of_not_mem hother, ← entryFor]
  · rw [substitute_of_not_mem (entryFor_not_mem_deletions r live),
      deletions_replaceAll hkept (hkey ▸ keyIn_mem_keys hr)]

/-- Without a record among those of the domain. -/
theorem managed_filter (p : LiveRecord → Bool) :
    s.managed (live.filter p) = (s.managed live).filter p := by
  rw [managed, managed, List.filter_comm]

/-- A declared record takes the same live one when a record of an undeclared key is gone. -/
theorem candidates_filter (hids : (liveIds live).Nodup) {l : LiveRecord} (hl : l ∈ live)
    (hundeclared : l.key ∉ s.keys) (hr : r ∈ s.records) :
    s.candidates (live.filter (·.id ≠ l.id)) (r.keyIn s.domain) =
      s.candidates live (r.keyIn s.domain) := by
  rw [candidates, managed_filter, List.filter_comm, ← candidates, List.filter_eq_self]
  intro l' hl'
  obtain ⟨hmanaged, hkey⟩ := mem_candidates.mp hl'
  rw [decide_eq_true_eq]
  intro hid
  rw [eq_of_id_eq hids ((s.managed_sublist live).subset hmanaged) hl hid] at hkey
  exact hundeclared (hkey ▸ keyIn_mem_keys hr)

/-- Without a record its deletion is gone, and no other: a deletion names the record that it is
    for. -/
theorem deletions_filter (hids : (liveIds live).Nodup) {l : LiveRecord} {c : Change}
    (hl : l ∈ live) (hdel : deletion? s.keys l = some c) :
    ((s.managed live).filter (·.id ≠ l.id)).filterMap (deletion? s.keys) =
      ((s.managed live).filterMap (deletion? s.keys)).filter (· ≠ c) := by
  obtain ⟨_, hc⟩ := deletion?_eq_some_iff.mp hdel
  rw [List.filterMap_filter, List.filter_filterMap]
  refine List.filterMap_congr fun l' hl' => ?_
  by_cases hid : l'.id = l.id
  · have heq : l' = l := eq_of_id_eq hids ((s.managed_sublist live).subset hl') hl hid
    rw [heq, hdel, Option.filter_some]
    simp
  · have hne : ∀ c' ∈ deletion? s.keys l', c' ≠ c := by
      rintro c' hc' rfl
      have haction := (deletion?_eq_some_iff.mp hc').2.symm.trans hc
      exact hid (Action.delete.inj (congrArg Change.action haction)).1
    cases hdel' : deletion? s.keys l' with
    | none => simp
    | some c' =>
      have hne' : c' ≠ c := hne c' hdel'
      rw [Option.filter_some]
      simp [hid, hne']

/-- After a record without a declaration was deleted, its entry is gone. -/
theorem changes_plan_delete (hkeys : s.keys.Nodup) (hids : (liveIds live).Nodup) {l : LiveRecord}
    {c : Change} (hl : l ∈ s.managed live) (hdel : deletion? s.keys l = some c) :
    (s.plan (live.filter (·.id ≠ l.id))).changes = substitute c [] (s.plan live).changes := by
  obtain ⟨⟨hundeclared, _⟩, hc⟩ := deletion?_eq_some_iff.mp hdel
  have hlive := (s.managed_sublist live).subset hl
  have hids' : (liveIds (live.filter (·.id ≠ l.id))).Nodup :=
    (liveIds_filter_sublist _ live).nodup hids
  apply changes_plan_eq_substitute hkeys hids hids'
  · intro r hr
    -- The entry that goes is a deletion, and so not that of a declared record.
    have hne : s.entryFor live r ≠ c := by
      intro heq
      rw [hc] at heq
      exact actionFor_ne_delete (congrArg Change.action heq)
    rw [if_neg hne, entryFor, candidates_filter hids hlive hundeclared hr, ← entryFor]
  · rw [managed_filter, substitute_nil, deletions_filter hids hlive hdel]

/-! ### Answers and plans -/

/-- **One answer.** An entry of the plan that is asked for stays where it is when it fails. When it
    is carried out, what is left of it takes its place, and every other entry stays as it is. -/
theorem changes_plan_answer (hkeys : s.keys.Nodup) (hdomain : ∃ c ∈ s.domain.toList, c ≠ '.')
    {z : Zone} (hz : z.Identified) {c : Change} (hc : c ∈ (s.plan z.records).changes) :
    let o := ((Zone.provider.answer c).run z).1
    let z' := ((Zone.provider.answer c).run z).2
    (o.any (·.isApplied) = false ∧ z'.nextId = z.nextId ∧
        (s.plan z'.records).changes = (s.plan z.records).changes) ∨
      (o.any (·.isApplied) = true ∧ z'.nextId = c.nextId z.nextId ∧
        (s.plan z'.records).changes =
          substitute c (c.residual z.nextId) (s.plan z.records).changes) := by
  intro o z'
  have hids' : (liveIds z'.records).Nodup := (hz.answer c).nodup
  cases Zone.answered hz c with
  | kept ho hr hn => exact .inl ⟨ho, hn, by rw [hr]⟩
  | created r haction ho hr hn =>
    refine .inr ⟨ho, ?_, ?_⟩
    · rw [hn, Change.nextId, haction]
    · rcases (mem_changes_iff hkeys hz.nodup).mp hc with ⟨r₀, hr₀, rfl⟩ | ⟨l, _, hdel⟩
      · obtain ⟨hnone, rfl⟩ := actionFor_eq_create_iff.mp haction
        rw [hr] at hids' ⊢
        rw [Change.residual, haction]
        exact changes_plan_create hkeys hz.nodup hids' hr₀ (inDomain_stored hdomain r₀)
          (Zone.key_stored _ r₀ s.domain) (Zone.sameValue_stored r₀ s.domain)
          (choose?_eq_none_iff.mp hnone)
      · rw [(deletion?_eq_some_iff.mp hdel).2] at haction
        exact nomatch haction
  | updated id r current haction ho hr hn =>
    refine .inr ⟨ho, ?_, ?_⟩
    · rw [hn, Change.nextId, haction]
    · rcases (mem_changes_iff hkeys hz.nodup).mp hc with ⟨r₀, hr₀, rfl⟩ | ⟨l, _, hdel⟩
      · obtain ⟨hchoose, hdiff, rfl⟩ := actionFor_eq_update_iff.mp haction
        rw [hr, Change.residual, haction]
        exact changes_plan_update hkeys hz.nodup hr₀ hchoose hdiff
          (Zone.key_stored id r₀ s.domain) (Zone.sameValue_stored r₀ s.domain)
      · rw [(deletion?_eq_some_iff.mp hdel).2] at haction
        exact nomatch haction
  | deleted id current haction ho hr hn =>
    refine .inr ⟨ho, ?_, ?_⟩
    · rw [hn, Change.nextId, haction]
    · rcases (mem_changes_iff hkeys hz.nodup).mp hc with ⟨r₀, _, rfl⟩ | ⟨l, hl, hdel⟩
      · exact absurd haction actionFor_ne_delete
      · have hid : l.id = id := by
          rw [(deletion?_eq_some_iff.mp hdel).2] at haction
          exact (Action.delete.inj haction).1
        rw [hr, Change.residual, haction, ← hid]
        exact changes_plan_delete hkeys hz.nodup hl hdel

/-- **A whole run.** Asking for all entries from some place of the plan on leaves the entries before
    that place as they are, and settles those behind it in order. -/
theorem changes_plan_carryOut (hkeys : s.keys.Nodup) (hdomain : ∃ c ∈ s.domain.toList, c ≠ '.')
    {z : Zone} (hz : z.Identified) {pre cs : List Change}
    (hplan : (s.plan z.records).changes = pre ++ cs) :
    (s.plan (z.carryOut cs).2.records).changes =
      pre ++ residualFrom z.nextId (cs.zip (z.carryOut cs).1) := by
  induction cs generalizing z pre with
  | nil => exact hplan
  | cons c cs ih =>
    have hc : c ∈ (s.plan z.records).changes := by
      rw [hplan]
      exact List.mem_append_right _ List.mem_cons_self
    rw [Zone.carryOut_cons, List.zip_cons_cons]
    rcases changes_plan_answer hkeys hdomain hz hc with ⟨ho, hn, hnext⟩ | ⟨ho, hn, hnext⟩
    -- An entry that failed joins those before the place.
    · have hpre : pre ++ c :: cs = (pre ++ [c]) ++ cs := by
        rw [List.append_assoc, List.singleton_append]
      rw [hplan, hpre] at hnext
      rw [ih (hz.answer c) hnext, residualFrom_cons_of_kept ho, hn, List.append_assoc,
        List.singleton_append]
    -- An entry stands only once, so that what takes its place does so nowhere else.
    · have hnodup : (pre ++ c :: cs).Nodup := hplan ▸ changes_plan_nodup hkeys hz.nodup
      rw [hplan, substitute_split hnodup] at hnext
      rw [ih (hz.answer c) hnext, residualFrom_cons_of_applied ho, hn, List.append_assoc]

end DesiredState

/-! ### Runs -/

/-- **What a run leaves to do.** After a run of the state of a document, the plan for the zone is
    the one that was run, with what is left of the entries that were carried out in their places.
    There is nothing to do exactly when nothing failed, and then the plan keeps one record for every
    declared one. -/
theorem sync_residual {d : Document} {s : DesiredState} (hload : d.load = .ok s) {z : Zone}
    (hz : z.Identified) (hlist : z.listingFails = false) :
    ∃ report z', (Zone.provider.sync s).run z = (.ok (s.plan z.records, report), z') ∧
      (s.plan z.records).ReportedBy report ∧
      (s.plan z'.records).changes =
        residualFrom z.nextId ((s.plan z.records).settled report) ∧
      (report.isSuccess = true ↔ (s.plan z'.records).isConverged = true) ∧
      (report.isSuccess = true →
        (s.plan z'.records).changes.map (·.key) = s.keys ∧
          ∀ c ∈ (s.plan z'.records).changes, ∃ id, c.action = .unchanged id) := by
  have hloaded := Document.loaded_of_load hload
  have hdomain := Document.exists_ne_dot_of_isDomainText hloaded.isDomain
  obtain ⟨calls, hrun⟩ := Zone.run_sync s hlist
  let z₀ : Zone := { z with calls := calls }
  have hz₀ : z₀.Identified := ⟨hz.nodup, hz.fresh⟩
  let run := z₀.carryOut (s.plan z.records).changes
  have hout : List.Forall₂ Change.HasOutcome (s.plan z.records).changes run.1 :=
    z₀.forall₂_carryOut (s.plan z.records).changes
  have hnext : (s.plan run.2.records).changes =
      residualFrom z.nextId ((s.plan z.records).changes.zip run.1) :=
    DesiredState.changes_plan_carryOut hloaded.keys hdomain hz₀ (List.nil_append _).symm
  have hconverged : (ApplyReport.ofAnswers run.1).isSuccess = true ↔
      (s.plan run.2.records).isConverged = true := by
    rw [ApplyReport.isSuccess_ofAnswers, ← forall_mem_residualFrom_iff hout z.nextId, ← hnext,
      Plan.isConverged_iff]
  have hids' : (liveIds run.2.records).Nodup := (hz₀.carryOut _).nodup
  refine ⟨.ofAnswers run.1, run.2, hrun, Plan.reportedBy_ofAnswers hout, ?_, hconverged, ?_⟩
  · rw [hnext, Plan.settled_ofAnswers hout]
  · exact fun hsuccess =>
      DesiredState.changes_of_isConverged hloaded.keys hids' (hconverged.mp hsuccess)

/-- After the run of a document with an address and a text on a zone with some records of each kind,
    its plan is what the failed deletion leaves to do. -/
theorem sync_residual_mixedZone :
    wwwDocument.load = .ok wwwState ∧
      ∃ report z', (Zone.provider.sync wwwState).run mixedZone =
          (.ok (wwwState.plan mixedZone.records, report), z') ∧
        (wwwState.plan z'.records).changes =
          residualFrom mixedZone.nextId ((wwwState.plan mixedZone.records).settled report) := by
  have hload : wwwDocument.load = .ok wwwState := rfl
  obtain ⟨report, z', hrun, _, hnext, _⟩ := sync_residual hload identified_mixedZone rfl
  exact ⟨hload, report, z', hrun, hnext⟩

end ZoneSync
