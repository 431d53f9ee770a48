import ZoneSync.Proofs.Plan.Entries

namespace ZoneSync

/-!
# What a plan deletes

Three passes decide it: live records outside of the domain are passed over, those of a declared key
are kept, and so are those of the types that are preserved. What is left has to go.

* `DesiredState.IsStale` — the live records that have to go;
* `DesiredState.deletions_managed` — the three passes find exactly these;
* `DesiredState.deletions_plan` — a plan deletes exactly these, each once and in their order, behind
  its entries for the declared records.
-/

/-- Whether an action deletes a record. -/
def Action.isDeletion : Action → Bool
  | delete _ _ => true
  | _ => false

namespace LiveRecord

/-- The entry that deletes a live record. -/
def deletion (l : LiveRecord) : Change := ⟨l.key, .delete l.id l.record⟩

@[simp] theorem isDeletion_deletion (l : LiveRecord) : l.deletion.action.isDeletion = true := rfl

/-- An entry says which record it deletes. -/
theorem deletion_injective : Function.Injective deletion := by
  intro l l' h
  obtain ⟨hid, hrecord⟩ := Action.delete.inj (congrArg Change.action h)
  show (⟨l.id, l.record⟩ : LiveRecord) = ⟨l'.id, l'.record⟩
  rw [hid, hrecord]

end LiveRecord

namespace DesiredState

variable {s : DesiredState} {l : LiveRecord}

/-- A live record has to go when it lies in the domain, no declared record has its key, and it is no
    mail, text or authority record. -/
structure IsStale (s : DesiredState) (l : LiveRecord) : Prop where
  inDomain : Name.inDomain l.record.name s.domain = true
  undeclared : ∀ r ∈ s.records, r.keyIn s.domain ≠ l.key
  unpreserved : l.record.type ∉ [RecordType.mx, .txt, .caa]

/-! ### The three passes -/

theorem isPreserved_eq_false_iff {type : RecordType} :
    type.isPreserved = false ↔ type ∉ [RecordType.mx, .txt, .caa] := by
  cases type <;> simp [RecordType.isPreserved]

/-- The passes look at the domain, the declared keys and the type in turn. -/
theorem isStale_iff :
    s.IsStale l ↔ Name.inDomain l.record.name s.domain = true ∧ l.key ∉ s.keys ∧
      l.record.type.isPreserved = false := by
  have hkeys : l.key ∉ s.keys ↔ ∀ r ∈ s.records, r.keyIn s.domain ≠ l.key := by
    rw [keys, List.mem_map]
    exact ⟨fun h r hr hkey => h ⟨r, hr, hkey⟩, fun h ⟨r, hr, hkey⟩ => h r hr hkey⟩
  rw [hkeys, isPreserved_eq_false_iff]
  exact ⟨fun h => ⟨h.inDomain, h.undeclared, h.unpreserved⟩, fun h => ⟨h.1, h.2.1, h.2.2⟩⟩

instance (s : DesiredState) : DecidablePred s.IsStale := fun _ =>
  decidable_of_iff _ isStale_iff.symm

/-- Within the domain, a record is deleted when it is stale. -/
theorem deletion?_eq_ite (h : Name.inDomain l.record.name s.domain = true) :
    deletion? s.keys l = if s.IsStale l then some l.deletion else none := by
  by_cases hstale : s.IsStale l
  · rw [if_pos hstale]
    exact deletion?_eq_some_iff.mpr ⟨(isStale_iff.mp hstale).2, rfl⟩
  · rw [if_neg hstale, Option.eq_none_iff_forall_ne_some]
    intro c hc
    exact hstale (isStale_iff.mpr ⟨h, (deletion?_eq_some_iff.mp hc).1⟩)

/-- The passes leave the stale records, in their order. -/
theorem deletions_managed (s : DesiredState) (live : List LiveRecord) :
    (s.managed live).filterMap (deletion? s.keys) =
      (live.filter fun l => s.IsStale l).map LiveRecord.deletion := by
  induction live with
  | nil => rfl
  | cons l rest ih =>
    rw [managed] at ih ⊢
    rw [List.filter_cons, List.filter_cons]
    by_cases hdomain : Name.inDomain l.record.name s.domain = true
    · rw [if_pos hdomain, List.filterMap_cons, deletion?_eq_ite hdomain, ih]
      by_cases hstale : s.IsStale l
      · rw [if_pos hstale, if_pos (decide_eq_true hstale), List.map_cons]
      · rw [if_neg hstale, if_neg (by simpa using hstale)]
    · have hnot : ¬ s.IsStale l := fun hstale => hdomain hstale.inDomain
      rw [if_neg hdomain, if_neg (by simpa using hnot), ih]

/-! ### Entries for declared records -/

variable (domain : String) (managed : List LiveRecord) (taken : List String) (rs : List Record)

/-- There is one entry for each declared record, in order. -/
theorem map_key_declaredChanges :
    (declaredChanges domain managed taken rs).map (·.key) = rs.map (·.keyIn domain) := by
  induction rs generalizing taken with
  | nil => rfl
  | cons r rest ih => rw [declaredChanges, List.map_cons, List.map_cons, ih]

/-- No entry for a declared record deletes anything. -/
theorem isDeletion_of_mem_declaredChanges :
    ∀ c ∈ declaredChanges domain managed taken rs, c.action.isDeletion = false := by
  induction rs generalizing taken with
  | nil => exact fun c hc => absurd hc List.not_mem_nil
  | cons r rest ih =>
    rw [declaredChanges]
    refine List.forall_mem_cons.mpr ⟨?_, ih _⟩
    generalize choose? r _ = chosen
    cases h : actionFor domain r chosen with
    | delete id current => exact absurd h actionFor_ne_delete
    | _ => rfl

/-! ### Plans -/

/-- A plan is the entries for the declared records, and then the deletions of the stale ones. -/
theorem changes_plan_append (s : DesiredState) (live : List LiveRecord) :
    (s.plan live).changes =
      declaredChanges s.domain (s.managed live) [] s.records ++
        (live.filter fun l => s.IsStale l).map LiveRecord.deletion :=
  congrArg (_ ++ ·) (deletions_managed s live)

/-- **What a plan deletes.** For any declared records and any live ones, a plan has one entry for
    each declared record, none of which deletes anything, and behind them the deletions of the stale
    live records, one for each, in the order of the live ones. So a live record is up for deletion
    exactly when it is stale. -/
theorem deletions_plan (s : DesiredState) (live : List LiveRecord) :
    (∃ declared : List Change,
      (s.plan live).changes =
        declared ++ (live.filter fun l => s.IsStale l).map LiveRecord.deletion ∧
      declared.map (·.key) = s.records.map (·.keyIn s.domain) ∧
      ∀ c ∈ declared, c.action.isDeletion = false) ∧
      (s.plan live).changes.filter (·.action.isDeletion) =
        (live.filter fun l => s.IsStale l).map LiveRecord.deletion ∧
      ∀ l : LiveRecord, l.deletion ∈ (s.plan live).changes ↔ l ∈ live ∧ s.IsStale l := by
  have hplan := s.changes_plan_append live
  have hkept := isDeletion_of_mem_declaredChanges s.domain (s.managed live) [] s.records
  refine ⟨⟨_, hplan, map_key_declaredChanges .., hkept⟩, ?_, fun l => ?_⟩
  · rw [hplan, List.filter_append, List.filter_eq_nil_iff.mpr, List.nil_append,
      List.filter_eq_self.mpr]
    · intro c hc
      obtain ⟨l, _, rfl⟩ := List.mem_map.mp hc
      exact l.isDeletion_deletion
    · intro c hc
      rw [hkept c hc]
      exact Bool.false_ne_true
  · rw [hplan, List.mem_append, List.mem_map_of_injective LiveRecord.deletion_injective,
      List.mem_filter, decide_eq_true_eq]
    refine or_iff_right fun hmem => ?_
    exact Bool.false_ne_true ((hkept _ hmem).symm.trans l.isDeletion_deletion)

end DesiredState

end ZoneSync
