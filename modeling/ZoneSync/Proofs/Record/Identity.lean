import Mathlib.Data.List.Nodup
import ZoneSync.Proofs.Text.Ends
import ZoneSync.Record.Comparison
import ZoneSync.Record.Key
import ZoneSync.Zone

namespace ZoneSync

open Text

/-!
# What makes records the same

A live record is found by its identifier, a declared one finds it by its key, and leaves it alone
when the values are the same. None of the three is lost when a declared record is stored.

* `liveIds`, `eq_of_id_eq` — identifiers that are not shared say which record is meant;
* `Name.inDomain_qualify`, `inDomain_of_key_eq` — full names lie in their domain, and whether a
  record does depends on its key only;
* `Record.sameValue_refl`, `sameValue_stored` — a record says the same as itself, also when it is
  stored under its full name.
-/

/-! ### Identifiers -/

/-- The identifiers of live records. -/
def liveIds (records : List LiveRecord) : List String := records.map (·.id)

/-- An identifier that is not shared says which record is meant. -/
theorem eq_of_id_eq {records : List LiveRecord} (h : (liveIds records).Nodup) {l l' : LiveRecord}
    (hl : l ∈ records) (hl' : l' ∈ records) (hid : l.id = l'.id) : l = l' :=
  List.inj_on_of_nodup_map h hl hl' hid

theorem mem_liveIds {records : List LiveRecord} {l : LiveRecord} (h : l ∈ records) :
    l.id ∈ liveIds records :=
  List.mem_map_of_mem h

theorem liveIds_filter_sublist (p : LiveRecord → Bool) (records : List LiveRecord) :
    (liveIds (records.filter p)).Sublist (liveIds records) :=
  List.Sublist.map _ List.filter_sublist

/-! ### Names and keys -/

namespace Name

/-- A domain with anything but dots in it keeps its place at the end of a full name. -/
theorem normalizeChars_append {xs ys : List Char} (h : ∃ c ∈ ys, c ≠ '.') :
    normalizeChars (xs ++ ys) = xs.map Char.toLower ++ normalizeChars ys := by
  obtain ⟨c, hc, hne⟩ := h
  rw [normalizeChars, normalizeChars,
    stripEnd_append_of_exists ⟨c, hc, decide_eq_false hne⟩, List.map_append]

/-- A full name lies in the domain that it was made with. -/
theorem inDomain_qualify (name : String) {domain : String} (h : ∃ c ∈ domain.toList, c ≠ '.') :
    inDomain (qualify name domain) domain = true := by
  rw [inDomain, Bool.or_eq_true, decide_eq_true_eq]
  by_cases hapex : name = apex
  · left
    rw [hapex, qualify_apex]
  · right
    -- The dots at the end are those of the domain, as not all of it is dots.
    obtain ⟨c, hc, hne⟩ := h
    have hchars : (qualify name domain).toList = name.toList ++ '.' :: domain.toList := by
      rw [qualify, if_neg hapex]
      simp
    have hsplit : normalizeChars ('.' :: domain.toList) = '.' :: normalizeChars domain.toList := by
      rw [show '.' :: domain.toList = ['.'] ++ domain.toList from rfl,
        normalizeChars_append ⟨c, hc, hne⟩]
      rfl
    rw [hchars, normalizeChars_append ⟨c, List.mem_cons_of_mem _ hc, hne⟩, hsplit,
      List.isSuffixOf_iff_suffix]
    exact List.suffix_append _ _

/-- Whether a name lies in a domain depends on its normal form only. -/
theorem inDomain_congr {x y : String} (h : normalize x = normalize y) (domain : String) :
    inDomain x domain = inDomain y domain := by
  have hchars : normalizeChars x.toList = normalizeChars y.toList := by
    rw [← toList_normalize, h, toList_normalize]
  rw [inDomain, inDomain, hchars]

end Name

/-- Live records of one key lie in the domain together. -/
theorem inDomain_of_key_eq {l l' : LiveRecord} (h : l.key = l'.key) (domain : String) :
    Name.inDomain l.record.name domain = Name.inDomain l'.record.name domain :=
  Name.inDomain_congr (congrArg RecordKey.name h) domain

/-! ### Values -/

theorem RecordType.sameContent_refl (type : RecordType) (text : String) :
    type.sameContent text text = true := by
  unfold sameContent
  split
  · exact decide_eq_true rfl
  · cases Ipv6.parse? text <;> exact decide_eq_true rfl
  all_goals exact decide_eq_true rfl

/-- A record says the same as itself. -/
theorem Record.sameValue_refl (r : Record) : r.sameValue r = true := by
  unfold sameValue
  cases r.value with
  | content text => simp [RecordType.sameContent_refl]
  | service data => simp [Service.same]

/-- A flat content is compared by its type, and the preference of a mail record with it. -/
theorem Record.sameValue_iff_of_content {x y : Record} {text : String}
    (h : x.value = .content text) :
    x.sameValue y = true ↔ x.effectiveProxied = y.effectiveProxied ∧
      ∃ text', y.value = .content text' ∧ x.type.sameContent text text' = true ∧
        (x.type = .mx → x.priority = y.priority) := by
  unfold sameValue
  rw [h, Bool.and_eq_true, decide_eq_true_eq]
  refine and_congr_right fun _ => ?_
  cases hy : y.value with
  | service data =>
    constructor
    · exact fun hsame => nomatch hsame
    · rintro ⟨_, hcontent, _⟩
      exact nomatch hcontent
  | content text' =>
    simp only [Bool.and_eq_true, Bool.or_eq_true, decide_eq_true_eq, RecordValue.content.injEq]
    constructor
    · rintro ⟨hsame, hpriority⟩
      exact ⟨text', rfl, hsame, fun hmx => hpriority.resolve_left fun hne => hne hmx⟩
    · rintro ⟨_, rfl, hsame, hpriority⟩
      exact ⟨hsame, (Decidable.em (x.type = .mx)).symm.imp id hpriority⟩

/-- Only the value, the type, the preference and the proxy setting matter. -/
theorem Record.sameValue_congr (r : Record) {x y : Record} (hvalue : x.value = y.value)
    (hpriority : x.priority = y.priority) (hproxied : x.effectiveProxied = y.effectiveProxied) :
    r.sameValue x = r.sameValue y := by
  unfold sameValue
  rw [hvalue, hpriority, hproxied]

/-- Records of one value say the same when the proxy is applied alike and, for mail, the preference
    is the same. -/
theorem Record.sameValue_of_value_eq {x y : Record} (hvalue : x.value = y.value)
    (hproxied : x.effectiveProxied = y.effectiveProxied)
    (hpriority : x.type = .mx → x.priority = y.priority) : x.sameValue y = true := by
  cases hx : x.value with
  | content text =>
    exact (sameValue_iff_of_content hx).mpr
      ⟨hproxied, text, hvalue ▸ hx, RecordType.sameContent_refl _ _, hpriority⟩
  | service data => simp [sameValue, ← hvalue, hx, hproxied, Service.same]

namespace Zone

@[simp] theorem effectiveProxied_stored (r : Record) :
    (stored r).effectiveProxied = r.effectiveProxied := by
  unfold stored Record.effectiveProxied
  cases r.type.isProxiable <;> simp

/-- A declared record finds its own value where it was stored. -/
@[simp] theorem sameValue_stored (r : Record) (domain : String) :
    r.sameValue (stored (r.qualified domain)) = true := by
  have hsame : r.sameValue (stored (r.qualified domain)) = r.sameValue r :=
    r.sameValue_congr rfl rfl (effectiveProxied_stored _)
  rw [hsame, r.sameValue_refl]

/-- A declared record finds its own key where it was stored. -/
@[simp] theorem key_stored (id : String) (r : Record) (domain : String) :
    (⟨id, stored (r.qualified domain)⟩ : LiveRecord).key = r.keyIn domain := rfl

end Zone

end ZoneSync
