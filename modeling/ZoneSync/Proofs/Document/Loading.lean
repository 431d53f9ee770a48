import Mathlib.Data.List.Forall2
import Mathlib.Data.List.Nodup
import Mathlib.Data.List.TakeWhile
import ZoneSync.Document.DesiredState

namespace ZoneSync

open Yaml

/-!
# What a document that loads is like

A document loads when no problem is found in it, and then its records can be relied on.

* `Entry.parse_eq_ok_iff` — an entry has a record when none of its parts has a fault;
* `Entry.ParsesTo` — what a record says about the entry that it was read from;
* `Document.entryProblems_eq_nil_iff`, `Document.report_isValid_iff` — there are no problems when
  the domain is one, every entry has a record, and no two of them have one key;
* `Document.Loaded`, `Document.loaded_of_load` — the desired state of a document: its domain, one
  record for each entry, and no two records of one key.
-/

/-! ### Parts of entries -/

namespace Checked

variable {α β : Type}

/-- A part without faults has a value. -/
def Decides (c : Checked α) : Prop := c.faults = [] → c.value.isSome = true

theorem decides_ok (x : α) : (ok x).Decides := fun _ => rfl

theorem decides_fault (f : EntryFault) : (fault f : Checked α).Decides := fun h => nomatch h

theorem decides_ofOption (f : EntryFault) (x : Option α) : (ofOption f x).Decides := by
  cases x with
  | none => exact decides_fault f
  | some x => exact decides_ok x

/-- A value under a condition was a value before, and satisfies the condition. -/
theorem of_value_guard {c : Checked α} {p : α → Bool} {f : α → EntryFault} {x : α}
    (h : (c.guard p f).value = some x) : c.value = some x ∧ p x = true := by
  unfold Checked.guard at h
  split at h
  · rename_i y hy
    split at h
    · rename_i hp
      have hyx : y = x := Option.some.inj (hy.symm.trans h)
      exact ⟨h, hyx ▸ hp⟩
    · exact nomatch h
  · rename_i hnone
    exact absurd (hnone.symm.trans h) (Option.some_ne_none x).symm

theorem Decides.guard {c : Checked α} (hc : c.Decides) (p : α → Bool) (f : α → EntryFault) :
    (c.guard p f).Decides := by
  unfold Checked.guard
  split
  · split
    · exact hc
    · intro h
      rw [List.append_eq_nil_iff] at h
      exact nomatch h.2
  · exact hc

theorem Decides.map {c : Checked α} (hc : c.Decides) (g : α → β) : (c.map g).Decides := by
  intro h
  rw [Checked.map, Option.isSome_map]
  exact hc h

theorem Decides.andAlso {c : Checked α} (hc : c.Decides) (faults : List EntryFault) :
    (c.andAlso faults).Decides := by
  intro h
  exact hc (List.append_eq_nil_iff.mp h).1

end Checked

open Checked

theorem decides_requiredString (field : String) (v : Option Value) :
    (requiredString field v).Decides := by
  unfold requiredString
  split
  · exact decides_fault _
  · exact decides_ok _
  · exact decides_fault _

theorem decides_requiredText (field : String) (v : Option Value) :
    (requiredText field v).Decides := by
  unfold requiredText
  split
  · exact decides_fault _
  · exact decides_ofOption _ _

theorem decides_optionalString (field : String) (v : Option Value) :
    (optionalString field v).Decides := by
  unfold optionalString
  split
  · exact decides_ok _
  · exact decides_ok _
  · exact decides_fault _

theorem decides_checkType (v : Option Value) : (checkType v).Decides :=
  ((decides_requiredString "type" v).guard _ _).map _

theorem decides_checkServiceNumber (field : String) (v : Option Value) :
    (checkServiceNumber field v).Decides := by
  unfold checkServiceNumber
  split
  · exact decides_fault _
  · exact decides_ofOption _ _

theorem decides_checkServiceTarget (v : Option Value) : (checkServiceTarget v).Decides := by
  unfold checkServiceTarget
  split
  · exact decides_fault _
  · exact decides_ofOption _ _

theorem decides_checkPriority (v : Option Value) : (checkPriority v).Decides := by
  unfold checkPriority
  split
  · exact decides_fault _
  · exact decides_ofOption _ _

theorem decides_checkService (e : Entry) : (checkService e).Decides := by
  intro h
  simp only [checkService, List.append_eq_nil_iff] at h
  obtain ⟨⟨⟨hpriority, hweight⟩, hport⟩, htarget⟩ := h
  obtain ⟨priority, hp⟩ := Option.isSome_iff_exists.mp
    (decides_checkServiceNumber "priority" e.priority hpriority)
  obtain ⟨weight, hw⟩ := Option.isSome_iff_exists.mp
    (decides_checkServiceNumber "weight" e.weight hweight)
  obtain ⟨port, hpo⟩ := Option.isSome_iff_exists.mp
    (decides_checkServiceNumber "port" e.port hport)
  obtain ⟨target, ht⟩ := Option.isSome_iff_exists.mp (decides_checkServiceTarget e.target htarget)
  simp only [checkService, hp, hw, hpo, ht]
  rfl

/-- What an entry says is found for every type that may be declared. -/
theorem decides_checkValue {type : RecordType} (h : type.isManaged = true) (e : Entry)
    (name : Option String) : (checkValue type e name).Decides := by
  have hcontent := decides_requiredText "content" e.content
  cases type with
  | a => exact (hcontent.guard _ _).map _
  | aaaa => exact (hcontent.guard _ _).map _
  | cname => exact ((hcontent.andAlso _).guard _ _).map _
  | mx =>
    intro hfaults
    obtain ⟨hpriority, htext⟩ := List.append_eq_nil_iff.mp hfaults
    obtain ⟨priority, hp⟩ := Option.isSome_iff_exists.mp
      (decides_checkPriority e.priority hpriority)
    obtain ⟨text, ht⟩ := Option.isSome_iff_exists.mp (hcontent htext)
    simp only [checkValue, hp, ht]
    rfl
  | txt => exact hcontent.map _
  | srv => exact (decides_checkService e).map _
  | ns => exact hcontent.map _
  | caa => exact nomatch h
  | other name => exact nomatch h

theorem decides_checkProxied (type : Option RecordType) (v : Option Value) :
    (checkProxied type v).Decides := by
  unfold checkProxied
  split
  · exact decides_ok _
  · split
    · exact fun _ => rfl
    · exact decides_ok _
  · exact decides_fault _

theorem decides_checkTtl (v : Option Value) : (checkTtl v).Decides := by
  unfold checkTtl
  split
  · exact decides_ok _
  · exact decides_ok _
  · exact decides_ofOption _ _

/-! ### Entries -/

/-- A value that was required is there as a string. -/
theorem eq_some_string_of_requiredString {field text : String} {v : Option Value}
    (h : (requiredString field v).value = some text) : v = some (.string text) := by
  unfold requiredString at h
  split at h
  · exact nomatch h
  · rw [Option.some.inj h]
  · exact nomatch h

/-- A type that was accepted is the one of its name, and may be declared. -/
theorem exists_of_checkType {v : Option Value} {type : RecordType}
    (h : (checkType v).value = some type) :
    ∃ name, v = some (.string name) ∧ RecordType.ofName name = type ∧ type.isManaged = true := by
  have hmap : ((requiredString "type" v).guard (fun s => (RecordType.ofName s).isManaged)
      .unsupportedType).value.map RecordType.ofName = some type := h
  obtain ⟨name, hname, rfl⟩ := Option.map_eq_some_iff.mp hmap
  obtain ⟨hstring, hmanaged⟩ := of_value_guard hname
  exact ⟨name, eq_some_string_of_requiredString hstring, rfl, hmanaged⟩

namespace Entry

variable {e : Entry} {domain : String} {r : Record}

/-- An entry has a record when none of its parts has a fault and all of them have values. -/
theorem parse_eq_ok_iff :
    e.parse domain = .ok r ↔
      (e.check domain).faults = [] ∧ (e.check domain).record? = some r := by
  unfold parse
  constructor
  · intro h
    dsimp only at h
    split at h
    · rename_i hfaults hrecord
      exact ⟨hfaults, hrecord.trans (congrArg some (Except.ok.inj h))⟩
    · exact nomatch h
  · rintro ⟨hfaults, hrecord⟩
    simp only [hfaults, hrecord]

/-- An entry whose parts have no faults has a record. -/
theorem exists_record_of_faults_eq_nil (h : (e.check domain).faults = []) :
    ∃ r, (e.check domain).record? = some r := by
  simp only [CheckedEntry.faults, List.append_eq_nil_iff] at h
  -- No part has a fault, so that all parts have values.
  obtain ⟨⟨⟨⟨⟨⟨hname, htype⟩, _⟩, hvalue⟩, hproxied⟩, httl⟩, hcomment⟩ := h
  obtain ⟨name, hn⟩ := Option.isSome_iff_exists.mp (decides_requiredString "name" e.name hname)
  obtain ⟨type, ht⟩ := Option.isSome_iff_exists.mp (decides_checkType e.type htype)
  obtain ⟨_, _, _, hmanaged⟩ := exists_of_checkType ht
  have hcheck : (e.check domain).value = checkValue type e (some name) := by
    show (checkType e.type).value.elim _ _ = _
    rw [ht, hn]
    rfl
  obtain ⟨value, hv⟩ := Option.isSome_iff_exists.mp
    (decides_checkValue hmanaged e (some name) (hcheck ▸ hvalue))
  obtain ⟨proxied, hp⟩ := Option.isSome_iff_exists.mp (decides_checkProxied _ e.proxied hproxied)
  obtain ⟨ttl, hl⟩ := Option.isSome_iff_exists.mp (decides_checkTtl e.ttl httl)
  obtain ⟨comment, hc⟩ := Option.isSome_iff_exists.mp
    (decides_optionalString "comment" e.comment hcomment)
  rw [← hcheck] at hv
  refine ⟨⟨name, type, value.1, ttl, proxied, comment, value.2⟩, ?_⟩
  have hn' : (e.check domain).name.value = some name := hn
  have ht' : (e.check domain).type.value = some type := ht
  have hp' : (e.check domain).proxied.value = some proxied := hp
  have hl' : (e.check domain).ttl.value = some ttl := hl
  have hc' : (e.check domain).comment.value = some comment := hc
  simp only [CheckedEntry.record?, hv, hn', ht', hp', hl', hc']
  rfl

/-- An entry without a record has a fault. -/
theorem parse_ne_error_nil : e.parse domain ≠ .error [] := by
  intro h
  by_cases hfaults : (e.check domain).faults = []
  · obtain ⟨r, hr⟩ := exists_record_of_faults_eq_nil hfaults
    rw [parse_eq_ok_iff.mpr ⟨hfaults, hr⟩] at h
    exact nomatch h
  · unfold parse at h
    dsimp only at h
    split at h
    · exact nomatch h
    · exact hfaults (Except.error.inj h)

/-- An entry has no faults when it has a record. -/
theorem faults_eq_nil_iff : e.faults domain = [] ↔ ∃ r, e.parse domain = .ok r := by
  unfold faults
  split
  · rename_i r hr
    exact iff_of_true rfl ⟨r, hr⟩
  · rename_i faults hparse
    refine iff_of_false (fun h => parse_ne_error_nil (h ▸ hparse)) ?_
    rintro ⟨r, hr⟩
    rw [hparse] at hr
    exact nomatch hr

/-- What a record says about the entry that it was read from. -/
structure ParsesTo (e : Entry) (r : Record) : Prop where
  name : e.name = some (.string r.name)
  type : ∃ name, e.type = some (.string name) ∧ RecordType.ofName name = r.type
  managed : r.type.isManaged = true
  value : (checkValue r.type e (some r.name)).value = some (r.value, r.priority)

/-- A record holds what its entry says. -/
theorem parsesTo_of_parse (h : e.parse domain = .ok r) : e.ParsesTo r := by
  have hrecord := (parse_eq_ok_iff.mp h).2
  unfold CheckedEntry.record? at hrecord
  simp only [Option.bind_eq_bind, Option.bind_eq_some_iff, Option.pure_def,
    Option.some.injEq] at hrecord
  obtain ⟨⟨value, priority⟩, hvalue, name, hname, type, htype, ttl, _, proxied, _, comment, _,
    rfl⟩ := hrecord
  have hname' : (requiredString "name" e.name).value = some name := hname
  have htype' : (checkType e.type).value = some type := htype
  obtain ⟨text, htext, hof, hmanaged⟩ := exists_of_checkType htype'
  have hchecked : ((checkType e.type).value.elim ⟨none, []⟩
      (checkValue · e (requiredString "name" e.name).value)).value = some (value, priority) :=
    hvalue
  rw [htype', hname'] at hchecked
  exact ⟨eq_some_string_of_requiredString hname', ⟨text, htext, hof⟩, hmanaged, hchecked⟩

/-- A record that is no service record holds a content of its type. -/
theorem ParsesTo.content (h : e.ParsesTo r) (htype : r.type ≠ .srv) :
    ∃ text, r.value = .content text ∧ (r.type = .aaaa → (Ipv6.parse? text).isSome = true) ∧
      (r.type = .cname → isHostText text = true) := by
  obtain ⟨_, _, hmanaged, hvalue⟩ := h
  -- A flat content is what is left of a checked text, alone or with a preference.
  have hflat : ∀ {c : Checked String}, (c.map fun text => (RecordValue.content text,
      (none : Option UInt16))).value = some (r.value, r.priority) →
      ∃ text, r.value = .content text ∧ c.value = some text := by
    intro c hc
    obtain ⟨text, htext, hpair⟩ := Option.map_eq_some_iff.mp hc
    exact ⟨text, (Prod.mk.inj hpair).1.symm, htext⟩
  cases hr : r.type with
  | a =>
    rw [hr] at hvalue
    obtain ⟨text, htext, _⟩ := hflat hvalue
    exact ⟨text, htext, nofun, nofun⟩
  | aaaa =>
    rw [hr] at hvalue
    obtain ⟨text, htext, hchecked⟩ := hflat hvalue
    exact ⟨text, htext, fun _ => (of_value_guard hchecked).2, nofun⟩
  | cname =>
    rw [hr] at hvalue
    obtain ⟨text, htext, hchecked⟩ := hflat hvalue
    exact ⟨text, htext, nofun, fun _ => (of_value_guard hchecked).2⟩
  | mx =>
    rw [hr] at hvalue
    obtain ⟨text, _, hpriority⟩ := Option.bind_eq_some_iff.mp hvalue
    obtain ⟨priority, _, hpair⟩ := Option.bind_eq_some_iff.mp hpriority
    exact ⟨text, (Prod.mk.inj (Option.some.inj hpair)).1.symm, nofun, nofun⟩
  | txt =>
    rw [hr] at hvalue
    obtain ⟨text, htext, _⟩ := hflat hvalue
    exact ⟨text, htext, nofun, nofun⟩
  | srv => exact absurd hr htype
  | ns =>
    rw [hr] at hvalue
    obtain ⟨text, htext, _⟩ := hflat hvalue
    exact ⟨text, htext, nofun, nofun⟩
  | caa => exact absurd hmanaged (by rw [hr]; exact Bool.false_ne_true)
  | other name => exact absurd hmanaged (by rw [hr]; exact Bool.false_ne_true)

end Entry

/-! ### Keys -/

namespace Document

/-- An entry is recognised as a duplicate by the key of its record. -/
theorem duplicateKey?_of_parsesTo {e : Entry} {r : Record} (h : e.ParsesTo r) (domain : String) :
    duplicateKey? (some domain) e = some (r.keyIn domain).toString := by
  obtain ⟨name, htype, hof⟩ := h.type
  rw [duplicateKey?, h.name, htype]
  show some (RecordKey.ofName (Name.qualify r.name domain) (.ofName name)).toString = _
  rw [hof, Record.keyIn]

/-- What entries are recognised by as duplicates. -/
def entryKeys (domain : Option String) (entries : List (Location × Entry)) : List String :=
  entries.filterMap fun p => duplicateKey? domain p.2

/-- There are no problems when every entry has a record, and none has the key of an earlier one. -/
theorem entryProblems_eq_nil_iff {domain : Option String} {seen : List (String × Location)}
    {entries : List (Location × Entry)} :
    entryProblems domain seen entries = [] ↔
      (∀ p ∈ entries, ∃ r, p.2.parse (domain.getD "") = .ok r) ∧
        (entryKeys domain entries).Nodup ∧
        ∀ key ∈ entryKeys domain entries, key ∉ seen.map (·.1) := by
  -- The keys seen so far grow along the entries, so the induction is for any such list.
  induction entries generalizing seen with
  | nil =>
    exact iff_of_true rfl ⟨fun p hp => absurd hp List.not_mem_nil, List.nodup_nil,
      fun key hkey => absurd hkey List.not_mem_nil⟩
  | cons p rest ih =>
    obtain ⟨location, e⟩ := p
    rw [entryProblems, List.append_eq_nil_iff, List.append_eq_nil_iff, List.map_eq_nil_iff,
      Entry.faults_eq_nil_iff, List.forall_mem_cons]
    cases hkey : duplicateKey? domain e with
    | none =>
      have hcons : entryKeys domain ((location, e) :: rest) = entryKeys domain rest :=
        List.filterMap_cons_none hkey
      rw [hcons]
      dsimp only
      rw [ih]
      exact ⟨fun ⟨⟨he, _⟩, hrest, hkeys⟩ => ⟨⟨he, hrest⟩, hkeys⟩,
        fun ⟨⟨he, hrest⟩, hkeys⟩ => ⟨⟨he, rfl⟩, hrest, hkeys⟩⟩
    | some key =>
      have hcons : entryKeys domain ((location, e) :: rest) = key :: entryKeys domain rest :=
        List.filterMap_cons_some hkey
      rw [hcons, List.nodup_cons, List.forall_mem_cons]
      dsimp only
      cases hfind : seen.find? (·.1 = key) with
      -- A key that was seen before is a problem.
      | some first =>
        have hseen : key ∈ seen.map (·.1) := by
          refine List.mem_map.mpr ⟨first, List.mem_of_find?_eq_some hfind, ?_⟩
          simpa using List.find?_some hfind
        exact iff_of_false (fun h => nomatch h.1.2) fun h => h.2.2.1 hseen
      | none =>
        have hunseen : key ∉ seen.map (·.1) := by
          intro hmem
          obtain ⟨q, hq, hqkey⟩ := List.mem_map.mp hmem
          exact List.find?_eq_none.mp hfind q hq (by simpa using hqkey)
        have hgrow : ∀ k, k ∉ (seen ++ [(key, location)]).map (·.1) ↔
            k ∉ seen.map (·.1) ∧ k ≠ key := by
          intro k
          rw [List.map_append, List.mem_append, not_or]
          exact and_congr_right fun _ => not_congr List.mem_singleton
        dsimp only
        rw [ih]
        constructor
        · rintro ⟨⟨he, _⟩, hrest, hnodup, hnew⟩
          exact ⟨⟨he, hrest⟩, ⟨fun hmem => ((hgrow key).mp (hnew key hmem)).2 rfl, hnodup⟩,
            hunseen, fun k hk => ((hgrow k).mp (hnew k hk)).1⟩
        · rintro ⟨⟨he, hrest⟩, ⟨hfresh, hnodup⟩, _, hnew⟩
          exact ⟨⟨he, rfl⟩, hrest, hnodup,
            fun k hk => (hgrow k).mpr ⟨hnew k hk, fun h => hfresh (h ▸ hk)⟩⟩

/-! ### Domains -/

/-- A domain ends in letters, so it is more than dots. -/
theorem exists_ne_dot_of_isDomainText {domain : String} (h : isDomainText domain = true) :
    ∃ c ∈ domain.toList, c ≠ '.' := by
  unfold isDomainText at h
  dsimp only at h
  rw [Bool.and_eq_true, decide_eq_true_eq] at h
  have hpos : 0 < (domain.toList.reverse.takeWhile isLetter).length := by omega
  obtain ⟨c, hc⟩ := List.exists_mem_of_length_pos hpos
  have hletter := List.mem_takeWhile_imp hc
  refine ⟨c, List.mem_reverse.mp ((List.takeWhile_prefix _).subset hc), ?_⟩
  rintro rfl
  exact absurd hletter (by decide)

/-! ### Desired states -/

/-- The declared records of entries without problems are those of the entries, in order. -/
theorem forall₂_of_declare {domain : String} {entries : List (Location × Entry)}
    {declared : List DeclaredRecord} (h : declare domain entries = (declared, [])) :
    List.Forall₂ (fun p d => d.location = p.1 ∧ p.2.parse domain = .ok d.record)
      entries declared := by
  induction entries generalizing declared with
  | nil =>
    rw [declare] at h
    rw [← (Prod.mk.inj h).1]
    exact .nil
  | cons p rest ih =>
    obtain ⟨location, e⟩ := p
    rw [declare] at h
    cases hrest : declare domain rest with
    | mk restDeclared problems =>
      simp only [hrest] at h
      cases hparse : e.parse domain with
      | ok r =>
        simp only [hparse] at h
        obtain ⟨rfl, rfl⟩ := Prod.mk.inj h
        exact .cons ⟨rfl, hparse⟩ (ih hrest)
      | error faults =>
        simp only [hparse] at h
        have hnil := (List.append_eq_nil_iff.mp (Prod.mk.inj h).2).1
        rw [List.map_eq_nil_iff] at hnil
        exact absurd (hnil ▸ hparse) Entry.parse_ne_error_nil

/-- What is known about the desired state of a document. -/
structure Loaded (d : Document) (s : DesiredState) : Prop where
  domain : d.domain = some (.string s.domain)
  isDomain : isDomainText s.domain = true
  /-- The declared records are those of the entries, in order. -/
  entries : List.Forall₂ (fun p r => r.location = p.1 ∧ p.2.parse s.domain = .ok r.record)
    d.entries s.declared
  keys : s.keys.Nodup

/-- A declared record was read from the entry at its place. -/
theorem Loaded.exists_entry {d : Document} {s : DesiredState} (h : d.Loaded s)
    {r : DeclaredRecord} (hr : r ∈ s.declared) :
    ∃ p ∈ d.entries, r.location = p.1 ∧ p.2.parse s.domain = .ok r.record := by
  obtain ⟨i, hi, rfl⟩ := List.mem_iff_getElem.mp hr
  have hlen := h.entries.length_eq
  exact ⟨_, List.getElem_mem (hlen ▸ hi), h.entries.get (hlen ▸ hi) hi⟩

theorem Loaded.exists_parsesTo {d : Document} {s : DesiredState} (h : d.Loaded s) {r : Record}
    (hr : r ∈ s.records) : ∃ e : Entry, e.ParsesTo r := by
  obtain ⟨declared, hdeclared, rfl⟩ := List.mem_map.mp hr
  obtain ⟨p, _, _, hparse⟩ := h.exists_entry hdeclared
  exact ⟨p.2, Entry.parsesTo_of_parse hparse⟩

/-- The keys of declared records are what their entries were recognised by. -/
theorem map_toString_keys {domain : String} {entries : List (Location × Entry)}
    {declared : List DeclaredRecord}
    (h : List.Forall₂ (fun p r => r.location = p.1 ∧ p.2.parse domain = .ok r.record)
      entries declared) :
    (DesiredState.mk domain declared).keys.map RecordKey.toString =
      entryKeys (some domain) entries := by
  induction h with
  | nil => rfl
  | @cons p r rest declared hpr _ ih =>
    have hkey := duplicateKey?_of_parsesTo (Entry.parsesTo_of_parse hpr.2) domain
    have hcons : entryKeys (some domain) (p :: rest) =
        (r.record.keyIn domain).toString :: entryKeys (some domain) rest :=
      List.filterMap_cons_some hkey
    rw [hcons, ← ih]
    rfl

/-- A domain is valid when it is a string with the form of one. -/
theorem validDomain?_eq_some_iff {d : Document} {domain : String} :
    d.validDomain? = some domain ↔
      d.domain = some (.string domain) ∧ isDomainText domain = true := by
  unfold validDomain?
  constructor
  · intro h
    split at h
    · rename_i text htext
      split at h
      · rename_i hform
        rw [← Option.some.inj h]
        exact ⟨htext, hform⟩
      · exact nomatch h
    · exact nomatch h
  · rintro ⟨hdomain, hform⟩
    rw [hdomain]
    exact if_pos hform

/-- A valid domain is the one that the entries are declared in. -/
theorem domainText?_eq_of_validDomain? {d : Document} {domain : String}
    (h : d.validDomain? = some domain) : d.domainText? = some domain := by
  rw [domainText?, (validDomain?_eq_some_iff.mp h).1]
  rfl

theorem domainProblems_eq_nil_iff {d : Document} :
    d.domainProblems = [] ↔ ∃ domain, d.validDomain? = some domain := by
  rw [← Option.isSome_iff_exists]
  unfold domainProblems
  split
  · rename_i hnone
    refine iff_of_false (List.cons_ne_nil _ _) fun hsome => ?_
    obtain ⟨domain, hdomain⟩ := Option.isSome_iff_exists.mp hsome
    rw [(validDomain?_eq_some_iff.mp hdomain).1] at hnone
    exact nomatch hnone
  · rw [ite_eq_left_iff]
    refine ⟨fun h => ?_, fun hsome hnot => absurd hsome hnot⟩
    by_contra hnot
    exact absurd (h hnot) (List.cons_ne_nil _ _)

/-- A document has no problems when it has a domain, every entry has a record, and all keys are
    different. -/
theorem report_isValid_iff {d : Document} :
    d.report.isValid = true ↔
      ∃ domain, d.validDomain? = some domain ∧
        (∀ p ∈ d.entries, ∃ r, p.2.parse domain = .ok r) ∧
        (entryKeys (some domain) d.entries).Nodup := by
  rw [report, Report.isValid, List.isEmpty_iff, List.append_eq_nil_iff, domainProblems_eq_nil_iff]
  constructor
  · rintro ⟨⟨domain, hdomain⟩, hentries⟩
    rw [hdomain] at hentries
    obtain ⟨hparse, hnodup, _⟩ := entryProblems_eq_nil_iff.mp hentries
    exact ⟨domain, hdomain, hparse, hnodup⟩
  · rintro ⟨domain, hdomain, hparse, hnodup⟩
    refine ⟨⟨domain, hdomain⟩, ?_⟩
    rw [hdomain]
    exact entryProblems_eq_nil_iff.mpr ⟨hparse, hnodup, fun _ _ => List.not_mem_nil⟩

/-- A document that loads was free of problems, and its records are what its entries say. -/
theorem loaded_of_load {d : Document} {s : DesiredState} (h : d.load = .ok s) : d.Loaded s := by
  unfold load at h
  dsimp only at h
  by_cases hvalid : d.report.isValid = true
  · rw [if_pos hvalid] at h
    obtain ⟨domain, hdomain, _, hnodup⟩ := report_isValid_iff.mp hvalid
    obtain ⟨htext, hform⟩ := validDomain?_eq_some_iff.mp hdomain
    rw [domainText?_eq_of_validDomain? hdomain, Option.getD_some] at h
    cases hdeclare : declare domain d.entries with
    | mk declared problems =>
      rw [hdeclare] at h
      cases problems with
      | cons problem rest => exact nomatch h
      | nil =>
        have hrecords := forall₂_of_declare hdeclare
        rw [← Except.ok.inj h]
        refine ⟨htext, hform, hrecords, List.Nodup.of_map RecordKey.toString ?_⟩
        -- Duplicates are found by the texts of keys, and keys with different texts are different.
        rw [map_toString_keys hrecords]
        exact hnodup
  · rw [if_neg hvalid] at h
    exact nomatch h

end Document

/-- A document with an address and a text. -/
def wwwDocument : Document where
  domain := some (.string "example.com")
  frontend := [{ name := some (.string "www"), type := some (.string "A"),
                 content := some (.string "192.0.2.9") }]
  backend := [{ name := some (.string "@"), type := some (.string "TXT"),
                content := some (.string "hello") }]

/-- The desired state of this document. -/
def wwwState : DesiredState where
  domain := "example.com"
  declared := [
    ⟨⟨.frontend, 0⟩, { name := "www", type := .a, value := .content "192.0.2.9" }⟩,
    ⟨⟨.backend, 0⟩, { name := "@", type := .txt, value := .content "hello" }⟩]

example : wwwDocument.load = .ok wwwState := rfl

end ZoneSync
