import ZoneSync.Proofs.Document.Description
import ZoneSync.Proofs.Record.Identity

namespace ZoneSync

open Text Yaml

/-!
# Which documents load

A document is acceptable when it names a domain, each of its entries has a record, and no two of
the records are one resource. These documents load, with everything that they declare, and no
others do.

* `Document.IsAcceptable` — the documents that load, said by their parts;
* `Document.places`, `Document.entryAt?`, `Document.Holds` — where entries stand, and what the
  desired state of a document holds;
* `RecordKey.toString_inj` — keys of declared records are told apart by their texts;
* `Record.keyIn_eq_iff` — what one key in a domain means;
* `Document.load_exact` — the documents that load, what they load as, and the report on the others.
-/

namespace Document

variable {d : Document} {s : DesiredState} {domain : String}

/-! ### Documents that load -/

/-- A document names a domain, all its entries have records there, and no two records have one type
    and one full name, whatever the case of its letters. -/
structure IsAcceptable (d : Document) (domain : String) : Prop where
  named : d.domain = some (.string domain)
  form : domain.toList ∈ Pattern.domain
  entries : ∀ p ∈ d.entries, ∃ r, p.2.parse domain = .ok r
  distinct : d.entries.Pairwise fun p q =>
    ∀ r, p.2.parse domain = .ok r → ∀ r', q.2.parse domain = .ok r' →
      ¬ (r.type = r'.type ∧
        lowerAscii (Name.qualify r.name domain) = lowerAscii (Name.qualify r'.name domain))

/-- The places in a section of so many entries. -/
def placesIn (part : Section) (entries : List Entry) : List Location :=
  (List.range entries.length).map (Location.mk part)

/-- The places of a document: those of its sections, in order. -/
def places (d : Document) : List Location :=
  placesIn .frontend d.frontend ++ placesIn .backend d.backend ++
    placesIn .bootstrap d.bootstrap ++ placesIn .srv d.srv

/-- The entry at a place. -/
def entryAt? (d : Document) (l : Location) : Option Entry := (d.entriesOf l.part)[l.index]?

/-- A desired state holds what a document declares: its domain, at every place the record of the
    entry there, and no two records of one key. -/
structure Holds (d : Document) (s : DesiredState) : Prop where
  domain : d.domain = some (.string s.domain)
  places : s.declared.map (·.location) = d.places
  records : ∀ r ∈ s.declared,
    ∃ e, d.entryAt? r.location = some e ∧ e.parse s.domain = .ok r.record
  keys : s.keys.Nodup

/-! ### Places -/

theorem map_fst_locatedIn (d : Document) (part : Section) :
    (d.locatedIn part).map (·.1) = placesIn part (d.entriesOf part) := by
  rw [locatedIn, List.map_map, placesIn, List.range_eq_range', ← List.zipIdx_map_snd 0,
    List.map_map]
  rfl

/-- The entries stand at the places of the document. -/
theorem map_fst_entries (d : Document) : d.entries.map (·.1) = d.places := by
  rw [entries, List.map_flatMap]
  simp only [Section.all, List.flatMap_cons, List.flatMap_nil, map_fst_locatedIn, entriesOf,
    List.append_nil, places, List.append_assoc]

/-- An entry is found again at its place. -/
theorem entryAt?_of_mem_entries {p : Location × Entry} (h : p ∈ d.entries) :
    d.entryAt? p.1 = some p.2 := by
  obtain ⟨part, _, hpart⟩ := List.mem_flatMap.mp h
  obtain ⟨⟨e, index⟩, hindex, rfl⟩ := List.mem_map.mp hpart
  exact List.mem_zipIdx_iff_getElem?.mp hindex

end Document

/-! ### Keys -/

/-- A type that may be declared has no colon in its name. -/
theorem colon_not_mem_name {type : RecordType} (h : type.isManaged = true) :
    ':' ∉ type.name.toList := by
  cases type with
  | caa => exact nomatch h
  | other name => exact nomatch h
  | _ => decide

/-- What stands before and after the last separator is determined by the whole. -/
theorem append_cons_inj {sep : Char} {xs xs' ys ys' : List Char}
    (h : xs ++ sep :: ys = xs' ++ sep :: ys') (hys : sep ∉ ys) (hys' : sep ∉ ys') :
    xs = xs' ∧ ys = ys' := by
  -- The end of the text up to its last separator is what is behind it.
  have hlast : ∀ {xs ys : List Char}, sep ∉ ys →
      (xs ++ sep :: ys).reverse.takeWhile (· ≠ sep) = ys.reverse := by
    intro xs ys hys
    rw [List.reverse_append, List.reverse_cons, List.append_assoc,
      List.takeWhile_append_of_pos, List.singleton_append, List.takeWhile_cons_of_neg (by simp),
      List.append_nil]
    intro c hc
    exact decide_eq_true fun hsep => hys (hsep ▸ List.mem_reverse.mp hc)
  have hreverse : ys.reverse = ys'.reverse := by rw [← hlast hys, h, hlast hys']
  obtain rfl := List.reverse_injective hreverse
  exact ⟨List.append_cancel_right h, rfl⟩

/-- Keys of types that may be declared are told apart by their texts. -/
theorem RecordKey.toString_inj {k k' : RecordKey} (hk : k.type.isManaged = true)
    (hk' : k'.type.isManaged = true) (h : k.toString = k'.toString) : k = k' := by
  have htext : ∀ k : RecordKey, k.toString.toList = k.name.toList ++ ':' :: k.type.name.toList := by
    intro k
    simp [RecordKey.toString]
  have hchars : k.name.toList ++ ':' :: k.type.name.toList =
      k'.name.toList ++ ':' :: k'.type.name.toList := by
    rw [← htext, h, htext]
  obtain ⟨hname, htype⟩ := append_cons_inj hchars (colon_not_mem_name hk) (colon_not_mem_name hk')
  obtain ⟨name, type⟩ := k
  obtain ⟨name', type'⟩ := k'
  rw [RecordKey.mk.injEq]
  refine ⟨String.toList_injective hname, ?_⟩
  calc type
    _ = .ofName type.name := (ofName_name_of_isManaged hk).symm
    _ = .ofName type'.name := congrArg RecordType.ofName (String.toList_injective htype)
    _ = type' := ofName_name_of_isManaged hk'

theorem RecordKey.nodup_map_toString_iff {keys : List RecordKey}
    (h : ∀ k ∈ keys, k.type.isManaged = true) :
    (keys.map RecordKey.toString).Nodup ↔ keys.Nodup :=
  ⟨List.Nodup.of_map _, fun hnodup => hnodup.map_on fun k hk k' hk' =>
    RecordKey.toString_inj (h k hk) (h k' hk')⟩

/-- A domain does not end in a dot. -/
theorem ne_dot_of_mem_getLast?_domain {cs : List Char} (h : cs ∈ Pattern.domain) :
    ∀ c ∈ cs.getLast?, c ≠ '.' := by
  obtain ⟨before, last, rfl, _, hlength, hletters⟩ := mem_domain_iff.mp h
  intro c hc
  have hne : last ≠ [] := List.ne_nil_of_length_pos (by omega)
  rw [List.getLast?_append_of_ne_nil _ (List.cons_ne_nil _ _), List.getLast?_cons_of_ne_nil hne]
    at hc
  have hletter := hletters c (List.mem_of_getLast? hc)
  rintro rfl
  exact absurd hletter (by decide)

/-- A full name is normal up to the case of its letters. -/
theorem Name.normalize_qualify {domain : String} (h : domain.toList ∈ Pattern.domain)
    (name : String) : normalize (qualify name domain) = lowerAscii (qualify name domain) := by
  have hdomain := ne_dot_of_mem_getLast?_domain h
  have hne : domain.toList ≠ [] := by
    obtain ⟨before, last, hs, _⟩ := mem_domain_iff.mp h
    rw [hs]
    exact List.append_ne_nil_of_right_ne_nil _ (List.cons_ne_nil _ _)
  have hlast : ∀ c ∈ (qualify name domain).toList.getLast?, c ≠ '.' := by
    rw [qualify]
    split
    · exact hdomain
    · rw [String.toList_append, List.getLast?_append_of_ne_nil _ hne]
      exact hdomain
  -- So there are no dots at the end to take off, and only the case of letters is left.
  have hself : stripEnd (· = '.') (qualify name domain).toList = (qualify name domain).toList :=
    stripEnd_eq_self_iff.mpr fun c hc => decide_eq_false (hlast c hc)
  rw [normalize, normalizeChars, hself]
  rfl

/-- Two records of a domain have one key when they have one type and, up to the case of letters,
    one full name. -/
theorem Record.keyIn_eq_iff {domain : String} (h : domain.toList ∈ Pattern.domain)
    {r r' : Record} :
    r.keyIn domain = r'.keyIn domain ↔ r.type = r'.type ∧
      lowerAscii (Name.qualify r.name domain) = lowerAscii (Name.qualify r'.name domain) := by
  rw [Record.keyIn, Record.keyIn, RecordKey.ofName, RecordKey.ofName, RecordKey.mk.injEq,
    Name.normalize_qualify h, Name.normalize_qualify h, and_comm]

namespace Document

variable {d : Document} {s : DesiredState} {domain : String}

/-! ### Declared records -/

/-- Entries are declared without problems when each of them has a record. -/
theorem problems_declare_eq_nil_iff {entries : List (Location × Entry)} :
    (declare domain entries).2 = [] ↔ ∀ p ∈ entries, ∃ r, p.2.parse domain = .ok r := by
  induction entries with
  | nil => exact iff_of_true rfl fun p hp => absurd hp List.not_mem_nil
  | cons p rest ih =>
    obtain ⟨location, e⟩ := p
    rw [List.forall_mem_cons, ← ih, declare]
    dsimp only
    cases hparse : e.parse domain with
    | ok r => exact ⟨fun h => ⟨⟨r, rfl⟩, h⟩, fun h => h.2⟩
    | error faults =>
      rw [List.append_eq_nil_iff, List.map_eq_nil_iff]
      refine iff_of_false (fun h => Entry.parse_ne_error_nil (h.1 ▸ hparse)) ?_
      rintro ⟨⟨r, hr⟩, _⟩
      cases hr

/-- The records of entries that all have one. -/
theorem records_eq_filterMap {entries : List (Location × Entry)} {declared : List DeclaredRecord}
    (h : List.Forall₂ (fun p r => r.location = p.1 ∧ p.2.parse domain = .ok r.record)
      entries declared) :
    declared.map (·.record) = entries.filterMap fun p => (p.2.parse domain).toOption := by
  induction h with
  | nil => rfl
  | @cons p r entries declared hpr _ ih =>
    rw [List.map_cons, ih, List.filterMap_cons, hpr.2]
    rfl

theorem toOption_eq_some_iff {ε α : Type} {r : Except ε α} {x : α} :
    r.toOption = some x ↔ r = .ok x := by
  cases r with
  | ok y => simp [Except.toOption]
  | error fault => simp [Except.toOption]

/-- Entries with records are told apart as duplicates when the records are different resources. -/
theorem nodup_entryKeys_iff (hform : domain.toList ∈ Pattern.domain)
    {entries : List (Location × Entry)} (h : ∀ p ∈ entries, ∃ r, p.2.parse domain = .ok r) :
    (entryKeys (some domain) entries).Nodup ↔ entries.Pairwise fun p q =>
      ∀ r, p.2.parse domain = .ok r → ∀ r', q.2.parse domain = .ok r' →
        ¬ (r.type = r'.type ∧
          lowerAscii (Name.qualify r.name domain) = lowerAscii (Name.qualify r'.name domain)) := by
  have hdeclare : declare domain entries = ((declare domain entries).1, []) :=
    Prod.ext rfl (problems_declare_eq_nil_iff.mpr h)
  have hrecords := forall₂_of_declare hdeclare
  have hkeys : (DesiredState.mk domain (declare domain entries).1).keys =
      (entries.filterMap fun p => (p.2.parse domain).toOption).map (·.keyIn domain) := by
    rw [← records_eq_filterMap hrecords, DesiredState.keys, DesiredState.records]
  have hmanaged : ∀ k ∈ (entries.filterMap fun p => (p.2.parse domain).toOption).map
      (·.keyIn domain), k.type.isManaged = true := by
    intro k hk
    obtain ⟨r, hr, rfl⟩ := List.mem_map.mp hk
    obtain ⟨p, _, hp⟩ := List.mem_filterMap.mp hr
    exact (Entry.parsesTo_of_parse (toOption_eq_some_iff.mp hp)).managed
  -- The keys of entries are the texts of the keys of their records, which tell these apart.
  rw [← map_toString_keys hrecords, hkeys, RecordKey.nodup_map_toString_iff hmanaged, List.Nodup,
    List.pairwise_map, List.pairwise_filterMap]
  refine List.Pairwise.iff fun p q => ?_
  simp only [toOption_eq_some_iff, ne_eq, Record.keyIn_eq_iff hform]

/-! ### Loading -/

theorem exists_isAcceptable_iff : (∃ domain, d.IsAcceptable domain) ↔ d.report.isValid = true := by
  rw [report_isValid_iff]
  refine exists_congr fun domain => ?_
  rw [validDomain?_eq_some_iff, isDomainText_iff]
  constructor
  · rintro ⟨hnamed, hform, hentries, hdistinct⟩
    exact ⟨⟨hnamed, hform⟩, hentries, (nodup_entryKeys_iff hform hentries).mpr hdistinct⟩
  · rintro ⟨⟨hnamed, hform⟩, hentries, hnodup⟩
    exact ⟨hnamed, hform, hentries, (nodup_entryKeys_iff hform hentries).mp hnodup⟩

/-- What passed the checks is declared without problems. -/
theorem problems_declare_of_isValid (h : d.report.isValid = true) :
    (declare (d.domainText?.getD "") d.entries).2 = [] := by
  obtain ⟨domain, hdomain, hentries, _⟩ := report_isValid_iff.mp h
  rw [domainText?_eq_of_validDomain? hdomain, Option.getD_some]
  exact problems_declare_eq_nil_iff.mpr hentries

/-- Whether a document loads is decided by its report. -/
theorem load_eq (d : Document) :
    d.load = if d.report.isValid = true then
      .ok ⟨d.domainText?.getD "", (declare (d.domainText?.getD "") d.entries).1⟩
    else .error d.report := by
  unfold load
  dsimp only
  refine ite_congr rfl (fun hvalid => ?_) fun _ => rfl
  -- The second reading of the entries has a branch for problems, which is never taken.
  have hproblems := problems_declare_of_isValid hvalid
  split
  · rename_i declared hdeclare
    rw [hdeclare]
  · rename_i declared problems hne hdeclare
    rw [hdeclare] at hproblems
    exact absurd hproblems hne

theorem Loaded.holds (h : d.Loaded s) : d.Holds s := by
  refine ⟨h.domain, ?_, fun r hr => ?_, h.keys⟩
  · have hplaces : List.Forall₂ (· = ·) (s.declared.map (·.location)) (d.entries.map (·.1)) := by
      rw [List.forall₂_map_left_iff, List.forall₂_map_right_iff]
      exact h.entries.flip.imp fun _ _ hpr => hpr.1
    rw [List.forall₂_eq_eq_eq, map_fst_entries] at hplaces
    exact hplaces
  · obtain ⟨p, hp, hlocation, hparse⟩ := h.exists_entry hr
    rw [hlocation]
    exact ⟨p.2, entryAt?_of_mem_entries hp, hparse⟩

/-- **Documents load exactly when they are acceptable.** A document that loads holds what it
    declares, at every place the record of the entry there, under distinct keys. One that does not
    has a report on it, which is not empty; and once a document has passed its checks, no problem
    comes up in reading its entries again. -/
theorem load_exact (d : Document) :
    ((∃ s, d.load = .ok s) ↔ ∃ domain, d.IsAcceptable domain) ∧
      (∀ s, d.load = .ok s → d.Holds s) ∧
      (∀ report, d.load = .error report → report = d.report ∧ report.problems ≠ []) ∧
      (d.report.isValid = true → (declare (d.domainText?.getD "") d.entries).2 = []) := by
  refine ⟨?_, fun s hs => (loaded_of_load hs).holds, ?_, problems_declare_of_isValid⟩
  · rw [exists_isAcceptable_iff, load_eq]
    by_cases hvalid : d.report.isValid = true
    · rw [if_pos hvalid]
      exact iff_of_true ⟨_, rfl⟩ hvalid
    · rw [if_neg hvalid]
      exact iff_of_false (fun ⟨s, hs⟩ => nomatch hs) hvalid
  · intro report hreport
    rw [load_eq] at hreport
    by_cases hvalid : d.report.isValid = true
    · rw [if_pos hvalid] at hreport
      exact nomatch hreport
    · rw [if_neg hvalid] at hreport
      obtain rfl := Except.error.inj hreport
      exact ⟨rfl, fun hnil => hvalid (List.isEmpty_iff.mpr hnil)⟩

/-- A document with an address and a text is acceptable, and the empty document is reported. -/
theorem load_exact_wwwDocument :
    (∃ domain, wwwDocument.IsAcceptable domain) ∧ wwwDocument.Holds wwwState ∧
      (declare "example.com" wwwDocument.entries).2 = [] ∧
      Document.report {} = ⟨[.missingDomain], 0⟩ :=
  ⟨(load_exact wwwDocument).1.mp ⟨wwwState, rfl⟩, (load_exact wwwDocument).2.1 wwwState rfl,
    (load_exact wwwDocument).2.2.2 rfl,
    ((load_exact {}).2.2.1 ⟨[.missingDomain], 0⟩ rfl).1.symm⟩

end Document

end ZoneSync
