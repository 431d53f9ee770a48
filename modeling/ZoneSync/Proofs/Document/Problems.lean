import ZoneSync.Proofs.Document.Acceptance

namespace ZoneSync

open Text Yaml

/-!
# What the report on a document says

The report goes through a document once: the domain, then the entries in the order of their
sections. It is determined by what it says about each of them.

* `Document.DomainVerdict` — the domain that entries are checked for, and the problems of it;
* `Document.IdentifiedBy` — what an entry is recognised by among the others;
* `Document.Repeats`, `Document.Reviewed` — the problem of an entry that came before, and those of
  all entries after some others;
* `Document.FirstSeen` — the table of keys during the check holds every key with its first place;
* `Name.lowerAscii_qualify_eq_iff` — full names of a domain are equal when the names are;
* `Document.report_exact` — the problems of a document, one by one.
-/

namespace Document

/-! ### Problems of documents -/

/-- The domain that the entries of a document are checked for, with the problems of it: none for a
    string that is a domain, else one. -/
inductive DomainVerdict (d : Document) : Option String → List Problem → Prop
  | valid {domain : String} (named : d.domain = some (.string domain))
      (form : domain.toList ∈ Pattern.domain) : DomainVerdict d (some domain) []
  | invalid {value : Value} (named : d.domain = some value)
      (form : ∀ text, value = .string text → text.toList ∉ Pattern.domain) :
      DomainVerdict d none [.invalidDomain value.render]
  | missing (unnamed : d.domain = none) : DomainVerdict d none [.missingDomain]

/-- What an entry with a name and a type is recognised by: the text of its key in the domain, or
    without a domain its name in lower case and its type. Tags are looked through, and an entry
    whose name or type is no text has nothing to be recognised by. -/
inductive IdentifiedBy : Option String → Entry → String → Prop
  | inDomain {domain name type : String} {e : Entry} (hname : e.name.bind Value.text? = some name)
      (htype : e.type.bind Value.text? = some type) :
      IdentifiedBy (some domain) e
        (RecordKey.ofName (Name.qualify name domain) (.ofName type)).toString
  | asWritten {name type : String} {e : Entry} (hname : e.name.bind Value.text? = some name)
      (htype : e.type.bind Value.text? = some type) :
      IdentifiedBy none e (lowerAscii name ++ ":" ++ type)

/-- What is said about an entry and those before it: nothing when none of them has its key, else
    that it is a duplicate of the first of them. -/
inductive Repeats (domain : Option String) (before : List (Location × Entry))
    (p : Location × Entry) : List Problem → Prop
  | never (new : ∀ key, IdentifiedBy domain p.2 key → ∀ q ∈ before, ¬ IdentifiedBy domain q.2 key) :
      Repeats domain before p []
  | again {key : String} {first : Location × Entry} {earlier later : List (Location × Entry)}
      (split : before = earlier ++ first :: later) (same : IdentifiedBy domain p.2 key)
      (found : IdentifiedBy domain first.2 key)
      (unseen : ∀ q ∈ earlier, ¬ IdentifiedBy domain q.2 key) :
      Repeats domain before p [.duplicate key p.1 first.1]

/-- The problems of entries that stand after others: for each in order, the faults that it has
    alone, then what is said about it and those before it. -/
inductive Reviewed (domain : Option String) :
    List (Location × Entry) → List (Location × Entry) → List Problem → Prop
  | nil (before : List (Location × Entry)) : Reviewed domain before [] []
  | cons {before rest : List (Location × Entry)} {p : Location × Entry}
      {repeated problems : List Problem} (here : Repeats domain before p repeated)
      (next : Reviewed domain (before ++ [p]) rest problems) :
      Reviewed domain before (p :: rest)
        ((p.2.faults (domain.getD "")).map (.entry p.1 p.2.label) ++ repeated ++ problems)

variable {d : Document} {domain : Option String} {e : Entry} {key : String}

/-! ### The domain -/

theorem domainVerdict (d : Document) : d.DomainVerdict d.validDomain? d.domainProblems := by
  cases hvalid : d.validDomain? with
  | some domain =>
    have hnil := domainProblems_eq_nil_iff.mpr ⟨domain, hvalid⟩
    obtain ⟨hnamed, hform⟩ := validDomain?_eq_some_iff.mp hvalid
    rw [hnil]
    exact .valid hnamed (isDomainText_iff.mp hform)
  | none =>
    cases hdomain : d.domain with
    | none =>
      have hproblems : d.domainProblems = [.missingDomain] := by
        rw [domainProblems, hdomain]
      rw [hproblems]
      exact .missing hdomain
    | some value =>
      have hproblems : d.domainProblems = [.invalidDomain value.render] := by
        simp only [domainProblems, hdomain, hvalid, Option.isSome_none, Bool.false_eq_true,
          if_false]
      rw [hproblems]
      refine .invalid hdomain fun text htext hform => ?_
      have hsome := validDomain?_eq_some_iff.mpr
        ⟨hdomain.trans (congrArg some htext), isDomainText_iff.mpr hform⟩
      rw [hvalid] at hsome
      exact nomatch hsome

/-! ### Keys of entries -/

theorem duplicateKey?_eq_some_iff :
    duplicateKey? domain e = some key ↔ IdentifiedBy domain e key := by
  constructor
  · intro h
    unfold duplicateKey? at h
    obtain ⟨name, hname, h⟩ := Option.bind_eq_some_iff.mp h
    obtain ⟨type, htype, h⟩ := Option.bind_eq_some_iff.mp h
    cases domain with
    | some domain =>
      rw [← Option.some.inj h]
      exact .inDomain hname htype
    | none =>
      rw [← Option.some.inj h]
      exact .asWritten hname htype
  · rintro (⟨hname, htype⟩ | ⟨hname, htype⟩) <;> rw [duplicateKey?, hname, htype] <;> rfl

/-- An entry is recognised by one key at most. -/
theorem IdentifiedBy.unique {key' : String} (h : IdentifiedBy domain e key)
    (h' : IdentifiedBy domain e key') : key = key' := by
  rw [← duplicateKey?_eq_some_iff] at h h'
  exact Option.some.inj (h.symm.trans h')

/-! ### The table of keys -/

/-- A table of keys holds the keys of the entries so far, each with the place of the first entry
    that has it. -/
def FirstSeen (domain : Option String) (before : List (Location × Entry))
    (seen : List (String × Location)) : Prop :=
  ∀ key, seen.find? (·.1 = key) =
    (before.find? fun q => duplicateKey? domain q.2 = some key).map fun q => (key, q.1)

namespace FirstSeen

variable {before : List (Location × Entry)} {seen : List (String × Location)}
  {p : Location × Entry}

theorem nil (domain : Option String) : FirstSeen domain [] [] := fun _ => rfl

/-- An entry whose key is in the table, or that has none, changes nothing. -/
theorem keep (h : FirstSeen domain before seen)
    (hkey : ∀ key, duplicateKey? domain p.2 = some key → (seen.find? (·.1 = key)).isSome = true) :
    FirstSeen domain (before ++ [p]) seen := by
  intro key
  rw [List.find?_append, h key]
  cases hfind : before.find? fun q => duplicateKey? domain q.2 = some key with
  | some q => rfl
  | none =>
    have hother : duplicateKey? domain p.2 ≠ some key := by
      intro hsame
      have hsome := hkey key hsame
      rw [h key, hfind] at hsome
      exact nomatch hsome
    simp [hother]

/-- An entry with a new key is its first place. -/
theorem add {key : String} (h : FirstSeen domain before seen)
    (hkey : duplicateKey? domain p.2 = some key) (hnew : seen.find? (·.1 = key) = none) :
    FirstSeen domain (before ++ [p]) (seen ++ [(key, p.1)]) := by
  intro other
  rw [List.find?_append, List.find?_append, h other]
  by_cases hsame : other = key
  · subst hsame
    have hnone : (before.find? fun q => duplicateKey? domain q.2 = some other) = none := by
      rwa [h other, Option.map_eq_none_iff] at hnew
    simp [hnone, hkey]
  · simp [hkey, Ne.symm hsame]

end FirstSeen

/-! ### Problems of entries -/

/-- What the table says about an entry is what the entries before it say. -/
theorem repeats_of_find? {before : List (Location × Entry)} {seen : List (String × Location)}
    {p : Location × Entry} (hseen : FirstSeen domain before seen)
    (hkey : duplicateKey? domain p.2 = some key) {k : String} {first : Location}
    (hfind : seen.find? (·.1 = key) = some (k, first)) :
    Repeats domain before p [.duplicate key p.1 first] := by
  rw [hseen key, Option.map_eq_some_iff] at hfind
  obtain ⟨q, hq, hpair⟩ := hfind
  obtain ⟨hqkey, earlier, later, hsplit, hunseen⟩ := List.find?_eq_some_iff_append.mp hq
  rw [← (Prod.mk.inj hpair).2]
  refine .again hsplit (duplicateKey?_eq_some_iff.mp hkey)
    (duplicateKey?_eq_some_iff.mp (of_decide_eq_true hqkey)) fun other hother hidentified => ?_
  have hne := hunseen other hother
  rw [duplicateKey?_eq_some_iff.mpr hidentified] at hne
  simp at hne

/-- The problems of entries are found one entry at a time, with a table of the keys before them. -/
theorem reviewed_entryProblems {entries before : List (Location × Entry)}
    {seen : List (String × Location)} (hseen : FirstSeen domain before seen) :
    Reviewed domain before entries (entryProblems domain seen entries) := by
  induction entries generalizing before seen with
  | nil => exact .nil before
  | cons p rest ih =>
    obtain ⟨location, e⟩ := p
    rw [entryProblems]
    cases hkey : duplicateKey? domain e with
    | none =>
      dsimp only
      refine .cons (p := (location, e)) (.never fun key hidentified => ?_)
        (ih (hseen.keep fun key hsome => ?_))
      · rw [duplicateKey?_eq_some_iff.mpr hidentified] at hkey
        cases hkey
      · cases hkey.symm.trans hsome
    | some key =>
      dsimp only
      cases hfind : seen.find? (·.1 = key) with
      | some found =>
        dsimp only
        refine .cons (p := (location, e)) (repeats_of_find? (p := (location, e)) hseen hkey hfind)
          (ih (hseen.keep fun other hother => ?_))
        rw [← Option.some.inj (hkey.symm.trans hother), hfind]
        rfl
      | none =>
        dsimp only
        refine .cons (p := (location, e)) (.never fun other hidentified q hq hqkey => ?_)
          (ih (hseen.add (p := (location, e)) hkey hfind))
        -- The key is not in the table, so that no entry before this one has it.
        have hsame : key = other := (duplicateKey?_eq_some_iff.mp hkey).unique hidentified
        have hnone := hfind
        rw [hseen key, Option.map_eq_none_iff, List.find?_eq_none] at hnone
        exact hnone q hq (decide_eq_true (hsame ▸ duplicateKey?_eq_some_iff.mpr hqkey))

end Document

/-! ### Names of one domain -/

namespace Name

/-- No other name is the apex in lower case. -/
theorem lowerAscii_eq_apex_iff {name : String} : lowerAscii name = apex ↔ name = apex := by
  refine ⟨fun h => ?_, fun h => by rw [h]; rfl⟩
  have hchars : name.toList.map Char.toLower = ['@'] := by
    rw [← toList_lowerAscii, h]
    rfl
  obtain ⟨c, hname, hc⟩ := List.map_eq_singleton_iff.mp hchars
  apply String.toList_injective
  rw [hname, (toLower_eq_iff (by decide)).mp hc]
  rfl

/-- The full name of a name that is not the apex. -/
theorem lowerAscii_qualify {name : String} (h : name ≠ apex) (domain : String) :
    (lowerAscii (qualify name domain)).toList =
      (lowerAscii name).toList ++ '.' :: (lowerAscii domain).toList := by
  have hdot : '.'.toLower = '.' := rfl
  rw [qualify, if_neg h]
  simp [hdot]

/-- Two names have one full name in a domain, up to case, when they are one up to case: the full
    name of the apex is the only one that has no name before the domain. -/
theorem lowerAscii_qualify_eq_iff {name name' domain : String} :
    lowerAscii (qualify name domain) = lowerAscii (qualify name' domain) ↔
      lowerAscii name = lowerAscii name' := by
  have happend : ∀ xs : List Char,
      (lowerAscii domain).toList ≠ xs ++ '.' :: (lowerAscii domain).toList := by
    intro xs h
    have hlength := congrArg List.length h
    simp at hlength
    omega
  rw [← String.toList_inj]
  by_cases h : name = apex <;> by_cases h' : name' = apex
  · rw [h, h']
    exact iff_of_true rfl rfl
  · rw [h, qualify_apex, lowerAscii_qualify h']
    refine iff_of_false (happend _) fun hname => h' (lowerAscii_eq_apex_iff.mp ?_)
    rw [← hname]
    rfl
  · rw [h', qualify_apex, lowerAscii_qualify h]
    refine iff_of_false (fun heq => happend _ heq.symm) fun hname =>
      h (lowerAscii_eq_apex_iff.mp ?_)
    rw [hname]
    rfl
  · rw [lowerAscii_qualify h, lowerAscii_qualify h', List.append_cancel_right_eq, String.toList_inj]

end Name

namespace Document

/-- Two entries with records in a domain are recognised by one key when the records have one type
    and, up to the case of letters, one name. -/
theorem exists_identifiedBy_iff {domain : String} (hform : domain.toList ∈ Pattern.domain)
    {e e' : Entry} {r r' : Record} (h : e.parse domain = .ok r) (h' : e'.parse domain = .ok r') :
    (∃ key, IdentifiedBy (some domain) e key ∧ IdentifiedBy (some domain) e' key) ↔
      r.type = r'.type ∧ lowerAscii r.name = lowerAscii r'.name := by
  have hr := Entry.parsesTo_of_parse h
  have hr' := Entry.parsesTo_of_parse h'
  have hkey := duplicateKey?_eq_some_iff.mp (duplicateKey?_of_parsesTo hr domain)
  have hkey' := duplicateKey?_eq_some_iff.mp (duplicateKey?_of_parsesTo hr' domain)
  have hsame : r.keyIn domain = r'.keyIn domain ↔
      r.type = r'.type ∧ lowerAscii r.name = lowerAscii r'.name := by
    rw [Record.keyIn_eq_iff hform, Name.lowerAscii_qualify_eq_iff]
  rw [← hsame]
  constructor
  · rintro ⟨key, he, he'⟩
    exact RecordKey.toString_inj hr.managed hr'.managed
      ((hkey.unique he).trans (he'.unique hkey'))
  · intro heq
    exact ⟨_, hkey, heq ▸ hkey'⟩

/-- **The report on a document is exact.** The entries of a document are those at its places,
    section by section. The problems are at first that of the domain, if there is one; then, for each entry
    in order, the faults that it has alone, and that it is a duplicate exactly when an earlier entry
    has its key, with the first place of that key. Records that can be declared in a domain have one
    key when they have one type and, up to the case of letters, one name. -/
theorem report_exact (d : Document) :
    (d.entries.map (·.1) = d.places ∧ ∀ p ∈ d.entries, d.entryAt? p.1 = some p.2) ∧
      (∃ domain head problems, d.DomainVerdict domain head ∧
        Reviewed domain [] d.entries problems ∧ d.report.problems = head ++ problems) ∧
      ∀ domain : String, domain.toList ∈ Pattern.domain → ∀ e e' : Entry, ∀ r r' : Record,
        e.parse domain = .ok r → e'.parse domain = .ok r' →
          ((∃ key, IdentifiedBy (some domain) e key ∧ IdentifiedBy (some domain) e' key) ↔
            r.type = r'.type ∧ lowerAscii r.name = lowerAscii r'.name) := by
  refine ⟨⟨map_fst_entries d, fun p hp => entryAt?_of_mem_entries hp⟩, ?_, ?_⟩
  · exact ⟨d.validDomain?, d.domainProblems, entryProblems d.validDomain? [] d.entries,
      domainVerdict d, reviewed_entryProblems (.nil _), rfl⟩
  · intro domain hform e e' r r' h h'
    exact exists_identifiedBy_iff hform h h'

/-- An entry for an address. -/
def addressEntry (name : String) : Entry where
  name := some (.string name)
  type := some (.string "A")
  content := some (.string "192.0.2.9")

/-- A document that declares one address three times. -/
def repeatedDocument : Document where
  domain := some (.string "example.com")
  frontend := [addressEntry "www"]
  backend := [addressEntry "@", addressEntry "WWW"]
  bootstrap := [addressEntry "Www"]

/-- The second and the third declaration are both duplicates of the first. -/
theorem report_exact_repeatedDocument :
    (∃ domain head problems, repeatedDocument.DomainVerdict domain head ∧
      Reviewed domain [] repeatedDocument.entries problems ∧
        [Problem.duplicate "www.example.com:A" ⟨.backend, 1⟩ ⟨.frontend, 0⟩,
          .duplicate "www.example.com:A" ⟨.bootstrap, 0⟩ ⟨.frontend, 0⟩] = head ++ problems) ∧
      ∃ key, IdentifiedBy (some "example.com") (addressEntry "www") key ∧
        IdentifiedBy (some "example.com") (addressEntry "WWW") key :=
  ⟨(report_exact repeatedDocument).2.1,
    ((report_exact repeatedDocument).2.2 "example.com" (isDomainText_iff.mp rfl)
      (addressEntry "www") (addressEntry "WWW")
      { name := "www", type := .a, value := .content "192.0.2.9" }
      { name := "WWW", type := .a, value := .content "192.0.2.9" } rfl rfl).mpr ⟨rfl, rfl⟩⟩

end Document

end ZoneSync
