import ZoneSync.Proofs.Document.Acceptance
import ZoneSync.Proofs.Nameserver.Texts
import ZoneSync.Proofs.Propagation.Agreement

namespace ZoneSync

open Text

/-!
# Answers of other types

A resolver gives the texts of all answers, such as the aliases in front of an address, and leaves
out their types. An answer of another type than the one that was asked for fails to match as long as
its text does not read as a value of this type. Only text records can be taken for addresses; but
names of nameservers, and texts, are matched by answers of all types.

* `RecordType.reads` — the texts that read as a value of a type;
* `RecordType.Accepts`, `RecordType.accepts_iff_reads` — they are the ones that match some declared
  record;
* `RecordType.isConfusedWith` — the types of answers that can have such a text;
* `RecordType.foreign_answers` — what answers of another type match.
-/

namespace RecordType

/-- Whether a text, without the white space around it, reads as a value of a type. -/
def reads (type : RecordType) (text : String) : Bool :=
  match type with
  | .a => (Ipv4.parse? (trim text)).isSome
  | .aaaa => (Ipv6.parse? (trim text)).isSome
  | .cname => (trim text).toList.all isHostChar
  | .mx => (splitPreference? (trim text)).isSome
  | .txt | .ns => true
  | _ => false

/-- Some record of a type, in a document that loads, is matched by an answer with this text. -/
def Accepts (type : RecordType) (text : String) : Prop :=
  ∃ (d : Document) (s : DesiredState) (r : Record) (expected : String), d.load = .ok s ∧
    r ∈ s.records ∧ r.type = type ∧ r.expectedAnswer? = some expected ∧
    type.answerMatches expected text = true

/-- The other types whose answers can read as a value of a type. -/
def isConfusedWith : RecordType → Nameserver.QueryType → Bool
  | .a, .txt | .aaaa, .txt => true
  | .cname, .a | .cname, .ns | .cname, .txt => true
  | .mx, .txt | .mx, .srv => true
  | .txt, answered | .ns, answered => answered ≠ .caa
  | _, _ => false

end RecordType

/-! ### Host names -/

/-- A dot at the end makes no other name. -/
theorem Name.normalize_append_dot (name : String) : normalize (name ++ ".") = normalize name := by
  have hdots : ∀ c ∈ ".".toList, decide (c = '.') = true := List.forall_mem_singleton.mpr rfl
  rw [normalize_eq_iff, String.toList_append, normalizeChars, stripEnd_append_of_all hdots,
    ← normalizeChars]

theorem isHostChar_of_isAlpha {c : Char} (h : c.isAlpha = true) : isHostChar c = true := by
  have halphanum : c.isAlphanum = true := Bool.or_eq_true_iff.mpr (.inl h)
  rw [isHostChar, halphanum, Bool.true_or, Bool.true_or]

/-- Case does not matter for host characters. -/
theorem isHostChar_toLower (c : Char) : isHostChar c.toLower = isHostChar c := by
  by_cases hupper : c.isUpper = true
  · have hlower : c.toLower.isLower = true := by
      have := isUpper_iff.mp hupper
      rw [isLower_iff, toNat_toLower hupper]
      omega
    rw [isHostChar_of_isAlpha (Bool.or_eq_true_iff.mpr (.inl hupper)),
      isHostChar_of_isAlpha (Bool.or_eq_true_iff.mpr (.inr hlower))]
  · rw [toLower_eq_self hupper]

theorem isSolid_of_isHostText {host : String} (h : isHostText host = true) :
    IsSolid host.toList := by
  rw [isHostText, Bool.and_eq_true, List.all_eq_true] at h
  exact fun c hc => Name.isBlank_of_isHostChar (h.2 c hc)

/-- A name with the normal form of a host text has the characters of one. -/
theorem all_isHostChar_of_normalize_eq {host name : String} (hhost : isHostText host = true)
    (h : Name.normalize host = Name.normalize name) : name.toList.all isHostChar = true := by
  rw [isHostText, Bool.and_eq_true, List.all_eq_true] at hhost
  rw [Name.normalize_eq_iff] at h
  obtain ⟨dots, hname, hdots⟩ := exists_stripEnd_append (· = '.') name.toList
  rw [hname, List.all_eq_true, List.forall_mem_append]
  constructor
  · intro c hc
    have hmem : c.toLower ∈ Name.normalizeChars host.toList := h ▸ List.mem_map_of_mem hc
    obtain ⟨c', hc', hlower⟩ := List.mem_map.mp hmem
    rw [← isHostChar_toLower, ← hlower, isHostChar_toLower]
    exact hhost.2 c' ((List.rdropWhile_prefix _ _).subset hc')
  · intro c hc
    rw [of_decide_eq_true (hdots c hc)]
    decide

/-! ### Declared records -/

/-- A document with one entry. -/
def Document.ofEntry (e : Entry) : Document where
  domain := some (.string "example.com")
  frontend := [e]

theorem Document.load_ofEntry {e : Entry} {r : Record} (h : e.parse "example.com" = .ok r) :
    (ofEntry e).load = .ok ⟨"example.com", [⟨⟨.frontend, 0⟩, r⟩]⟩ := by
  have hentries : (ofEntry e).entries = [(⟨.frontend, 0⟩, e)] := rfl
  have hkeys : entryKeys (some "example.com") [(⟨.frontend, 0⟩, e)] =
      [(r.keyIn "example.com").toString] :=
    List.filterMap_cons_some (duplicateKey?_of_parsesTo (Entry.parsesTo_of_parse h) _)
  have hvalid : (ofEntry e).report.isValid = true := by
    refine report_isValid_iff.mpr ⟨"example.com", validDomain?_eq_some_iff.mpr ⟨rfl, by decide⟩, ?_⟩
    rw [hentries, hkeys, List.forall_mem_singleton]
    exact ⟨⟨r, h⟩, List.nodup_singleton _⟩
  have hdeclare : declare "example.com" [(⟨.frontend, 0⟩, e)] = ([⟨⟨.frontend, 0⟩, r⟩], []) := by
    simp [declare, h]
  rw [load_eq, if_pos hvalid, hentries]
  show Except.ok (DesiredState.mk "example.com" (declare "example.com" _).1) = _
  rw [hdeclare]

/-- An entry with a content, and with a preference if there is one. -/
def Entry.plain (type : RecordType) (text : String) (preference : Option UInt16) : Entry where
  name := some (.string "note")
  type := some (.string type.name)
  content := some (.string text)
  priority := preference.map fun n => .number (.integer n.toNat)

/-- The record of this entry. -/
def Record.plain (type : RecordType) (text : String) (preference : Option UInt16) : Record where
  name := "note"
  type := type
  value := .content text
  priority := preference

namespace RecordType

variable {type : RecordType} {text observed : String} {preference : Option UInt16}

/-- A type with a content may be declared, and is looked up. -/
theorem of_said_content {e : Entry} (h : e.Says type (.content text) preference) :
    type.isManaged = true ∧ type ≠ .srv := by
  cases h <;> exact ⟨rfl, nofun⟩

theorem parse_plain
    (hsaid : (Entry.plain type text preference).Says type (.content text) preference) :
    (Entry.plain type text preference).parse "example.com" =
      .ok (Record.plain type text preference) := by
  obtain ⟨hmanaged, hsrv⟩ := of_said_content hsaid
  have hname : IsRelativeName "note" := isRecordName_iff.mp (by decide)
  have hsize : (Name.qualify "note" "example.com").utf8ByteSize ≤ 253 := by decide
  rw [Entry.parse_eq_ok_iff_checks, checkType_eq_ok_iff, nameFaults_eq_nil_iff,
    checkValue_eq_ok_iff, checkProxied_eq_ok_iff]
  refine ⟨rfl, ⟨rfl, hmanaged⟩, ⟨?_, .inr hsize⟩, ⟨hsaid, fun _ => rfl⟩, ⟨rfl, nofun⟩, rfl, rfl⟩
  rw [Record.plain, if_neg hsrv]
  exact hname

/-- An answer that matches a content is accepted. -/
theorem accepts_of_said
    (hsaid : (Entry.plain type text preference).Says type (.content text) preference)
    (hmatch : type.answerMatches (type.answerFor (preference.getD 0) text) observed = true) :
    type.Accepts observed :=
  ⟨_, _, Record.plain type text preference, _,
    Document.load_ofEntry (parse_plain hsaid), List.mem_singleton_self _, rfl,
    Record.expectedAnswer?_of_content rfl (of_said_content hsaid).2, hmatch⟩

/-- What reads as a value is matched by a record with this value. -/
theorem accepts_of_reads (h : type.reads observed = true) : type.Accepts observed := by
  cases type with
  | a =>
    have hsaid : (Entry.plain .a (trim observed) none).Says .a (.content (trim observed)) none :=
      .a (.inl rfl) (Ipv4.parse?_isSome_iff.mp h)
    refine accepts_of_said hsaid ?_
    simp only [answerMatches, answerFor, sameAnswer, trim_trim, decide_true]
  | aaaa =>
    have hsaid : (Entry.plain .aaaa (trim observed) none).Says .aaaa (.content (trim observed))
        none := .aaaa (.inl rfl) (Ipv6.parse?_isSome_iff.mp h)
    have hread : (Ipv6.parse? (trim observed)).isSome = true := h
    obtain ⟨address, haddress⟩ := Option.isSome_iff_exists.mp hread
    refine accepts_of_said hsaid ?_
    simp only [answerMatches, answerFor, sameAnswer, trim_trim, haddress, decide_true]
  | cname =>
    -- The text may be empty, and a content may not, so a dot is put at its end.
    have hdot : isHostText (trim observed ++ ".") = true := by
      rw [isHostText, String.toList_append, List.all_append, Bool.and_eq_true, Bool.and_eq_true]
      exact ⟨by simp, h, by decide⟩
    have hsaid : (Entry.plain .cname (trim observed ++ ".") none).Says .cname
        (.content (trim observed ++ ".")) none := .cname (.inl rfl) (isHostText_iff.mp hdot)
    have hself : trim (trim observed ++ ".") = trim observed ++ "." :=
      (isSolid_of_isHostText hdot).trim_eq_self
    refine accepts_of_said hsaid ?_
    simp only [answerFor]
    simp only [answerMatches, sameAnswer, decide_eq_true_eq]
    rw [hself, Name.normalize_append_dot]
  | mx =>
    have hread : (splitPreference? (trim observed)).isSome = true := h
    obtain ⟨⟨p, exchange⟩, hsplit⟩ := Option.isSome_iff_exists.mp hread
    obtain ⟨_, hblank, htrim⟩ := of_splitPreference?_trim hsplit
    have hsaid : (Entry.plain .mx exchange (some p)).Says .mx (.content exchange) (some p) :=
      .mx (.inl rfl) ⟨_, rfl, rfl⟩
    refine accepts_of_said hsaid ?_
    simp [answerMatches, answerFor, sameAnswer, mailAnswer, splitPreference?_trim, hblank, htrim,
      hsplit]
  | txt =>
    have hsaid : (Entry.plain .txt observed none).Says .txt (.content observed) none :=
      .txt (.inl rfl)
    refine accepts_of_said hsaid ?_
    simp only [answerMatches, answerFor, sameAnswer, decide_true]
  | ns =>
    have hsaid : (Entry.plain .ns observed none).Says .ns (.content observed) none :=
      .ns (.inl rfl)
    refine accepts_of_said hsaid ?_
    simp only [answerMatches, answerFor, sameAnswer, decide_true]
  | srv => exact absurd h Bool.false_ne_true
  | caa => exact absurd h Bool.false_ne_true
  | other name => exact absurd h Bool.false_ne_true

/-- What matches a content reads as a value of its type. -/
theorem reads_of_answerMatches {e : Entry} {p : UInt16}
    (hsaid : e.Says type (.content text) preference)
    (hmatch : type.answerMatches (type.answerFor p text) observed = true) :
    type.reads observed = true := by
  cases hsaid with
  | a content form =>
    obtain ⟨address, haddress⟩ := Option.isSome_iff_exists.mp (Ipv4.parse?_isSome_iff.mpr form)
    have hself : trim text = text := (Ipv4.isSolid_of_parseChars? haddress).trim_eq_self
    simp only [answerMatches, answerFor, sameAnswer, decide_eq_true_eq, hself] at hmatch
    simp only [reads, ← hmatch, haddress, Option.isSome_some]
  | aaaa content form =>
    simp only [answerMatches, answerFor, sameAnswer] at hmatch
    split at hmatch
    · rename_i v w hv hw
      simp only [reads, hw, Option.isSome_some]
    · exact absurd hmatch Bool.false_ne_true
  | cname content form =>
    have hhost := isHostText_iff.mpr form
    have hself : trim text = text := (isSolid_of_isHostText hhost).trim_eq_self
    simp only [answerFor] at hmatch
    simp only [answerMatches, sameAnswer, decide_eq_true_eq, hself] at hmatch
    exact all_isHostChar_of_normalize_eq hhost hmatch
  | mx content priority =>
    simp only [answerMatches, answerFor, sameAnswer] at hmatch
    split at hmatch
    · rename_i v w hv hw
      simp only [reads, hw, Option.isSome_some]
    · exact absurd hmatch Bool.false_ne_true
  | txt content => rfl
  | ns content => rfl

/-- **Accepted texts.** Some declared record of a type is matched by a text exactly if it reads as a
    value of the type. -/
theorem accepts_iff_reads : type.Accepts observed ↔ type.reads observed = true := by
  refine ⟨?_, accepts_of_reads⟩
  rintro ⟨d, s, r, expected, hload, hr, rfl, hexpected, hmatch⟩
  obtain ⟨declared, hdeclared, rfl⟩ := List.mem_map.mp hr
  obtain ⟨p, _, _, hparse⟩ := (Document.loaded_of_load hload).exists_entry hdeclared
  -- Service records have no expected answer.
  have hsrv : declared.record.type ≠ .srv := by
    intro hsrv
    rw [Record.expectedAnswer?, hsrv] at hexpected
    exact nomatch hexpected
  obtain ⟨content, hvalue, _⟩ := (Entry.parsesTo_of_parse hparse).content hsrv
  obtain ⟨_, _, _, hchecked, _⟩ := Entry.parse_eq_ok_iff_checks.mp hparse
  rw [hvalue] at hchecked
  have hsaid := (checkValue_eq_ok_iff.mp hchecked).1
  rw [Record.expectedAnswer?_of_content hvalue hsrv, Option.some.injEq] at hexpected
  exact reads_of_answerMatches hsaid (hexpected ▸ hmatch)

/-! ### Types of answers -/

variable {answered : Nameserver.QueryType}

/-- An answer of another type that reads as a value is of one of the types that can. -/
theorem isConfusedWith_of_reads (hforeign : Nameserver.QueryType.of? type ≠ some answered)
    (hgives : answered.Gives observed) (h : type.reads observed = true) :
    type.isConfusedWith answered = true := by
  cases type with
  | a =>
    have hread : (Ipv4.parse? (trim observed)).isSome = true := h
    have hquad := Ipv4.parse?_isSome_iff.mp hread
    obtain ⟨address, haddress⟩ := Option.isSome_iff_exists.mp hread
    have hmem := hgives.mem_of_getLast?_ne_dot (Ipv4.isSolid_of_parseChars? haddress)
      hquad.getLast?_ne_dot
    simp only [List.mem_cons, List.not_mem_nil, or_false] at hmem
    rcases hmem with rfl | rfl | rfl
    · exact absurd rfl hforeign
    · exact absurd ((hgives.colon_mem_iff (.inr rfl)).mpr rfl) (Ipv6.of_isQuad hquad).2
    · rfl
  | aaaa =>
    have hread : (Ipv6.parse? (trim observed)).isSome = true := h
    have hliteral := Ipv6.parse?_isSome_iff.mp hread
    obtain ⟨address, haddress⟩ := Option.isSome_iff_exists.mp hread
    have hmem := hgives.mem_of_getLast?_ne_dot (Ipv6.isSolid_of_parseChars? haddress)
      hliteral.getLast?_ne_dot
    simp only [List.mem_cons, List.not_mem_nil, or_false] at hmem
    rcases hmem with rfl | rfl | rfl
    · exact nomatch (hgives.colon_mem_iff (.inl rfl)).mp (Ipv6.colon_mem_of_isIpv6Literal hliteral)
    · exact absurd rfl hforeign
    · rfl
  | cname =>
    have hhost : ∀ c ∈ (trim observed).toList, isHostChar c = true := List.all_eq_true.mp h
    have hmem := hgives.mem_of_isSolid fun c hc => Name.isBlank_of_isHostChar (hhost c hc)
    simp only [List.mem_cons, List.not_mem_nil, or_false] at hmem
    rcases hmem with rfl | rfl | rfl | rfl | rfl
    · rfl
    · exact absurd (hhost ':' ((hgives.colon_mem_iff (.inr rfl)).mpr rfl)) (by decide)
    · exact absurd rfl hforeign
    · rfl
    · rfl
  | mx =>
    have hread : (splitPreference? (trim observed)).isSome = true := h
    obtain ⟨⟨p, exchange⟩, hsplit⟩ := Option.isSome_iff_exists.mp hread
    obtain ⟨⟨c, hc, hblank⟩, _⟩ := of_splitPreference?_trim hsplit
    have hmem := hgives.mem_of_not_isSolid fun hsolid => by
      rw [hsolid c hc] at hblank
      exact nomatch hblank
    simp only [List.mem_cons, List.not_mem_nil, or_false] at hmem
    rcases hmem with rfl | rfl | rfl
    · exact absurd rfl hforeign
    · rfl
    · rfl
  | txt => exact decide_eq_true (Nameserver.QueryType.exists_gives_iff.mp ⟨observed, hgives⟩)
  | ns => exact decide_eq_true (Nameserver.QueryType.exists_gives_iff.mp ⟨observed, hgives⟩)
  | srv => exact nomatch h
  | caa => exact nomatch h
  | other name => exact nomatch h

/-- Each of these types has an answer that reads as a value; those of text records may be chosen
    freely, and for the others a plain one will do. -/
theorem exists_reads_of_isConfusedWith (h : type.isConfusedWith answered = true) :
    ∃ text, answered.Gives text ∧ type.reads text = true := by
  have hany : (∀ text, type.reads text = true) → answered ≠ .caa →
      ∃ text, answered.Gives text ∧ type.reads text = true := by
    intro hreads hne
    obtain ⟨text, htext⟩ := Nameserver.QueryType.exists_gives_iff.mpr hne
    exact ⟨text, htext, hreads text⟩
  cases type with
  | a =>
    cases answered with
    | txt => exact ⟨"192.0.2.9", Nameserver.QueryType.txt_gives _, by decide⟩
    | _ => exact nomatch h
  | aaaa =>
    cases answered with
    | txt => exact ⟨"2001:db8::9", Nameserver.QueryType.txt_gives _, by decide⟩
    | _ => exact nomatch h
  | cname =>
    cases answered with
    | a => exact ⟨_, ⟨.a ⟨#v[192, 0, 2, 9]⟩, rfl, nofun, rfl⟩, by decide⟩
    | ns => exact ⟨_, ⟨.ns ⟨[], true⟩, rfl, Nameserver.Answer.isServed_of_root rfl, rfl⟩, by decide⟩
    | txt => exact ⟨"example.com", Nameserver.QueryType.txt_gives _, by decide⟩
    | _ => exact nomatch h
  | mx =>
    cases answered with
    | srv =>
      exact ⟨_, ⟨.srv 0 0 0 ⟨[], true⟩, rfl, Nameserver.Answer.isServed_of_root rfl, rfl⟩,
        by decide⟩
    | txt => exact ⟨"10 mail.example.com", Nameserver.QueryType.txt_gives _, by decide⟩
    | _ => exact nomatch h
  | txt => exact hany (fun _ => rfl) (of_decide_eq_true h)
  | ns => exact hany (fun _ => rfl) (of_decide_eq_true h)
  | srv => exact nomatch h
  | caa => exact nomatch h
  | other name => exact nomatch h

/-- **Answers of other types.** Some declared record of a type is matched by a text exactly if this
    reads as a value of the type; and nameservers give such texts in answers of another type exactly
    if the type can be confused with it. So the answers in front of an address, which are aliases,
    match no address, and neither does anything else but a text record. -/
theorem foreign_answers (hforeign : Nameserver.QueryType.of? type ≠ some answered) :
    (∀ text, type.Accepts text ↔ type.reads text = true) ∧
      ((∃ text, answered.Gives text ∧ type.Accepts text) ↔
        type.isConfusedWith answered = true) := by
  refine ⟨fun text => accepts_iff_reads, ?_⟩
  constructor
  · rintro ⟨text, hgives, haccepts⟩
    exact isConfusedWith_of_reads hforeign hgives (accepts_iff_reads.mp haccepts)
  · intro h
    obtain ⟨text, hgives, hreads⟩ := exists_reads_of_isConfusedWith h
    exact ⟨text, hgives, accepts_iff_reads.mpr hreads⟩

/-- Aliases match no address, and some of them match nameservers. -/
theorem foreign_answers_alias :
    Nameserver.QueryType.of? .a ≠ some .cname ∧ Nameserver.QueryType.of? .ns ≠ some .cname ∧
      (∀ text, Nameserver.QueryType.cname.Gives text → ¬ RecordType.a.Accepts text) ∧
      ∃ text, Nameserver.QueryType.cname.Gives text ∧ RecordType.ns.Accepts text := by
  have haddress := (@foreign_answers .a .cname (by decide)).2
  have hnameserver := (@foreign_answers .ns .cname (by decide)).2
  refine ⟨by decide, by decide, fun text hgives haccepts => ?_, hnameserver.mpr rfl⟩
  exact nomatch haddress.mp ⟨text, hgives, haccepts⟩

/-- Only texts are compared: an alias to a host matches the record of a nameserver at this host. -/
theorem not_foreign_rejected :
    ¬ ∀ (d : Document) (s : DesiredState) (r : Record) (expected : String)
        (answer : Nameserver.Answer) (text : String),
      d.load = .ok s → r ∈ s.records → r.type ∈ [a, aaaa, cname, ns, mx, txt] →
      r.expectedAnswer? = some expected → answer.type? ≠ Nameserver.QueryType.of? r.type →
      answer.text? = some text → r.type.answerMatches expected text = false := by
  intro h
  have hsaid : (Entry.plain .ns "ns1.example.net" none).Says .ns (.content "ns1.example.net")
      none := .ns (.inl rfl)
  have hrejected := h _ _ (Record.plain .ns "ns1.example.net" none) _
    (.cname ⟨["ns1", "example", "net"], true⟩) _ (Document.load_ofEntry (parse_plain hsaid))
    (List.mem_singleton_self _) (by decide) rfl (by decide) rfl
  have hmatch : RecordType.ns.answerMatches "ns1.example.net" "ns1.example.net." = true := by
    decide +kernel
  exact Bool.false_ne_true (hrejected.symm.trans hmatch)

end RecordType

end ZoneSync
