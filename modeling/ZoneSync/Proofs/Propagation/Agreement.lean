import ZoneSync.Proofs.Address.Blanks
import ZoneSync.Proofs.Document.Loading
import ZoneSync.Proofs.Propagation.Spelling
import ZoneSync.Proofs.Propagation.Verdict
import ZoneSync.Proofs.Record.Identity

namespace ZoneSync

open Text

/-!
# Where changes and propagation are judged alike

Whether a live record has to be changed and whether a resolver gives the expected answer are two
comparisons. The first one takes contents as they are. The second one trims them before it takes off
quotes and dots, and loses white space that the first one sees.

* `RecordType.isTidy` — contents of a type that are not lost when answers are trimmed;
* `Name.normalize_trim_agrees_iff`, `unquote_trim_agrees_iff`, `mail_agrees_iff` — for host names,
  texts and mail: all spellings of a content are the same when trimmed, exactly if it is tidy;
* `RecordType.answerMatches_agrees_iff`, `Record.isAnsweredBy_agrees_iff` — contents of all types,
  and records with them;
* `declared_agreement` — the records of a document that loads, and what is reported on them.
-/

/-! ### Names, texts and mail -/

/-- Whether the last character of a name, below the dots at its end, is there and is no white
    space. -/
def Name.endsSolid (name : String) : Bool :=
  (normalize name).toList.getLast?.any (!isBlank ·)

theorem Name.endsSolid_iff {name : String} :
    endsSolid name = true ↔
      ∃ c ∈ (normalizeChars name.toList).getLast?, isBlank c = false := by
  rw [endsSolid, toList_normalize, Option.any_eq_true]
  refine exists_congr fun c => and_congr_right fun _ => ?_
  rw [Bool.not_eq_true']

/-- A name that does not end solidly is empty or ends in white space. -/
theorem Name.endsSolid_eq_false_iff {name : String} :
    endsSolid name = false ↔ normalizeChars name.toList = [] ∨
      ∃ c ∈ (normalizeChars name.toList).getLast?, isBlank c = true := by
  rw [endsSolid, toList_normalize]
  cases hlast : (normalizeChars name.toList).getLast? with
  | none =>
    have hnil := List.getLast?_eq_none_iff.mp hlast
    exact ⟨fun _ => .inl hnil, fun _ => rfl⟩
  | some c =>
    have hne : normalizeChars name.toList ≠ [] := by
      intro hnil
      rw [hnil] at hlast
      exact nomatch hlast
    rw [Option.any_some, Bool.not_eq_false']
    constructor
    · exact fun hc => .inr ⟨c, rfl, hc⟩
    · rintro (hnil | ⟨c', hc', hblank⟩)
      · exact absurd hnil hne
      · exact Option.some.inj hc' ▸ hblank

/-- Of two spellings that are not trimmed alike, one is not trimmed like a third. -/
theorem exists_ne_of_ne {α β γ : Type} (spelling : α → β) (trimmed : α → γ) {x y : α} {b : β}
    (hx : spelling x = b) (hy : spelling y = b) (h : trimmed x ≠ trimmed y) (c : γ) :
    ∃ z, spelling z = b ∧ c ≠ trimmed z := by
  by_cases hc : c = trimmed x
  · exact ⟨y, hy, fun heq => h (hc.symm.trans heq)⟩
  · exact ⟨x, hx, hc⟩

namespace Name

/-- Whether all spellings of a host name are the same when trimmed. -/
def isTidy (name : String) : Bool :=
  isBlankText (normalize name) || endsSolid name

/-- Tidy names are trimmed alike. -/
theorem normalize_trim_eq {x y : String} (htidy : isTidy x = true)
    (h : normalize x = normalize y) : normalize (trim x) = normalize (trim y) := by
  rw [normalize_eq_iff] at h ⊢
  rw [toList_trim, toList_trim]
  rw [isTidy, Bool.or_eq_true, isBlankText, toList_normalize, List.all_eq_true,
    endsSolid_iff] at htidy
  rcases htidy with hblank | hsolid
  · rw [normalizeChars_strip_of_blank hblank, normalizeChars_strip_of_blank (h ▸ hblank)]
  · rw [normalizeChars_strip hsolid, normalizeChars_strip (h ▸ hsolid), h]

/-- A name that is not tidy has a spelling that is not trimmed like it. -/
theorem exists_normalize_trim_ne {x : String} (htidy : isTidy x = false) :
    ∃ y, normalize x = normalize y ∧ normalize (trim x) ≠ normalize (trim y) := by
  rw [isTidy, Bool.or_eq_false_iff, isBlankText, toList_normalize, List.all_eq_false,
    endsSolid_eq_false_iff] at htidy
  obtain ⟨⟨c, hc, hsolid⟩, hend⟩ := htidy
  have hlast := hend.resolve_left (List.ne_nil_of_mem hc)
  obtain ⟨xs, ys, hxs, hys, hne⟩ :=
    exists_normalizeChars_strip_ne ⟨c, hc, Bool.eq_false_iff.mpr hsolid⟩ hlast
  obtain ⟨zs, hzs, hzne⟩ := exists_ne_of_ne normalizeChars
    (fun cs => normalizeChars (strip isBlank cs)) hxs hys hne
    (normalizeChars (strip isBlank x.toList))
  refine ⟨String.ofList zs, ?_, ?_⟩
  · rw [normalize_eq_iff, String.toList_ofList, hzs]
  · rw [Ne, normalize_eq_iff, toList_trim, toList_trim, String.toList_ofList]
    exact hzne

/-- All spellings of a host name are the same when trimmed exactly if it is tidy. -/
theorem normalize_trim_agrees_iff {x : String} :
    (∀ y, normalize x = normalize y → normalize (trim x) = normalize (trim y)) ↔
      isTidy x = true := by
  constructor
  · intro h
    by_contra htidy
    obtain ⟨y, hy, hne⟩ := exists_normalize_trim_ne (Bool.eq_false_iff.mpr htidy)
    exact hne (h y hy)
  · exact fun htidy _ => normalize_trim_eq htidy

theorem isBlank_of_isHostChar {c : Char} (h : isHostChar c = true) : isBlank c = false := by
  rw [isHostChar, Char.isAlphanum, Bool.or_eq_true, Bool.or_eq_true, Bool.or_eq_true,
    decide_eq_true_eq, decide_eq_true_eq] at h
  rcases h with ((halpha | hdigit) | rfl) | rfl
  · exact isBlank_of_isAlpha halpha
  · exact isBlank_of_isDigit hdigit
  · decide
  · decide

/-- Names of host characters are tidy: none of these is white space. -/
theorem isTidy_of_isHostText {x : String} (h : isHostText x = true) : isTidy x = true := by
  rw [isHostText, Bool.and_eq_true, List.all_eq_true] at h
  have hsolid : ∀ c ∈ normalizeChars x.toList, isBlank c = false := by
    intro c hc
    obtain ⟨c', hc', rfl⟩ := List.mem_map.mp hc
    rw [isBlank_toLower]
    exact isBlank_of_isHostChar (h.2 c' ((List.rdropWhile_prefix _ _).subset hc'))
  rw [isTidy, Bool.or_eq_true]
  cases hlast : (normalizeChars x.toList).getLast? with
  | none =>
    left
    rw [isBlankText, toList_normalize, List.getLast?_eq_none_iff.mp hlast]
    rfl
  | some c =>
    right
    exact endsSolid_iff.mpr ⟨c, hlast, hsolid c (List.mem_of_getLast? hlast)⟩

end Name

/-- All spellings of a text are the same when trimmed exactly if there is no white space at its ends
    within the quotes. -/
theorem unquote_trim_agrees_iff {x : String} :
    (∀ y, unquote x = unquote y → unquote (trim x) = unquote (trim y)) ↔
      trim (unquote x) = unquote x := by
  have hunquote : ∀ s t : String, unquote s = unquote t ↔
      strip (· = '\x22') s.toList = strip (· = '\x22') t.toList := fun s t => by
    rw [← String.toList_inj, toList_unquote, toList_unquote]
  have htidy : trim (unquote x) = unquote x ↔
      strip isBlank (strip (· = '\x22') x.toList) = strip (· = '\x22') x.toList := by
    rw [← String.toList_inj, toList_trim, toList_unquote]
  constructor
  · intro h
    by_contra hne
    obtain ⟨xs, ys, hxs, hys, hxy⟩ := exists_strip_quotes_ne fun heq => hne (htidy.mpr heq)
    obtain ⟨zs, hzs, hzne⟩ := exists_ne_of_ne (fun cs => strip (· = '\x22') cs)
      (fun cs => strip (· = '\x22') (strip isBlank cs)) hxs hys hxy
      (strip (· = '\x22') (strip isBlank x.toList))
    have hspelling : unquote x = unquote (String.ofList zs) := by
      rw [hunquote, String.toList_ofList, hzs]
    have htrim := h _ hspelling
    rw [hunquote, toList_trim, toList_trim, String.toList_ofList] at htrim
    exact hzne htrim
  · intro hx y hy
    have hself : ∀ s, trim (unquote s) = unquote s → trim s = s := by
      intro s hs
      rw [← String.toList_inj, toList_trim, toList_unquote] at hs
      rw [← String.toList_inj, toList_trim, strip_isBlank_of_unquoted hs]
    rw [hself x hx, hself y (hy ▸ hx), hy]

/-- The answer for a mail record. -/
def mailAnswer (preference : UInt16) (exchange : String) : String :=
  Nat.repr preference.toNat ++ " " ++ exchange

/-- Mail answers are the same when there are two exchanges to compare, and these, trimmed, and the
    preferences are the same. -/
theorem answerMatches_mailAnswer_iff {p q : UInt16} {x y : String} :
    RecordType.mx.answerMatches (mailAnswer p x) (mailAnswer q y) = true ↔
      isBlankText x = false ∧ isBlankText y = false ∧
        p = q ∧ Name.normalize (trim x) = Name.normalize (trim y) := by
  simp only [RecordType.answerMatches, RecordType.sameAnswer, mailAnswer, splitPreference?_trim]
  cases isBlankText x <;> cases isBlankText y <;> simp

/-- A name that ends solidly is more than white space, however it is written. -/
theorem Name.isBlankText_of_endsSolid {x : String} (h : endsSolid x = true) :
    isBlankText x = false := by
  obtain ⟨c, hc, hsolid⟩ := endsSolid_iff.mp h
  obtain ⟨c', hc', hsolid'⟩ := exists_isBlank_eq_false (List.mem_of_getLast? hc) hsolid
  rw [isBlankText, List.all_eq_false]
  exact ⟨c', (List.rdropWhile_prefix _ _).subset hc', Bool.eq_false_iff.mp hsolid'⟩

/-- A name of white space, with whatever dots behind it, may be written without the dots. -/
theorem Name.exists_isBlankText {x : String} (h : isBlankText (normalize x) = true) :
    ∃ y, normalize x = normalize y ∧ isBlankText y = true := by
  rw [isBlankText, toList_normalize, List.all_eq_true] at h
  refine ⟨String.ofList (stripEnd (· = '.') x.toList), ?_, ?_⟩
  · rw [normalize_eq_iff, String.toList_ofList, normalizeChars_stripEnd]
  · rw [isBlankText, String.toList_ofList, List.all_eq_true]
    intro c hc
    rw [← isBlank_toLower]
    exact h _ (List.mem_map_of_mem hc)

/-- All spellings of an exchange have the same answer exactly if it ends solidly. -/
theorem mail_agrees_iff {p : UInt16} {x : String} :
    (∀ y, Name.normalize x = Name.normalize y →
      RecordType.mx.answerMatches (mailAnswer p x) (mailAnswer p y) = true) ↔
      Name.endsSolid x = true := by
  constructor
  · intro h
    by_contra hend
    rw [Bool.not_eq_true] at hend
    cases hblank : isBlankText (Name.normalize x) with
    | true =>
      -- The spelling without dots has no exchange that could be compared.
      obtain ⟨y, hy, hyblank⟩ := Name.exists_isBlankText hblank
      have hfalse := (answerMatches_mailAnswer_iff.mp (h y hy)).2.1
      rw [hyblank] at hfalse
      exact nomatch hfalse
    | false =>
      obtain ⟨y, hy, hne⟩ := Name.exists_normalize_trim_ne (x := x) (by
        rw [Name.isTidy, hblank, hend]
        rfl)
      exact hne (answerMatches_mailAnswer_iff.mp (h y hy)).2.2.2
  · intro hend y hy
    have hend' : Name.endsSolid y = true := by
      rw [Name.endsSolid, ← hy]
      exact hend
    have htidy : Name.isTidy x = true := by
      rw [Name.isTidy, hend, Bool.or_true]
    exact answerMatches_mailAnswer_iff.mpr ⟨Name.isBlankText_of_endsSolid hend,
      Name.isBlankText_of_endsSolid hend', rfl, Name.normalize_trim_eq htidy hy⟩

/-! ### Contents of all types -/

namespace RecordType

/-- The answer for a content; a mail record has its preference in front. -/
def answerFor (type : RecordType) (preference : UInt16) (text : String) : String :=
  match type with
  | .mx => mailAnswer preference text
  | _ => text

/-- Whether all contents that say the same are the same answer when trimmed. -/
def isTidy (type : RecordType) (text : String) : Bool :=
  match type with
  | .aaaa => (Ipv6.parse? (trim text)).isSome
  | .cname | .ns => Name.isTidy text
  | .txt => trim (unquote text) = unquote text
  | .mx => Name.endsSolid text
  | _ => true

/-- The same for an address. -/
theorem aaaa_agrees_iff {x : String} :
    (∀ y, aaaa.sameContent x y = true → aaaa.answerMatches x y = true) ↔
      (Ipv6.parse? (trim x)).isSome = true := by
  have hself : aaaa.answerMatches x x = true ↔ (Ipv6.parse? (trim x)).isSome = true := by
    simp only [answerMatches, sameAnswer]
    cases Ipv6.parse? (trim x) <;> simp
  constructor
  · exact fun h => hself.mp (h x (sameContent_refl _ x))
  · intro hx y hy
    simp only [sameContent] at hy
    split at hy
    · rename_i v w hv hw
      rw [decide_eq_true_eq] at hy
      simp only [answerMatches, sameAnswer, Ipv6.trim_eq_self hv, Ipv6.trim_eq_self hw, hv, hw, hy,
        decide_true]
    · rw [decide_eq_true_eq] at hy
      exact hy ▸ hself.mpr hx

/-- **Agreement on contents.** All contents that say the same as one are given as the same answer
    exactly if this one is tidy. -/
theorem answerMatches_agrees_iff {type : RecordType} {p : UInt16} {x : String} :
    (∀ y, type.sameContent x y = true →
      type.answerMatches (type.answerFor p x) (type.answerFor p y) = true) ↔
      type.isTidy x = true := by
  -- Contents that are compared as they stand are one text.
  have hplain : (∀ y, decide (x = y) = true → decide (trim x = trim y) = true) ↔ true = true := by
    refine iff_true_right rfl |>.mpr fun y hy => ?_
    rw [of_decide_eq_true hy]
    exact decide_eq_true rfl
  cases type with
  | a => exact hplain
  | aaaa =>
    simp only [answerFor, isTidy]
    exact aaaa_agrees_iff
  | cname =>
    simp only [answerFor]
    simp only [sameContent, answerMatches, sameAnswer, isTidy, decide_eq_true_eq]
    exact Name.normalize_trim_agrees_iff
  | mx =>
    simp only [answerFor, sameContent, isTidy, decide_eq_true_eq]
    exact mail_agrees_iff
  | txt =>
    simp only [answerFor]
    simp only [sameContent, answerMatches, sameAnswer, isTidy, decide_eq_true_eq]
    exact unquote_trim_agrees_iff
  | srv => exact hplain
  | ns =>
    simp only [answerFor]
    simp only [sameContent, answerMatches, sameAnswer, isTidy, decide_eq_true_eq]
    exact Name.normalize_trim_agrees_iff
  | caa => exact hplain
  | other name => exact hplain

/-- The preference only matters for mail. -/
theorem answerFor_congr {type : RecordType} {p q : UInt16} (h : type = .mx → p = q)
    (text : String) : type.answerFor p text = type.answerFor q text := by
  cases type with
  | mx => rw [h rfl]
  | _ => rfl

end RecordType

/-! ### Records -/

namespace Record

/-- Whether trimming loses nothing of what a record says. -/
def isTidy (r : Record) : Bool := r.content?.all r.type.isTidy

/-- Whether what resolvers should answer for `l` is the expected answer for `r`. -/
def isAnsweredBy (r l : Record) : Bool :=
  match r.expectedAnswer?, l.expectedAnswer? with
  | some x, some y => r.type.answerMatches x y
  | _, _ => false

variable {r : Record} {text : String}

theorem exists_of_isAnsweredBy {l : Record} (h : r.isAnsweredBy l = true) :
    ∃ x y, r.expectedAnswer? = some x ∧ l.expectedAnswer? = some y ∧
      r.type.answerMatches x y = true := by
  unfold isAnsweredBy at h
  split at h
  · rename_i x y hx hy
    exact ⟨x, y, hx, hy, h⟩
  · exact nomatch h

theorem content?_of_content (h : r.value = .content text) : r.content? = some text := by
  rw [content?, h]

theorem expectedAnswer?_of_content (h : r.value = .content text) (htype : r.type ≠ .srv) :
    r.expectedAnswer? = some (r.type.answerFor (r.priority.getD 0) text) := by
  have hcontent := content?_of_content h
  unfold expectedAnswer?
  cases hr : r.type with
  | srv => exact absurd hr htype
  | mx => exact congrArg (Option.map _) hcontent
  | _ => exact hcontent

/-- **Agreement on records.** The records that say the same as one with a flat content are answered
    as it should be answered exactly if it is tidy. -/
theorem isAnsweredBy_agrees_iff (h : r.value = .content text) (htype : r.type ≠ .srv)
    (domain : String) :
    (∀ l : LiveRecord, l.key = r.keyIn domain → r.sameValue l.record = true →
      r.isAnsweredBy l.record = true) ↔ r.isTidy = true := by
  have htidy : r.isTidy = r.type.isTidy text := by
    rw [isTidy, content?_of_content h]
    rfl
  rw [htidy, ← RecordType.answerMatches_agrees_iff (p := r.priority.getD 0)]
  constructor
  · intro hall y hy
    -- The record itself, with the other content, is a live one.
    have hvalue : ({ r.qualified domain with value := .content y } : Record).value =
      .content y := rfl
    have hsame : r.sameValue { r.qualified domain with value := .content y } = true :=
      (sameValue_iff_of_content h).mpr ⟨rfl, y, rfl, hy, fun _ => rfl⟩
    have hanswered := hall ⟨"", { r.qualified domain with value := .content y }⟩ rfl hsame
    rw [isAnsweredBy, expectedAnswer?_of_content h htype,
      expectedAnswer?_of_content hvalue htype] at hanswered
    exact hanswered
  · intro hall l hkey hsame
    obtain ⟨_, y, hvalue, hy, hpriority⟩ := (sameValue_iff_of_content h).mp hsame
    have htypes : l.record.type = r.type := congrArg RecordKey.type hkey
    have hanswer : r.type.answerFor (l.record.priority.getD 0) y =
        r.type.answerFor (r.priority.getD 0) y :=
      RecordType.answerFor_congr (fun hmx => by rw [hpriority hmx]) y
    rw [isAnsweredBy, expectedAnswer?_of_content h htype,
      expectedAnswer?_of_content hvalue (htypes ▸ htype), htypes, hanswer]
    exact hall y hy

/-- Addresses and aliases that were checked are tidy. -/
theorem isTidy_of_parsesTo {e : Entry} (h : e.ParsesTo r) (htype : r.type ≠ .srv)
    (hchecked : r.type ∉ [RecordType.mx, .txt, .ns]) : r.isTidy = true := by
  obtain ⟨text, hvalue, hv6, hhost⟩ := h.content htype
  rw [isTidy, content?_of_content hvalue, Option.all_some]
  cases hr : r.type with
  | aaaa =>
    obtain ⟨a, ha⟩ := Option.isSome_iff_exists.mp (hv6 hr)
    rw [RecordType.isTidy, Ipv6.trim_eq_self ha, ha]
    rfl
  | cname => exact Name.isTidy_of_isHostText (hhost hr)
  | mx => exact absurd (by rw [hr]; decide) hchecked
  | txt => exact absurd (by rw [hr]; decide) hchecked
  | ns => exact absurd (by rw [hr]; decide) hchecked
  | _ => rfl

end Record

/-! ### Declared records -/

/-- **Agreement.** The live records that are left alone for a declared record are answered as it
    should be answered exactly if it is tidy, which all records but those of mail, texts and name
    servers are. Resolvers that serve such a live record for a tidy one show it to be visible. -/
theorem declared_agreement {d : Document} {s : DesiredState} (hload : d.load = .ok s) {r : Record}
    (hr : r ∈ s.records) (htype : r.type ≠ .srv) :
    ((∀ l : LiveRecord, l.key = r.keyIn s.domain → r.sameValue l.record = true →
        r.isAnsweredBy l.record = true) ↔ r.isTidy = true) ∧
      (r.type ∉ [RecordType.mx, .txt, .ns] → r.isTidy = true) ∧
      (r.isTidy = true → ∀ {m : Type → Type} [Monad m] [LawfulMonad m] (v : Verifier m)
        (l : LiveRecord), l.key = r.keyIn s.domain → r.sameValue l.record = true →
        (∀ rs ∈ v.resolvers, ∃ answer, l.record.expectedAnswer? = some answer ∧
          rs.Serves (Name.qualify r.name s.domain) r.type answer) →
        Always (fun report => ∀ res ∈ report.results,
          res.key = r.keyIn s.domain → res.verdict = .propagated) (v.verify s)) := by
  have hloaded := Document.loaded_of_load hload
  obtain ⟨e, he⟩ := hloaded.exists_parsesTo hr
  obtain ⟨text, hvalue, _⟩ := he.content htype
  have hagrees := Record.isAnsweredBy_agrees_iff hvalue htype s.domain
  refine ⟨hagrees, Record.isTidy_of_parsesTo he htype, ?_⟩
  intro htidy m _ _ v l hkey hsame hserves
  obtain ⟨expected, answer, hexpected, hanswer, hmatches⟩ :=
    Record.exists_of_isAnsweredBy (hagrees.mpr htidy l hkey hsame)
  refine v.always_verify hloaded.keys hr hexpected hmatches fun rs hrs => ?_
  obtain ⟨answer', hanswer', hserved⟩ := hserves rs hrs
  rw [Option.some.inj (hanswer.symm.trans hanswer')]
  exact hserved

/-- The text of the example document is tidy, and is answered as it should be by all live records
    that are left alone for it. -/
theorem declared_agreement_wwwState :
    ∃ r : Record, wwwDocument.load = .ok wwwState ∧ r ∈ wwwState.records ∧ r.type ≠ .srv ∧
      r.isTidy = true ∧ ∀ l : LiveRecord, l.key = r.keyIn wwwState.domain →
        r.sameValue l.record = true → r.isAnsweredBy l.record = true := by
  have hload : wwwDocument.load = .ok wwwState := rfl
  have hr : ({ name := "@", type := .txt, value := .content "hello" } : Record) ∈
      wwwState.records := by decide
  exact ⟨_, hload, hr, by decide, by decide,
    (declared_agreement hload hr (by decide)).1.mpr (by decide)⟩

/-- A document with a text that has white space within its quotes. -/
def noteDocument : Document where
  domain := some (.string "example.com")
  frontend := [{ name := some (.string "note"), type := some (.string "TXT"),
                 content := some (.string "\x22 x \x22") }]

/-- The record of this document. -/
def noteRecord : Record where
  name := "note"
  type := .txt
  value := .content "\x22 x \x22"

/-- The same text as it may be stored, without the quotes. -/
def noteLive : LiveRecord where
  id := "1"
  record := { name := "note.example.com", type := .txt, value := .content " x " }

/-- Nothing is changed for this text, but it is never answered as it should be: white space is only
    trimmed where no quotes keep it. -/
theorem not_isAnsweredBy_noteLive :
    noteDocument.load = .ok ⟨"example.com", [⟨⟨.frontend, 0⟩, noteRecord⟩]⟩ ∧
      noteRecord.type ≠ .srv ∧ noteLive.key = noteRecord.keyIn "example.com" ∧
      noteRecord.sameValue noteLive.record = true ∧
      noteRecord.isAnsweredBy noteLive.record = false := by
  refine ⟨rfl, ?_, ?_, ?_, ?_⟩
  · decide
  · decide
  · decide
  · decide

end ZoneSync
