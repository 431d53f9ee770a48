import ZoneSync.Cloudflare.Payload
import ZoneSync.Proofs.Document.Acceptance
import ZoneSync.Proofs.Propagation.Agreement
import ZoneSync.Proofs.Yaml.Integers
import ZoneSync.Proofs.Yaml.Reading

namespace ZoneSync

open Yaml Yaml.Reading

/-!
# Integers as contents

The content of a text, mail or name server record may be written without quotes, and what is written
so may be an integer. The document then has the integer, not its form, and the record gets the text
that the integer has in decimal digits. That is what was written for plain forms only.

* `Yaml.Document.contentNode?`, `plainContent?` — what is written as the content of an entry;
* `exists_of_contentNode?` — an entry has the value of what is written;
* `Record.Publishes`, `KeepsIntegers` — the text that goes out for a record, and documents whose
  integers go out as they are written;
* `publishes_integer` — which text goes out for an integer, and when it is the one written.
-/

/-! ### What is written -/

/-- The node of the content of the entry at a place. -/
def Yaml.Document.contentNode? (doc : Yaml.Document) (l : Location) : Option (Node Nat) := do
  let root ← doc.root
  let entries ← root.field? doc.anchors l.part.name
  let entry ← entries.item? doc.anchors l.index
  let content ← entry.field? doc.anchors "content"
  content.target? doc.anchors

/-- What is written without quotes as the content of the entry at a place of a text. -/
def plainContent? (text : String) (l : Location) : Option String :=
  match Yaml.Document.ofText text with
  | .ok doc =>
    match doc.contentNode? l with
    | some (.scalar _ word true) => some word
    | _ => none
  | .error _ => none

/-! ### What is read -/

variable {anchors : List (Nat × Node Nat)}

/-- The content of an entry is read from its field. -/
theorem Entry.exists_of_gives_ofNode {room : Nat} {node : Option (Node Nat)} {e : Entry}
    (h : Gives anchors (Entry.ofNode room node) e) :
    ∃ found, Gives anchors (readFields Entry.fieldNames node) found ∧
      Gives anchors (readField found "content" (readValue room)) e.content := by
  obtain ⟨found, hfound, h⟩ := h.bind
  obtain ⟨name, _, h⟩ := h.bind
  obtain ⟨type, _, h⟩ := h.bind
  obtain ⟨content, hcontent, h⟩ := h.bind
  obtain ⟨ttl, _, h⟩ := h.bind
  obtain ⟨proxied, _, h⟩ := h.bind
  obtain ⟨comment, _, h⟩ := h.bind
  obtain ⟨priority, _, h⟩ := h.bind
  obtain ⟨weight, _, h⟩ := h.bind
  obtain ⟨port, _, h⟩ := h.bind
  obtain ⟨target, _, h⟩ := h.bind
  rw [← h.pure]
  exact ⟨found, hfound, hcontent⟩

/-- The entries of a section are read from its field. -/
theorem Document.exists_of_gives_ofNode {node : Option (Node Nat)} {d : Document}
    (h : Gives anchors (Document.ofNode node) d) (part : Section) :
    ∃ found entries, Gives anchors (readFields Document.fieldNames node) found ∧
      Gives anchors (readField found part.name
        (readItems fun node => Entry.ofNode (maxDepth - 3) (some node))) entries ∧
      d.entriesOf part = entries.getD [] := by
  obtain ⟨found, hfound, h⟩ := h.bind
  obtain ⟨domain, _, h⟩ := h.bind
  obtain ⟨frontend, hfrontend, h⟩ := h.bind
  obtain ⟨backend, hbackend, h⟩ := h.bind
  obtain ⟨bootstrap, hbootstrap, h⟩ := h.bind
  obtain ⟨srv, hsrv, h⟩ := h.bind
  rw [← h.pure]
  cases part with
  | frontend =>
    obtain ⟨entries, hentries, h⟩ := hfrontend.bind
    exact ⟨found, entries, hfound, hentries, h.pure.symm⟩
  | backend =>
    obtain ⟨entries, hentries, h⟩ := hbackend.bind
    exact ⟨found, entries, hfound, hentries, h.pure.symm⟩
  | bootstrap =>
    obtain ⟨entries, hentries, h⟩ := hbootstrap.bind
    exact ⟨found, entries, hfound, hentries, h.pure.symm⟩
  | srv =>
    obtain ⟨entries, hentries, h⟩ := hsrv.bind
    exact ⟨found, entries, hfound, hentries, h.pure.symm⟩

/-- The content of an entry is the value of its node. -/
theorem exists_of_contentNode? {doc : Yaml.Document} {d : Document} {l : Location} {e : Entry}
    {v : Value} {node : Node Nat} (hd : Gives doc.anchors (Document.ofNode doc.root) d)
    (he : d.entryAt? l = some e) (hv : e.content = some v)
    (hnode : doc.contentNode? l = some node) :
    ∃ room, Gives doc.anchors (readValue room node) v := by
  simp only [Yaml.Document.contentNode?, Option.bind_eq_bind, Option.bind_eq_some_iff] at hnode
  obtain ⟨root, hroot, entries, hentries, entry, hentry, content, hcontent, hnode⟩ := hnode
  rw [hroot] at hd
  obtain ⟨found, values, hfound, hvalues, hpart⟩ := Document.exists_of_gives_ofNode hd l.part
  have hnames : l.part.name ∈ Document.fieldNames := by
    cases l.part <;> decide
  -- The entries of the section are the values of the items of its node.
  cases values with
  | none =>
    rw [Document.entryAt?, hpart] at he
    exact nomatch he
  | some values =>
    obtain ⟨list, target, hlist, htarget, hitems⟩ := exists_of_gives_readField hvalues
    rw [find?_of_gives_readFields hnames hfound, hentries] at hlist
    obtain ⟨_, rfl⟩ := Prod.mk.inj (Option.some.inj hlist)
    rw [Document.entryAt?, hpart] at he
    obtain ⟨item, hitem, hread⟩ := exists_of_gives_readItems hitems he
    rw [Node.item?_of_target? htarget hentry] at hitem
    obtain rfl := Option.some.inj hitem
    obtain ⟨fields, hfields, hfield⟩ := Entry.exists_of_gives_ofNode hread
    rw [hv] at hfield
    obtain ⟨value, target, hvalue, htarget, hvalueRead⟩ := exists_of_gives_readField hfield
    rw [find?_of_gives_readFields (by decide) hfields, hcontent] at hvalue
    obtain ⟨_, rfl⟩ := Prod.mk.inj (Option.some.inj hvalue)
    rw [hnode] at htarget
    obtain rfl := Option.some.inj htarget
    exact ⟨_, hvalueRead⟩

/-- An integer without quotes writes the integer that an entry has as its content. -/
theorem integerLiteral?_of_plainContent? {text word : String} {d : Document} {l : Location}
    {e : Entry} {n : Int} (hd : Document.ofText text = .ok d)
    (hword : plainContent? text l = some word) (he : d.entryAt? l = some e)
    (hn : e.content = some (.number (.integer n))) : integerLiteral? word.toList = some n := by
  unfold Document.ofText at hd
  split at hd
  · exact nomatch hd
  · split at hd
    · rename_i document hrun
      obtain rfl := Except.ok.inj hd
      unfold plainContent? at hword
      split at hword
      · rename_i doc hdoc
        rw [hdoc] at hrun
        split at hword
        · rename_i hnode
          obtain rfl := Option.some.inj hword
          obtain ⟨room, hread⟩ := exists_of_contentNode? (gives_of_run hrun) he hn hnode
          exact integerLiteral?_of_gives_readValue hread
        · exact nomatch hword
      · exact nomatch hword
    · exact nomatch hd

/-! ### What goes out -/

/-- The entry at a place has an integer as its content. -/
def Document.HoldsInteger (d : Document) (l : Location) (n : Int) : Prop :=
  ∃ e, d.entryAt? l = some e ∧ e.content = some (.number (.integer n))

namespace Record

/-- A text goes out for a record of a domain: it is the content, it is sent as the content, and the
    answer with it is the one that is expected. -/
structure Publishes (r : Record) (domain text : String) : Prop where
  content : r.content? = some text
  payload : (Cloudflare.Payload.ofRecord (r.qualified domain)).content = some text
  answer : r.expectedAnswer? = some (r.type.answerFor (r.priority.getD 0) text)

/-- One text goes out for a record with a flat content. -/
theorem publishes_iff {r : Record} {domain text content : String}
    (hvalue : r.value = .content content) (htype : r.type ≠ .srv) :
    r.Publishes domain text ↔ text = content := by
  have hcontent := content?_of_content hvalue
  constructor
  · intro h
    exact Option.some.inj (h.content.symm.trans hcontent)
  · rintro rfl
    exact ⟨hcontent, hcontent, expectedAnswer?_of_content hvalue htype⟩

end Record

/-- The types whose contents may be any text. -/
def freeTypes : List RecordType := [.txt, .mx, .ns]

/-- An entry of a type whose content may be any text describes the text of its integer. -/
theorem Entry.Describes.value_of_integer {e : Entry} {domain : String} {r : Record} {n : Int}
    (h : e.Describes domain r) (htype : r.type ∈ freeTypes)
    (hn : e.content = some (.number (.integer n))) : r.value = .content (toString n) := by
  have htext : ∀ {text : String}, HoldsText e.content text → text = toString n := by
    rintro text (hstring | ⟨m, hm, rfl⟩)
    · rw [hn] at hstring
      exact nomatch hstring
    · rw [hn] at hm
      obtain rfl := Value.number.inj (Option.some.inj hm)
      rfl
  have hvalue := h.value
  generalize r.type = type at htype hvalue
  generalize r.value = value at hvalue
  generalize r.priority = priority at hvalue
  cases hvalue with
  | mx hcontent => rw [htext hcontent]
  | txt hcontent => rw [htext hcontent]
  | ns hcontent => rw [htext hcontent]
  | a => exact absurd htype (by decide)
  | aaaa => exact absurd htype (by decide)
  | cname => exact absurd htype (by decide)
  | srv => exact absurd htype (by decide)

/-- The integers that a text has as contents go out as they are written. -/
def KeepsIntegers (text : String) : Prop :=
  ∀ (d : Document) (s : DesiredState) (declared : DeclaredRecord) (word : String) (n : Int),
    Document.ofText text = .ok d → d.load = .ok s → declared ∈ s.declared →
    declared.record.type ∈ freeTypes → plainContent? text declared.location = some word →
    d.HoldsInteger declared.location n → declared.record.Publishes s.domain word

/-- **Integers as contents.** When the content of a declared text, mail or name server record is
    written without quotes and is an integer, the text that goes out is the integer in decimal
    digits. It is what is written exactly if that is in decimal digits, without a plus sign and
    without a minus sign for zero. -/
theorem publishes_integer {text word : String} {d : Document} {s : DesiredState}
    {declared : DeclaredRecord} {n : Int} (hd : Document.ofText text = .ok d)
    (hs : d.load = .ok s) (hdeclared : declared ∈ s.declared)
    (htype : declared.record.type ∈ freeTypes)
    (hword : plainContent? text declared.location = some word)
    (hn : d.HoldsInteger declared.location n) :
    ∃ x : IntegerForm, x.text = word.toList ∧ x.Writes n ∧
      (∀ content, declared.record.Publishes s.domain content ↔ content = toString n) ∧
      (declared.record.Publishes s.domain word ↔ x.isPlain = true) := by
  obtain ⟨e, he, hcontent⟩ := hn
  have hloaded := Document.loaded_of_load hs
  obtain ⟨p, hp, hlocation, hparse⟩ := hloaded.exists_entry hdeclared
  have hentry := Document.entryAt?_of_mem_entries hp
  rw [← hlocation, he] at hentry
  obtain rfl := Option.some.inj hentry
  have hvalue := (Entry.parse_eq_ok_iff_describes.mp hparse).value_of_integer htype hcontent
  have hsrv : declared.record.type ≠ .srv := fun h => absurd (h ▸ htype) (by decide)
  obtain ⟨x, hx, hwrites⟩ :=
    integerLiteral?_eq_some_iff.mp (integerLiteral?_of_plainContent? hd hword he hcontent)
  refine ⟨x, hx, hwrites, fun content => Record.publishes_iff hvalue hsrv, ?_⟩
  rw [Record.publishes_iff hvalue hsrv, ← IntegerForm.toString_eq_iff hwrites, hx,
    String.ofList_toList, eq_comm]

/-! ### A hexadecimal integer -/

/-- A text record with an integer in hexadecimal digits. -/
def hexNoteText : String :=
  "domain: example.com\nfrontend:\n- name: note\n  type: TXT\n  content: 0x10\n"

/-- What the text record is declared as. -/
def hexNoteState : DesiredState :=
  ⟨"example.com", [⟨⟨.frontend, 0⟩,
    { name := "note", type := .txt, value := .content "16", ttl := .auto }⟩]⟩

/-- The integer that a value is. -/
def Yaml.Value.integer? : Value → Option Int
  | .number (.integer n) => some n
  | _ => none

theorem Yaml.Value.eq_of_integer? {v : Value} {n : Int} (h : v.integer? = some n) :
    v = .number (.integer n) := by
  unfold integer? at h
  split at h
  · rw [Option.some.inj h]
  · exact nomatch h

theorem exists_hexNote :
    ∃ d, Document.ofText hexNoteText = .ok d ∧ d.load = .ok hexNoteState ∧
      d.HoldsInteger ⟨.frontend, 0⟩ 16 := by
  have hread : ((Document.ofText hexNoteText).toOption.bind fun d =>
      d.load.toOption.bind fun s => (d.entryAt? ⟨.frontend, 0⟩).bind fun e =>
        (e.content.bind Value.integer?).map fun n => (s, n)) = some (hexNoteState, 16) := by
    decide +kernel
  simp only [Option.bind_eq_some_iff, Option.map_eq_some_iff, Prod.mk.injEq] at hread
  obtain ⟨d, hd, s, hs, e, he, n, ⟨v, hv, hn⟩, rfl, rfl⟩ := hread
  exact ⟨d, Document.toOption_eq_some_iff.mp hd, Document.toOption_eq_some_iff.mp hs, e, he,
    hv.trans (congrArg some (Value.eq_of_integer? hn))⟩

theorem plainContent?_hexNote : plainContent? hexNoteText ⟨.frontend, 0⟩ = some "0x10" := by
  decide +kernel

/-- The integer is written in hexadecimal digits, and goes out in decimal ones. -/
theorem publishes_integer_hexNote :
    ∃ d declared, Document.ofText hexNoteText = .ok d ∧ d.load = .ok hexNoteState ∧
      declared ∈ hexNoteState.declared ∧ declared.record.type ∈ freeTypes ∧
      plainContent? hexNoteText declared.location = some "0x10" ∧
      d.HoldsInteger declared.location 16 ∧
      ∃ x : IntegerForm, x.text = "0x10".toList ∧ x.Writes 16 ∧
        (∀ content, declared.record.Publishes "example.com" content ↔ content = toString 16) ∧
        (declared.record.Publishes "example.com" "0x10" ↔ x.isPlain = true) := by
  obtain ⟨d, hd, hs, hn⟩ := exists_hexNote
  have hmem : _ ∈ hexNoteState.declared := List.mem_singleton.mpr rfl
  exact ⟨d, _, hd, hs, hmem, by decide, plainContent?_hexNote, hn,
    publishes_integer hd hs hmem (by decide) plainContent?_hexNote hn⟩

/-- Not every integer goes out as it is written. -/
theorem not_keepsIntegers_hexNote : ¬ KeepsIntegers hexNoteText := by
  intro hkeeps
  obtain ⟨d, hd, hs, hn⟩ := exists_hexNote
  have hpublishes := hkeeps d hexNoteState _ "0x10" 16 hd hs (List.mem_singleton.mpr rfl)
    (by decide) plainContent?_hexNote hn
  exact absurd (Option.some.inj hpublishes.content) (by decide)

end ZoneSync
