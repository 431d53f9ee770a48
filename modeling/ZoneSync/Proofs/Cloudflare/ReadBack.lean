import ZoneSync.Cloudflare.Payload
import ZoneSync.Cloudflare.Wire
import ZoneSync.Proofs.Document.Loading
import ZoneSync.Proofs.Json.Fields
import ZoneSync.Proofs.Plan.Entries

namespace ZoneSync.Cloudflare

open Json

/-!
# Reading back what was sent

The body for a record and the reader of answers are written apart, with fields that are sent for
some types only. A body that is stored as it is and answered under an identifier is read back as
the record that it was made for, up to what it does not hold.

* `Payload.answer`, `Entry.ofJson?_of_isAnswerTo` — what is read of the answer to a body, whatever
  the order of its fields;
* `serviceOfJson?_serviceJson` — service data is read back;
* `readBack`, `toLive_answer_ofRecord` — the record that is read back;
* `readBack_of_isAnswerTo` — it is the same resource, says the same, and is left alone by the plans
  for a declaration of the record.
-/

/-- A document is the object of a body with an identifier as one more field, in any order. -/
def IsAnswerTo (body : Json) (id : String) (answer : Json) : Prop :=
  ∃ fields stored, body = ofFields fields ∧ answer = ofFields stored ∧
    stored.Perm (("id", ofText id) :: fields)

/-- What is read back for a record: the proxy setting as it is applied, for the types that can be
    proxied only, the preference of mail records only, and the provider's choice of time to live in
    place of the number that stands for it. -/
def readBack (r : Record) : Record :=
  { r with
    proxied := if r.type ∈ [.a, .aaaa, .cname] then some r.effectiveProxied else none
    priority := if r.type = .mx then r.priority else none
    ttl := if r.ttl = .seconds 1 then .auto else r.ttl }

/-! ### Bodies -/

namespace Payload

/-- The fields of a body. -/
def fields (p : Payload) : List (String × Json) :=
  [("type", ofText p.type), ("name", ofText p.name)] ++
    optional "content" ofText p.content ++
    [("ttl", ofNat p.ttl.toNat)] ++
    optional "proxied" .bool p.proxied ++
    optional "comment" ofText p.comment ++
    optional "priority" (fun n => ofNat n.toNat) p.priority ++
    optional "data" serviceJson p.data

theorem toJson_eq (p : Payload) : p.toJson = ofFields p.fields := rfl

variable {α : Type}

theorem map_fst_optional_sublist (key : String) (toJson : α → Json) (value : Option α) :
    ((optional key toJson value).map (·.1)).Sublist [key] := by
  cases value with
  | none => exact List.nil_sublist _
  | some x => exact List.Sublist.refl _

@[simp] theorem lookup_optional (key : String) (toJson : α → Json) (value : Option α)
    (key' : String) :
    lookup (optional key toJson value) key' = if key = key' then value.map toJson else none := by
  cases value with
  | none => simp [optional]
  | some x => simp [optional]

/-- No body has other fields than these, nor one of them twice. -/
theorem map_fst_fields_sublist (p : Payload) :
    (p.fields.map (·.1)).Sublist
      ["type", "name", "content", "ttl", "proxied", "comment", "priority", "data"] := by
  simp only [fields, List.map_append]
  exact (((((List.Sublist.refl ["type", "name"]).append
    (map_fst_optional_sublist "content" ..)).append (List.Sublist.refl ["ttl"])).append
    (map_fst_optional_sublist "proxied" ..)).append
    (map_fst_optional_sublist "comment" ..)).append
    (map_fst_optional_sublist "priority" ..) |>.append (map_fst_optional_sublist "data" ..)

/-- The answer to a body that is stored as it is. -/
def answer (p : Payload) (id : String) : Entry where
  id
  name := p.name
  type := p.type
  content := p.content
  ttl := some p.ttl
  proxied := p.proxied
  comment := p.comment
  priority := p.priority
  data := p.data.map serviceJson

end Payload

/-! ### Service data -/

theorem serviceOfJson?_serviceJson (d : Service) :
    serviceOfJson? (Payload.serviceJson d) = some d := by
  have hfields : (Payload.serviceJson d).lastWins.fieldsOf?
      ["priority", "weight", "port", "target"] = some ⟨[("priority", ofNat d.priority.toNat),
        ("weight", ofNat d.weight.toNat), ("port", ofNat d.port.toNat),
        ("target", ofText d.target)], false⟩ := rfl
  rw [serviceOfJson?, hfields]
  simp [Fields.required?, text?, ofText]

/-- Service data can be kept as a document. -/
theorem document?_serviceJson (d : Service) :
    document? 3 (Payload.serviceJson d) = some (Payload.serviceJson d) := by
  have hnumber : ∀ n : UInt16, (ofNat n.toNat).isStorable 123 = true := by
    intro n
    have hint : (Numeral.ofNat n.toNat).integer? = some (n.toNat : Int) :=
      Numeral.integer?_ofNat (Nat.lt_trans n.toNat_lt (by decide))
    rw [ofNat, isStorable, hint]
    rfl
  have hstorable : (Payload.serviceJson d).isStorable (maxNesting - 3) = true := by
    simp [Payload.serviceJson, ofFields, isStorable, areStorableFields, maxNesting, hnumber, ofText]
  rw [document?, if_pos hstorable]

/-! ### Answers -/

/-- An answer has the fields of the body under their keys, in whatever order they are answered. -/
theorem exists_fieldsOf?_of_isAnswerTo {p : Payload} {id : String} {j : Json}
    (h : IsAnswerTo p.toJson id j) :
    ∃ fs, j.fieldsOf? ["id", "name", "type", "content", "ttl", "proxied", "comment", "priority",
        "data"] = some fs ∧
      ∀ key, fs.get? key = lookup (("id", ofText id) :: p.fields) key := by
  obtain ⟨fields, stored, hbody, rfl, hperm⟩ := h
  obtain rfl : p.fields = fields := ofFields_injective (p.toJson_eq.symm.trans hbody)
  have hsublist := p.map_fst_fields_sublist.cons_cons "id"
  -- No field is repeated, so that their order does not matter.
  have hnodup : ((("id", ofText id) :: p.fields).map (·.1)).Nodup := hsublist.nodup (by decide)
  have hknown : ∀ f ∈ stored, f.1 ∈
      ["id", "name", "type", "content", "ttl", "proxied", "comment", "priority", "data"] := by
    intro f hf
    have hkey : f.1 ∈ "id" :: p.fields.map (·.1) :=
      List.mem_map.mpr ⟨f, hperm.mem_iff.mp hf, rfl⟩
    exact (by decide : ["id", "type", "name", "content", "ttl", "proxied", "comment", "priority",
      "data"] ⊆ _) (hsublist.subset hkey)
  exact ⟨_, fieldsOf?_ofFields hknown ((hperm.map _).nodup_iff.mpr hnodup),
    lookup_eq_of_perm hperm hnodup⟩

/-- A body that is stored as it is is read back. -/
theorem Entry.ofJson?_of_isAnswerTo {p : Payload} {id : String} {j : Json}
    (h : IsAnswerTo p.toJson id j) : Entry.ofJson? j = some (p.answer id) := by
  obtain ⟨fs, hfields, hget⟩ := exists_fieldsOf?_of_isAnswerTo h
  have hid : fs.required? "id" text? = some id := by
    rw [Fields.required?, hget]
    rfl
  have hname : fs.required? "name" text? = some p.name := by
    rw [Fields.required?, hget]
    rfl
  have htype : fs.required? "type" text? = some p.type := by
    rw [Fields.required?, hget]
    rfl
  have hcontent : fs.orElse? "content" none (nullable? text?) = some p.content := by
    refine Fields.orElse?_of_get? ofText (fun _ _ => rfl) ?_
    simp [hget, Payload.fields]
  have httl : fs.orElse? "ttl" none (nullable? uint32?) = some (some p.ttl) := by
    refine Fields.orElse?_of_get? (fun n : UInt32 => ofNat n.toNat)
      (fun n _ => nullable?_eq_some_some nofun (uint32?_ofNat n)) ?_
    simp [hget, Payload.fields]
  have hproxied : fs.orElse? "proxied" none (nullable? bool?) = some p.proxied := by
    refine Fields.orElse?_of_get? Json.bool (fun _ _ => rfl) ?_
    simp [hget, Payload.fields]
  have hcomment : fs.orElse? "comment" none (nullable? text?) = some p.comment := by
    refine Fields.orElse?_of_get? ofText (fun _ _ => rfl) ?_
    simp [hget, Payload.fields]
  have hpriority : fs.orElse? "priority" none (nullable? Json.uint16?) = some p.priority := by
    refine Fields.orElse?_of_get? (fun n : UInt16 => ofNat n.toNat)
      (fun n _ => nullable?_eq_some_some nofun (uint16?_ofNat n)) ?_
    simp [hget, Payload.fields]
  have hdata : fs.orElse? "data" none (nullable? (document? 3)) =
      some (p.data.map Payload.serviceJson) := by
    refine Fields.orElse?_of_get? (fun x : Json => x) (fun x hx => ?_) ?_
    · obtain ⟨d, _, rfl⟩ := Option.map_eq_some_iff.mp hx
      exact nullable?_eq_some_some nofun (document?_serviceJson d)
    · rw [hget, Option.map_id']
      simp [Payload.fields]
  rw [Entry.ofJson?, hfields]
  simp only [Option.bind_eq_bind, Option.bind_some, hid, hname, htype, hcontent, httl, hproxied,
    hcomment, hpriority, hdata]
  rfl

/-- Without a priority of its own, an answer has no service data in its content. -/
theorem serviceOfContent?_none (content : String) : serviceOfContent? none content = none := by
  unfold serviceOfContent?
  split
  · rfl
  · rfl

variable {r : Record}

/-- The value of a record is read back, also flat content of a service record. -/
theorem value_answer_ofRecord (htype : RecordType.ofName r.type.name = r.type)
    (hservice : ∀ data, r.value = .service data → r.type = .srv) (id : String) :
    ((Payload.ofRecord r).answer id).value = r.value := by
  have hsrv : RecordType.ofName ((Payload.ofRecord r).answer id).type = .srv ↔ r.type = .srv :=
    htype ▸ Iff.rfl
  cases hvalue : r.value with
  | content text =>
    have hcontent : ((Payload.ofRecord r).answer id).content = some text := by
      simp only [Payload.answer, Payload.ofRecord, Record.content?, hvalue]
    have hdata : ((Payload.ofRecord r).answer id).data = none := by
      simp only [Payload.answer, Payload.ofRecord, hvalue, Option.map_none]
    rw [Entry.value, hcontent, Option.getD_some]
    split
    · -- The content could be read as service data, but for the priority that is not sent.
      rename_i h
      have hpriority : ((Payload.ofRecord r).answer id).priority = none := by
        rw [Payload.answer, Payload.ofRecord, hsrv.mp h]
        rfl
      rw [Entry.service?, hdata, hcontent, hpriority]
      show ((serviceOfContent? none text).map RecordValue.service).getD _ = _
      rw [serviceOfContent?_none]
      rfl
    · rfl
  | service data =>
    have hdata : ((Payload.ofRecord r).answer id).data = some (Payload.serviceJson data) := by
      simp only [Payload.answer, Payload.ofRecord, hvalue, Option.map_some]
    rw [Entry.value, if_pos (hsrv.mpr (hservice data hvalue)), Entry.service?, hdata]
    show (((serviceOfJson? (Payload.serviceJson data)).or _).map RecordValue.service).getD _ = _
    rw [serviceOfJson?_serviceJson]
    rfl

theorem mem_proxiable_iff {type : RecordType} :
    type ∈ [RecordType.a, .aaaa, .cname] ↔ type.isProxiable = true := by
  cases type <;> simp [RecordType.isProxiable]

/-- The number for the provider's choice is read back as that choice. -/
theorem ofWire_toWire (ttl : Ttl) :
    Ttl.ofWire ttl.toWire = if ttl = .seconds 1 then .auto else ttl := by
  cases ttl with
  | auto => rfl
  | seconds n =>
    show (if n = 1 then Ttl.auto else .seconds n) = _
    simp only [Ttl.seconds.injEq]

/-- The answer to the body for a record stands for the record that is read back. -/
theorem toLive_answer_ofRecord (htype : RecordType.ofName r.type.name = r.type)
    (hservice : ∀ data, r.value = .service data → r.type = .srv) (id : String) :
    ((Payload.ofRecord r).answer id).toLive = ⟨id, readBack r⟩ := by
  have hvalue := value_answer_ofRecord htype hservice id
  have hpriority : (if r.type = .mx then (Payload.ofRecord r).priority else none) =
      if r.type = .mx then r.priority else none := by
    by_cases hmx : r.type = .mx
    · rw [if_pos hmx, if_pos hmx, Payload.ofRecord, if_pos hmx]
    · rw [if_neg hmx, if_neg hmx]
  -- The reader keeps whatever setting is answered, and it was sent for these types only.
  have hproxied : (Payload.ofRecord r).proxied =
      if r.type ∈ [.a, .aaaa, .cname] then some r.effectiveProxied else none :=
    if_congr mem_proxiable_iff.symm rfl rfl
  rw [Entry.toLive, hvalue]
  show (⟨id, ⟨r.name, .ofName r.type.name, r.value, .ofWire r.ttl.toWire,
    (Payload.ofRecord r).proxied, r.comment,
    if RecordType.ofName r.type.name = .mx then (Payload.ofRecord r).priority else none⟩⟩ :
      LiveRecord) = _
  rw [htype, ofWire_toWire, hproxied, hpriority]
  rfl

/-! ### The record that is read back -/

/-- The proxy setting is applied to what is read back as it was before. -/
theorem effectiveProxied_readBack (r : Record) :
    (readBack r).effectiveProxied = r.effectiveProxied := by
  rw [Record.effectiveProxied, Record.effectiveProxied]
  show (r.type.isProxiable && (if r.type ∈ [.a, .aaaa, .cname] then
    some r.effectiveProxied else none).getD true) = _
  by_cases h : r.type.isProxiable = true
  · rw [if_pos (mem_proxiable_iff.mpr h), Option.getD_some, Record.effectiveProxied, h]
    rfl
  · rw [Bool.not_eq_true] at h
    rw [h]
    rfl

/-- What is read back says the same as the record, and the other way around. -/
theorem sameValue_readBack (r : Record) :
    r.sameValue (readBack r) = true ∧ (readBack r).sameValue r = true := by
  have hproxied := effectiveProxied_readBack r
  have hpriority : r.type = .mx → (readBack r).priority = r.priority := fun hmx => if_pos hmx
  exact ⟨Record.sameValue_of_value_eq rfl hproxied.symm fun hmx => (hpriority hmx).symm,
    Record.sameValue_of_value_eq rfl hproxied hpriority⟩

/-- A declared record is left alone where its body was stored: some live record that says the same
    is kept, and it is this one if no other has its key. -/
theorem exists_unchanged_of_readBack {s : DesiredState} (hkeys : s.keys.Nodup)
    {live : List LiveRecord} (hids : (liveIds live).Nodup) (hr : r ∈ s.records) {id : String}
    (hlive : ⟨id, readBack (r.qualified s.domain)⟩ ∈ live)
    (hdomain : Name.inDomain (r.qualified s.domain).name s.domain = true) :
    ∃ id', ⟨r.keyIn s.domain, .unchanged id'⟩ ∈ (s.plan live).changes ∧
      ((∀ l ∈ live, l.key = r.keyIn s.domain → l.id = id) → id' = id) := by
  have hcandidate : ⟨id, readBack (r.qualified s.domain)⟩ ∈
      s.candidates live (r.keyIn s.domain) :=
    DesiredState.mem_candidates.mpr ⟨List.mem_filter.mpr ⟨hlive, hdomain⟩, rfl⟩
  have hsame : r.sameValue (readBack (r.qualified s.domain)) = true :=
    (sameValue_readBack (r.qualified s.domain)).1
  -- The plan may keep another record that says the same, but it keeps one.
  obtain ⟨l, hl, hentry⟩ := DesiredState.exists_entryFor_eq_unchanged hcandidate hsame
  obtain ⟨hmanaged, hkey⟩ := DesiredState.mem_candidates.mp hl
  refine ⟨l.id, (DesiredState.mem_changes_iff hkeys hids).mpr (.inl ⟨r, hr, hentry⟩), ?_⟩
  exact fun hunique => hunique l ((s.managed_sublist live).subset hmanaged) hkey

/-- **Records are read back as they were sent.** The body for a record, stored as it is and answered
    under an identifier with its fields in any order, is read as a live record that differs from the
    record only in what the provider applies or does not keep. It has the key of the record, and the
    two say the same, so that a plan for a declaration of the record leaves it alone. -/
theorem readBack_of_isAnswerTo {id : String} {j : Json}
    (htype : ∃ name, RecordType.ofName name = r.type)
    (hservice : ∀ data, r.value = .service data → r.type = .srv)
    (hanswer : IsAnswerTo (Payload.ofRecord r).toJson id j) :
    ∃ e, Entry.ofJson? j = some e ∧ e.toLive = ⟨id, readBack r⟩ ∧
      e.toLive.key = .ofName r.name r.type ∧
      r.sameValue e.toLive.record = true ∧ e.toLive.record.sameValue r = true ∧
      ∀ (s : DesiredState) (live : List LiveRecord), s.keys.Nodup → (liveIds live).Nodup →
        e.toLive ∈ live → Name.inDomain r.name s.domain = true →
        ∀ declared ∈ s.records, declared.qualified s.domain = r →
          ∃ id', ⟨declared.keyIn s.domain, .unchanged id'⟩ ∈ (s.plan live).changes ∧
            ((∀ l ∈ live, l.key = e.toLive.key → l.id = id) → id' = id) := by
  have hof : RecordType.ofName r.type.name = r.type := by
    obtain ⟨name, hname⟩ := htype
    rw [← hname, RecordType.name_ofName]
  have hlive := toLive_answer_ofRecord hof hservice id
  refine ⟨(Payload.ofRecord r).answer id, Entry.ofJson?_of_isAnswerTo hanswer, hlive, ?_⟩
  rw [hlive]
  obtain ⟨hsame, hreverse⟩ := sameValue_readBack r
  refine ⟨rfl, hsame, hreverse, fun s live hkeys hids hmem hdomain declared hdeclared hr => ?_⟩
  subst hr
  exact exists_unchanged_of_readBack hkeys hids hdeclared hmem hdomain

/-- The address that `wwwDocument` declares, under its full name. -/
def wwwAddress : Record where
  name := "www.example.com"
  type := .a
  value := .content "192.0.2.9"

/-- The answer to its body, with the identifier at the end. -/
def wwwAnswer : Json :=
  ofFields [("type", ofText "A"), ("name", ofText "www.example.com"),
    ("content", ofText "192.0.2.9"), ("ttl", ofNat 1), ("proxied", .bool true),
    ("id", ofText "r1")]

/-- The address is read back behind the proxy, and left alone by the next plan. -/
theorem readBack_of_isAnswerTo_wwwAnswer :
    ∃ e, Entry.ofJson? wwwAnswer = some e ∧
      e.toLive = ⟨"r1", { wwwAddress with proxied := some true }⟩ ∧
      ⟨⟨"www.example.com", .a⟩, .unchanged "r1"⟩ ∈ (wwwState.plan [e.toLive]).changes := by
  have hservice : ∀ data, wwwAddress.value = .service data → wwwAddress.type = .srv := by
    intro data h
    exact nomatch h
  have hanswer : IsAnswerTo (Payload.ofRecord wwwAddress).toJson "r1" wwwAnswer :=
    ⟨_, (Payload.ofRecord wwwAddress).fields ++ [("id", ofText "r1")], rfl, rfl,
      List.perm_append_singleton _ _⟩
  obtain ⟨e, he, hlive, _, _, _, hplan⟩ :=
    readBack_of_isAnswerTo ⟨"A", rfl⟩ hservice hanswer
  obtain ⟨id', hmem, hunique⟩ := hplan wwwState [e.toLive] (by decide) (List.nodup_singleton _)
    (List.mem_singleton.mpr rfl) (by decide) _ List.mem_cons_self rfl
  have hid : id' = "r1" := hunique fun l hl _ => by
    rw [List.mem_singleton.mp hl, hlive]
  exact ⟨e, he, hlive, hid ▸ hmem⟩

end ZoneSync.Cloudflare
