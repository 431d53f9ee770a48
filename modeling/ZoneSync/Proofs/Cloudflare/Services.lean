import ZoneSync.Cloudflare.Wire
import ZoneSync.Proofs.Json.Fields
import ZoneSync.Proofs.Text.Digits
import ZoneSync.Proofs.Text.Words

namespace ZoneSync.Cloudflare

open Json Text

/-!
# Two forms of service data

A service record is answered with its data in a document of their own, or, by older answers, with
weight, port and target as words of its content and the priority beside it. Both forms stand for
the same data, and what is neither of them is kept as it is.

* `Carries`, `serviceOfJson?_eq_some_iff` — the documents that are read as service data;
* `WritesService`, `serviceOfContent?_eq_some_iff` — the contents that are;
* `LacksService` — what keeps a content from being read;
* `Entry.service_forms` — the value of a service record, whatever was answered for it.
-/

/-! ### Service data in a document -/

/-- Four documents are the parts of service data: numbers of 16 bits, and the text of the target. -/
structure IsPartsOf (d : Service) (priority weight port target : Json) : Prop where
  priority : priority.IsUInt16 d.priority
  weight : weight.IsUInt16 d.weight
  port : port.IsUInt16 d.port
  target : target = ofText d.target

/-- Whether a document carries service data: in an object under their names, whatever else stands
    there, or in an array of the four parts in order. The keys of the object are texts, and of a
    key that is repeated the last field counts. -/
inductive Carries (d : Service) : Json → Prop
  | object {fields : List (Option String × Json)} {priority weight port target : Json}
      (texts : ∀ f ∈ fields, f.1.isSome = true)
      (priority_eq : lastUnder? "priority" fields = some priority)
      (weight_eq : lastUnder? "weight" fields = some weight)
      (port_eq : lastUnder? "port" fields = some port)
      (target_eq : lastUnder? "target" fields = some target)
      (parts : IsPartsOf d priority weight port target) : Carries d (.object fields)
  | array {priority weight port target : Json} (parts : IsPartsOf d priority weight port target) :
      Carries d (.array [priority, weight, port, target])

variable {j : Json} {d : Service}

/-- The names of the parts of service data, in order. -/
def serviceKeys : List String := ["priority", "weight", "port", "target"]

/-- Service data are read from the parts that are found under their names. -/
theorem serviceOfJson?_eq_some_iff_get? :
    serviceOfJson? j = some d ↔ ∃ fs, j.lastWins.fieldsOf? serviceKeys = some fs ∧
      ∃ priority weight port target, fs.get? "priority" = some priority ∧
        fs.get? "weight" = some weight ∧ fs.get? "port" = some port ∧
        fs.get? "target" = some target ∧ IsPartsOf d priority weight port target := by
  simp only [serviceOfJson?, Fields.required?, Option.bind_eq_bind, Option.bind_eq_some_iff,
    Option.pure_def, Option.some.injEq]
  constructor
  · rintro ⟨fs, hfs, p, ⟨priority, hp, hpriority⟩, w, ⟨weight, hw, hweight⟩, q,
      ⟨port, hq, hport⟩, t, ⟨target, ht, htarget⟩, rfl⟩
    exact ⟨fs, hfs, priority, weight, port, target, hp, hw, hq, ht,
      ⟨uint16?_eq_some_iff.mp hpriority, uint16?_eq_some_iff.mp hweight,
        uint16?_eq_some_iff.mp hport, text?_eq_some_iff.mp htarget⟩⟩
  · rintro ⟨fs, hfs, priority, weight, port, target, hp, hw, hq, ht, hparts⟩
    exact ⟨fs, hfs, _, ⟨priority, hp, uint16?_eq_some_iff.mpr hparts.priority⟩,
      _, ⟨weight, hw, uint16?_eq_some_iff.mpr hparts.weight⟩,
      _, ⟨port, hq, uint16?_eq_some_iff.mpr hparts.port⟩,
      _, ⟨target, ht, text?_eq_some_iff.mpr hparts.target⟩, rfl⟩

/-- An array has the four parts when it has just so many items. -/
theorem serviceOfJson?_array_eq_some_iff {items : List Json} :
    serviceOfJson? (.array items) = some d ↔ Carries d (.array items) := by
  rw [serviceOfJson?_eq_some_iff_get?]
  show (∃ fs, (if items.length ≤ serviceKeys.length then
    some (Fields.mk (serviceKeys.zip items) true) else none) = some fs ∧ _) ↔ _
  simp only [Option.ite_none_right_eq_some, Option.some.injEq]
  constructor
  · rintro ⟨_, ⟨hlength, rfl⟩, priority, weight, port, target, hp, hw, hq, ht, hparts⟩
    match items, hlength with
    | [p, w, q, t], _ =>
      obtain ⟨rfl, rfl, rfl, rfl⟩ : p = priority ∧ w = weight ∧ q = port ∧ t = target :=
        ⟨Option.some.inj hp, Option.some.inj hw, Option.some.inj hq, Option.some.inj ht⟩
      exact .array hparts
    | [], _ | [_], _ | [_, _], _ | [_, _, _], _ => exact nomatch ht
  · intro h
    cases h with
    | array hparts => exact ⟨_, ⟨Nat.le_refl 4, rfl⟩, _, _, _, _, rfl, rfl, rfl, rfl, hparts⟩

/-- The documents that are read as service data are those that carry them. -/
theorem serviceOfJson?_eq_some_iff : serviceOfJson? j = some d ↔ Carries d j := by
  cases j with
  | array items => exact serviceOfJson?_array_eq_some_iff
  | object fields =>
    rw [serviceOfJson?_eq_some_iff_get?]
    constructor
    · rintro ⟨fs, hfs, priority, weight, port, target, hp, hw, hq, ht, hparts⟩
      rw [get?_lastWins hfs (by decide)] at hp hw hq ht
      exact .object ((exists_fieldsOf?_lastWins_iff _ _).mp ⟨fs, hfs⟩) hp hw hq ht hparts
    · intro h
      cases h with
      | object htexts hp hw hq ht hparts =>
        obtain ⟨fs, hfs⟩ := (exists_fieldsOf?_lastWins_iff serviceKeys _).mpr htexts
        refine ⟨fs, hfs, _, _, _, _, ?_, ?_, ?_, ?_, hparts⟩ <;>
          rw [get?_lastWins hfs (by decide)] <;> assumption
  | _ =>
    refine iff_of_false (fun h => ?_) (fun h => nomatch h)
    obtain ⟨fs, hfs, _⟩ := serviceOfJson?_eq_some_iff_get?.mp h
    exact nomatch hfs

/-! ### Service data in a content -/

/-- Whether the first words of a content are numerals of weight and port, and the target. -/
def WritesService (d : Service) (content : String) : Prop :=
  ∃ weight port rest, HasWords content.toList (weight :: port :: d.target.toList :: rest) ∧
    IsNumeral d.weight.toNat weight ∧ IsNumeral d.port.toNat port

/-- What keeps words from being service data: there are too few of them, weight or port is no number
    of 16 bits, or there is no priority. -/
def LacksService (priority : Option UInt16) (words : List (List Char)) : Prop :=
  words.length < 3 ∨ (∃ word ∈ words.take 2, ∀ n : UInt16, ¬ IsNumeral n.toNat word) ∨
    priority = none

variable {priority : Option UInt16} {content : String}

theorem not_writesService_empty : ¬ WritesService d "" := by
  rintro ⟨weight, port, rest, hwords, _⟩
  exact nomatch hwords.unique (.blank fun c hc => absurd hc List.not_mem_nil)

/-- The contents that are read as service data are those that write them. -/
theorem serviceOfContent?_eq_some_iff :
    serviceOfContent? priority content = some d ↔
      priority = some d.priority ∧ WritesService d content := by
  have hnumber : ∀ {s : String} {n : UInt16}, (readUInt16 s).toOption = some n ↔
      IsNumeral n.toNat s.toList := by
    intro s n
    rw [← readUInt16_eq_ok_iff]
    cases readUInt16 s <;> simp [Except.toOption]
  constructor
  · intro h
    unfold serviceOfContent? at h
    split at h
    · rename_i weight port target rest hwords
      simp only [Option.bind_eq_bind, Option.bind_eq_some_iff, Option.pure_def,
        Option.some.injEq] at h
      obtain ⟨p, hp, w, hw, q, hq, rfl⟩ := h
      exact ⟨hp, _, _, _, words_eq_iff.mp hwords, hnumber.mp hw, hnumber.mp hq⟩
    · exact nomatch h
  · rintro ⟨rfl, weight, port, rest, hwords, hweight, hport⟩
    have hread : Text.words content = String.ofList weight :: String.ofList port :: d.target ::
        rest.map String.ofList := by
      rw [words_eq_iff]
      simpa using hwords
    have hw : (readUInt16 (String.ofList weight)).toOption = some d.weight :=
      hnumber.mpr (by rwa [String.toList_ofList])
    have hq : (readUInt16 (String.ofList port)).toOption = some d.port :=
      hnumber.mpr (by rwa [String.toList_ofList])
    rw [serviceOfContent?, hread]
    simp only [hw, hq]
    rfl

/-- Weight and port in decimal and the target write service data, whatever white space stands
    between them, in front and behind. -/
theorem writesService_of_hasWords (h : HasWords content.toList
    ([Nat.repr d.weight.toNat, Nat.repr d.port.toNat, d.target].map String.toList)) :
    WritesService d content :=
  ⟨_, _, _, h, readUInt16_eq_ok_iff.mp (readUInt16_repr d.weight),
    readUInt16_eq_ok_iff.mp (readUInt16_repr d.port)⟩

/-- A content gives no service data when something is lacking. -/
theorem exists_writesService_iff {words : List (List Char)}
    (hwords : HasWords content.toList words) :
    (∃ d : Service, priority = some d.priority ∧ WritesService d content) ↔
      ¬ LacksService priority words := by
  constructor
  · rintro ⟨d, rfl, weight, port, rest, hservice, hweight, hport⟩
    obtain rfl := hservice.unique hwords
    rintro (hfew | ⟨word, hmem, hword⟩ | hnone)
    · simp at hfew
      omega
    · rcases List.mem_cons.mp hmem with rfl | hmem
      · exact hword _ hweight
      · rw [List.mem_singleton.mp hmem] at hword
        exact hword _ hport
    · exact nomatch hnone
  · intro h
    simp only [LacksService, not_or, Nat.not_lt, not_exists, not_and, not_forall, not_not] at h
    obtain ⟨hthree, hnumerals, hpriority⟩ := h
    obtain ⟨p, rfl⟩ := Option.ne_none_iff_exists'.mp hpriority
    match words, hthree with
    | weight :: port :: target :: rest, _ =>
      obtain ⟨w, hw⟩ := hnumerals weight List.mem_cons_self
      obtain ⟨q, hq⟩ := hnumerals port (List.mem_cons_of_mem _ List.mem_cons_self)
      refine ⟨⟨p, w, q, String.ofList target⟩, rfl, weight, port, rest, ?_, hw, hq⟩
      rwa [String.toList_ofList]

/-! ### Records -/

namespace Entry

variable {e : Entry}

/-- The value of a service record: its data, or else its content. -/
theorem value_of_srv (h : RecordType.ofName e.type = .srv) :
    e.value = (e.service?.map .service).getD (.content (e.content.getD "")) :=
  if_pos h

theorem service?_of_carries (hdata : e.data = some j) (h : Carries d j) : e.service? = some d := by
  rw [service?, hdata, Option.bind_some, serviceOfJson?_eq_some_iff.mpr h, Option.some_or]

/-- Without a document that carries service data they are read from the content. A content that is
    missing writes none. -/
theorem service?_eq_some_iff (h : ∀ d j, e.data = some j → ¬ Carries d j) :
    e.service? = some d ↔
      e.priority = some d.priority ∧ WritesService d (e.content.getD "") := by
  have hdata : e.data.bind serviceOfJson? = none := by
    rw [Option.eq_none_iff_forall_ne_some]
    intro d hd
    obtain ⟨j, hj, hread⟩ := Option.bind_eq_some_iff.mp hd
    exact h d j hj (serviceOfJson?_eq_some_iff.mp hread)
  rw [service?, hdata, Option.none_or]
  cases e.content with
  | none => exact iff_of_false (fun h => nomatch h) fun h => not_writesService_empty h.2
  | some content => exact serviceOfContent?_eq_some_iff

/-- **Both forms of service data stand for the same.** A service record whose document carries
    service data has these, whatever its content and its priority are. Without such a document it
    has those that its content writes, with the priority that is answered; weight and port in
    decimal and the target are such a content. Where something is lacking for them, and only there,
    the content is kept as it is, and a missing one is empty. -/
theorem service_forms (htype : RecordType.ofName e.type = .srv) :
    (∀ d j, e.data = some j → Carries d j → e.toLive.record.value = .service d) ∧
      ((∀ d j, e.data = some j → ¬ Carries d j) →
        (∀ d, e.toLive.record.value = .service d ↔
          e.priority = some d.priority ∧ WritesService d (e.content.getD "")) ∧
        (∀ d : Service, e.priority = some d.priority →
          HasWords (e.content.getD "").toList
            ([Nat.repr d.weight.toNat, Nat.repr d.port.toNat, d.target].map String.toList) →
          e.toLive.record.value = .service d) ∧
        ∀ words, HasWords (e.content.getD "").toList words →
          (e.toLive.record.value = .content (e.content.getD "") ↔
            LacksService e.priority words)) := by
  have hvalue : e.toLive.record.value =
      (e.service?.map .service).getD (.content (e.content.getD "")) := value_of_srv htype
  have hservice : ∀ d, e.toLive.record.value = .service d ↔ e.service? = some d := by
    intro d
    rw [hvalue]
    cases e.service? <;> simp
  have hkept : e.toLive.record.value = .content (e.content.getD "") ↔
      ¬ ∃ d, e.service? = some d := by
    rw [hvalue]
    cases e.service? <;> simp
  refine ⟨fun d j hdata hcarries => (hservice d).mpr (service?_of_carries hdata hcarries),
    fun hnone => ?_⟩
  have hwritten := fun d => (hservice d).trans (service?_eq_some_iff hnone)
  refine ⟨hwritten, fun d hpriority hwords =>
    (hwritten d).mpr ⟨hpriority, writesService_of_hasWords hwords⟩, fun words hwords => ?_⟩
  rw [hkept]
  simp only [service?_eq_some_iff hnone]
  rw [exists_writesService_iff hwords, not_not]

/-- A service record with the priority 10, some content, and perhaps a document. -/
def chatEntry (content : String) (data : Option Json) : Entry where
  id := "rec-1"
  name := "_chat._tcp.example.com"
  type := "SRV"
  content := some content
  ttl := none
  proxied := none
  comment := none
  priority := some 10
  data

/-- The data of a service. -/
def chatService : Service := ⟨10, 5, 5222, "chat.example.com"⟩

/-- The document of a service, with a field that is not known and a port that is written twice. -/
def chatData : Json :=
  ofFields [("port", ofNat 0), ("target", ofText "chat.example.com"), ("proto", ofText "_tcp"),
    ("weight", ofNat 5), ("priority", ofNat 10), ("port", ofNat 5222)]

/-- The document is read before the content, words are read without one and beside one that carries
    no service data, and a port beyond 16 bits is kept as content. -/
theorem service_forms_chatEntry :
    (chatEntry "1 2 other.example.com" (some chatData)).toLive.record.value =
        .service chatService ∧
      (chatEntry "\t5  5222 chat.example.com " none).toLive.record.value = .service chatService ∧
      (chatEntry "5 5222 chat.example.com" (some (ofText "5"))).toLive.record.value =
        .service chatService ∧
      (chatEntry "5 65536 chat.example.com" none).toLive.record.value =
        .content "5 65536 chat.example.com" := by
  have hcarries : Carries chatService chatData := by
    refine .object (by simp) rfl rfl rfl rfl ⟨?_, ?_, ?_, rfl⟩ <;> exact ⟨_, rfl, rfl⟩
  have hnone : ∀ content d j, (chatEntry content none).data = some j → ¬ Carries d j :=
    fun _ _ j h => absurd h.symm (Option.some_ne_none j)
  have htext : ∀ content d j, (chatEntry content (some (ofText "5"))).data = some j →
      ¬ Carries d j := by
    intro content d j h hcarries
    obtain rfl : ofText "5" = j := Option.some.inj h
    cases hcarries
  have hbeyond : ∀ n : UInt16, ¬ IsNumeral n.toNat "65536".toList := by
    intro n h
    have hread : readUInt16 "65536" = .error .tooLarge := by decide
    exact nomatch hread.symm.trans (readUInt16_eq_ok_iff.mpr h)
  have hwords : HasWords "5 65536 chat.example.com".toList
      (["5", "65536", "chat.example.com"].map String.toList) := words_eq_iff.mp (by decide)
  refine ⟨(service_forms rfl).1 _ _ rfl hcarries, ?_, ?_, ?_⟩
  · exact ((service_forms rfl).2 (hnone _)).2.1 chatService rfl (words_eq_iff.mp (by decide))
  · exact ((service_forms rfl).2 (htext _)).2.1 chatService rfl (words_eq_iff.mp (by decide))
  · exact (((service_forms rfl).2 (hnone _)).2.2 _ hwords).mpr
      (.inr (.inl ⟨_, List.mem_cons_of_mem _ List.mem_cons_self, hbeyond⟩))

end Entry

end ZoneSync.Cloudflare
