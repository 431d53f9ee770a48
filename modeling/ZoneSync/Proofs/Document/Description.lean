import ZoneSync.Proofs.Address.Literals
import ZoneSync.Proofs.Document.Loading
import ZoneSync.Proofs.Document.Names

namespace ZoneSync

open Yaml

/-!
# What entries describe

The grammar of records, said without the faults: which record an entry describes, field by field.
An entry is accepted exactly when it describes a record, and then as that record.

* `HoldsText`, `HoldsNumber`, `HoldsTtl` — what a field holds;
* `Entry.Says`, `Entry.Describes` — the value of an entry for each type, and the whole record;
* `Checked.guard_eq_ok_iff` and its like — when checks built from others find nothing wrong;
* `Entry.parse_eq_ok_iff_checks` — an entry is accepted when each of its checks is passed;
* `Entry.parse_eq_ok_iff_describes` — an entry is accepted as the record that it describes.
-/

/-! ### Fields -/

/-- A field holds a string, or a number that has this text. -/
def HoldsText (field : Option Value) (text : String) : Prop :=
  field = some (.string text) ∨ ∃ n : Number, field = some (.number n) ∧ n.toText = text

/-- A field holds a natural number, below any tags. -/
def HoldsNumber (field : Option Value) (n : Nat) : Prop :=
  ∃ v, field = some v ∧ v.untagged = .number (.integer n)

/-- A time to live is left to the provider, by a word or by saying nothing, or it is a number of 32
    bits, below any tags, of at least 60 seconds. -/
inductive HoldsTtl : Option Value → Ttl → Prop where
  | absent : HoldsTtl none .auto
  | auto : HoldsTtl (some (.string "auto")) .auto
  | seconds {field : Option Value} {n : UInt32} (number : HoldsNumber field n.toNat)
      (min : 60 ≤ n.toNat) : HoldsTtl field (.seconds n)

namespace Entry

/-! ### Entries -/

/-- What an entry says as a record of a type: its value, and the preference of a mail record. -/
inductive Says (e : Entry) : RecordType → RecordValue → Option UInt16 → Prop where
  | a {text : String} (content : HoldsText e.content text) (form : IsQuad text.toList) :
      e.Says .a (.content text) none
  | aaaa {text : String} (content : HoldsText e.content text)
      (form : IsIpv6Literal text.toList) : e.Says .aaaa (.content text) none
  | cname {text : String} (content : HoldsText e.content text)
      (form : text.toList ∈ Pattern.host) : e.Says .cname (.content text) none
  | mx {text : String} {n : UInt16} (content : HoldsText e.content text)
      (priority : HoldsNumber e.priority n.toNat) : e.Says .mx (.content text) (some n)
  | txt {text : String} (content : HoldsText e.content text) : e.Says .txt (.content text) none
  | ns {text : String} (content : HoldsText e.content text) : e.Says .ns (.content text) none
  | srv {data : Service} (priority : HoldsNumber e.priority data.priority.toNat)
      (weight : HoldsNumber e.weight data.weight.toNat)
      (port : HoldsNumber e.port data.port.toNat) (target : HoldsText e.target data.target)
      (form : data.target.toList ∈ Pattern.host) : e.Says .srv (.service data) none

/-- The record that an entry of a domain describes. -/
structure Describes (e : Entry) (domain : String) (r : Record) : Prop where
  name : e.name = some (.string r.name)
  type : e.type = some (.string r.type.name)
  form : if r.type = .srv then r.name.toList ∈ Pattern.serviceName else IsRelativeName r.name
  size : domain = "" ∨ (Name.qualify r.name domain).utf8ByteSize ≤ 253
  value : e.Says r.type r.value r.priority
  proxied : e.proxied = r.proxied.map .bool
  proxiable : r.proxied = some true → r.type.isProxiable = true
  /-- An alias at the apex only works behind the proxy. -/
  apex : r.proxied = some false → ¬ (r.type = .cname ∧ r.name = Name.apex)
  ttl : HoldsTtl e.ttl r.ttl
  comment : e.comment = r.comment.map .string

end Entry

/-! ### Checks that find nothing wrong -/

namespace Checked

variable {α β : Type} {c : Checked α}

theorem eq_ok_iff {x : α} : c = .ok x ↔ c.value = some x ∧ c.faults = [] := by
  obtain ⟨value, faults⟩ := c
  rw [ok, mk.injEq]

theorem ok_eq_ok_iff {x y : α} : ok x = .ok y ↔ x = y := by
  rw [eq_ok_iff]
  exact ⟨fun h => Option.some.inj h.1, fun h => ⟨congrArg some h, rfl⟩⟩

theorem fault_ne_ok {f : EntryFault} {x : α} : fault f ≠ .ok x :=
  fun h => nomatch (eq_ok_iff.mp h).1

theorem ofOption_eq_ok_iff {f : EntryFault} {o : Option α} {x : α} :
    ofOption f o = .ok x ↔ o = some x := by
  cases o with
  | none => exact iff_of_false fault_ne_ok (Option.some_ne_none x).symm
  | some y => rw [ofOption, ok_eq_ok_iff, Option.some.injEq]

theorem guard_eq_ok_iff {p : α → Bool} {f : α → EntryFault} {x : α} :
    c.guard p f = .ok x ↔ c = .ok x ∧ p x = true := by
  constructor
  · intro h
    obtain ⟨hvalue, hp⟩ := of_value_guard (eq_ok_iff.mp h).1
    refine ⟨?_, hp⟩
    rw [Checked.guard, hvalue] at h
    dsimp only at h
    rwa [if_pos hp] at h
  · rintro ⟨rfl, hp⟩
    exact if_pos hp

theorem map_eq_ok_iff {g : α → β} {y : β} : c.map g = .ok y ↔ ∃ x, c = .ok x ∧ g x = y := by
  rw [eq_ok_iff]
  constructor
  · rintro ⟨hvalue, hfaults⟩
    obtain ⟨x, hx, hg⟩ := Option.map_eq_some_iff.mp hvalue
    exact ⟨x, eq_ok_iff.mpr ⟨hx, hfaults⟩, hg⟩
  · rintro ⟨x, rfl, rfl⟩
    exact ⟨rfl, rfl⟩

theorem andAlso_eq_ok_iff {faults : List EntryFault} {x : α} :
    c.andAlso faults = .ok x ↔ c = .ok x ∧ faults = [] := by
  rw [eq_ok_iff, eq_ok_iff, andAlso, List.append_eq_nil_iff, and_assoc]

end Checked

open Checked

/-! ### Checks of fields -/

theorem requiredString_eq_ok_iff {name text : String} {field : Option Value} :
    requiredString name field = .ok text ↔ field = some (.string text) := by
  constructor
  · exact fun h => eq_some_string_of_requiredString (eq_ok_iff.mp h).1
  · rintro rfl
    rfl

theorem scalarText?_eq_some_iff {v : Value} {text : String} :
    scalarText? v = some text ↔ HoldsText (some v) text := by
  unfold HoldsText
  constructor
  · intro h
    unfold scalarText? at h
    split at h
    · exact .inl (congrArg (fun s => some (Value.string s)) (Option.some.inj h))
    · exact .inr ⟨_, rfl, Option.some.inj h⟩
    · exact nomatch h
  · rintro (h | ⟨n, h, rfl⟩)
    · obtain rfl := Option.some.inj h
      rfl
    · obtain rfl := Option.some.inj h
      rfl

/-- No text is held by a field that is left out. -/
theorem not_holdsText_none {text : String} : ¬ HoldsText none text := by
  rintro (h | ⟨n, h, _⟩)
  · exact nomatch h
  · exact nomatch h

theorem not_holdsNumber_none {n : Nat} : ¬ HoldsNumber none n := by
  rintro ⟨v, h, _⟩
  exact nomatch h

theorem requiredText_eq_ok_iff {name text : String} {field : Option Value} :
    requiredText name field = .ok text ↔ HoldsText field text := by
  cases field with
  | none => exact iff_of_false fault_ne_ok not_holdsText_none
  | some v => rw [requiredText, ofOption_eq_ok_iff, scalarText?_eq_some_iff]

theorem optionalString_eq_ok_iff {name : String} {field : Option Value} {text : Option String} :
    optionalString name field = .ok text ↔ field = text.map .string := by
  constructor
  · intro h
    unfold optionalString at h
    split at h
    · rw [← ok_eq_ok_iff.mp h]
      rfl
    · rw [← ok_eq_ok_iff.mp h]
      rfl
    · exact absurd h fault_ne_ok
  · rintro rfl
    cases text with
    | none => rfl
    | some text => rfl

theorem natural?_eq_some_iff {v : Value} {n : Nat} :
    v.natural? = some n ↔ HoldsNumber (some v) n := by
  constructor
  · intro h
    unfold Value.natural? at h
    split at h
    · rename_i m hm
      rw [Option.some.inj h] at hm
      exact ⟨v, rfl, hm⟩
    · exact nomatch h
  · rintro ⟨w, hw, hn⟩
    obtain rfl := Option.some.inj hw
    rw [Value.natural?, hn]

theorem uint16?_eq_some_iff {v : Value} {n : UInt16} :
    uint16? v = some n ↔ HoldsNumber (some v) n.toNat := by
  rw [← natural?_eq_some_iff, uint16?, Option.bind_eq_some_iff]
  constructor
  · rintro ⟨m, hm, hbound⟩
    split at hbound
    · rename_i hsize
      rw [hm, ← Option.some.inj hbound, UInt16.toNat_ofNat_of_lt' hsize]
    · exact nomatch hbound
  · intro h
    refine ⟨n.toNat, h, ?_⟩
    rw [if_pos n.toNat_lt, UInt16.ofNat_toNat]

theorem checkServiceNumber_eq_ok_iff {name : String} {field : Option Value} {n : UInt16} :
    checkServiceNumber name field = .ok n ↔ HoldsNumber field n.toNat := by
  cases field with
  | none => exact iff_of_false fault_ne_ok not_holdsNumber_none
  | some v => rw [checkServiceNumber, ofOption_eq_ok_iff, uint16?_eq_some_iff]

theorem checkPriority_eq_ok_iff {field : Option Value} {n : UInt16} :
    checkPriority field = .ok n ↔ HoldsNumber field n.toNat := by
  cases field with
  | none => exact iff_of_false fault_ne_ok not_holdsNumber_none
  | some v => rw [checkPriority, ofOption_eq_ok_iff, uint16?_eq_some_iff]

theorem checkServiceTarget_eq_ok_iff {field : Option Value} {target : String} :
    checkServiceTarget field = .ok target ↔
      HoldsText field target ∧ target.toList ∈ Pattern.host := by
  cases field with
  | none => exact iff_of_false fault_ne_ok fun h => not_holdsText_none h.1
  | some v =>
    rw [checkServiceTarget, ofOption_eq_ok_iff, Option.filter_eq_some_iff,
      scalarText?_eq_some_iff, isHostText_iff]

/-! ### Checks of types, values and settings -/

/-- A type that may be declared is the one of its name. -/
theorem ofName_name_of_isManaged {type : RecordType} (h : type.isManaged = true) :
    RecordType.ofName type.name = type := by
  cases type with
  | caa => rfl
  | other name => exact nomatch h
  | _ => rfl

theorem checkType_eq_ok_iff {field : Option Value} {type : RecordType} :
    checkType field = .ok type ↔ field = some (.string type.name) ∧ type.isManaged = true := by
  rw [checkType, map_eq_ok_iff]
  constructor
  · rintro ⟨name, hname, rfl⟩
    obtain ⟨hstring, hmanaged⟩ := guard_eq_ok_iff.mp hname
    rw [RecordType.name_ofName]
    exact ⟨requiredString_eq_ok_iff.mp hstring, hmanaged⟩
  · rintro ⟨hfield, hmanaged⟩
    have hof := ofName_name_of_isManaged hmanaged
    exact ⟨type.name, guard_eq_ok_iff.mpr
      ⟨requiredString_eq_ok_iff.mpr hfield, hof.symm ▸ hmanaged⟩, hof⟩

/-- A name has no fault when it has the form of its type, and the full name is short enough. -/
theorem nameFaults_eq_nil_iff {name domain : String} {type : RecordType} :
    nameFaults name (some type) domain = [] ↔
      (if type = .srv then name.toList ∈ Pattern.serviceName else IsRelativeName name) ∧
        (domain = "" ∨ (Name.qualify name domain).utf8ByteSize ≤ 253) := by
  have hsize : (if domain ≠ "" ∧ maxNameSize < (Name.qualify name domain).utf8ByteSize then
        [EntryFault.nameTooLong (Name.qualify name domain)] else []) = [] ↔
      domain = "" ∨ (Name.qualify name domain).utf8ByteSize ≤ 253 := by
    rw [ite_eq_right_iff, maxNameSize]
    constructor
    · intro h
      by_contra hnot
      rw [not_or, Nat.not_le] at hnot
      exact absurd (h hnot) (List.cons_ne_nil _ _)
    · rintro (hempty | hshort) ⟨hne, hlong⟩
      · exact absurd hempty hne
      · exact absurd hlong (Nat.not_lt.mpr hshort)
  unfold nameFaults
  dsimp only
  -- The name of a service is measured in any case, another name only when it has its form.
  by_cases hsrv : type = .srv
  · rw [if_pos (congrArg some hsrv), if_pos hsrv, List.append_eq_nil_iff, hsize, ite_eq_left_iff,
      ← isServiceName_iff]
    refine and_congr_left fun _ => ⟨fun h => ?_, fun h hnot => absurd h hnot⟩
    by_contra hnot
    exact absurd (h hnot) (List.cons_ne_nil _ _)
  · rw [if_neg fun h => hsrv (Option.some.inj h), if_neg hsrv, ← isRecordName_iff]
    by_cases hname : isRecordName name = true
    · rw [if_pos hname, hsize]
      exact ⟨fun h => ⟨hname, h⟩, fun h => h.2⟩
    · rw [if_neg hname]
      exact iff_of_false (List.cons_ne_nil _ _) fun h => hname h.1

theorem checkTtl_eq_ok_iff {field : Option Value} {ttl : Ttl} :
    checkTtl field = .ok ttl ↔ HoldsTtl field ttl := by
  constructor
  · intro h
    unfold checkTtl at h
    split at h
    · rw [← ok_eq_ok_iff.mp h]
      exact .absent
    · rw [← ok_eq_ok_iff.mp h]
      exact .auto
    · obtain ⟨n, hn, hbounds⟩ := Option.bind_eq_some_iff.mp (ofOption_eq_ok_iff.mp h)
      split at hbounds
      · rename_i hrange
        obtain ⟨hmin, hsize⟩ := hrange
        have htoNat := UInt32.toNat_ofNat_of_lt' hsize
        rw [← Option.some.inj hbounds]
        refine .seconds ?_ ?_
        · rw [htoNat]
          exact natural?_eq_some_iff.mp hn
        · rw [htoNat]
          exact hmin
      · exact nomatch hbounds
  · intro h
    cases h with
    | absent => rfl
    | auto => rfl
    | @seconds _ n hnumber hmin =>
      obtain ⟨v, rfl, hv⟩ := hnumber
      have hnatural := natural?_eq_some_iff.mpr ⟨v, rfl, hv⟩
      -- A word is no number, so that the value is read as one.
      have hnumber : checkTtl (some v) = ofOption (.invalidTtl v.render) (v.natural?.bind fun n =>
          if Ttl.minSeconds ≤ n ∧ n < UInt32.size then some (.seconds (UInt32.ofNat n))
          else none) := by
        unfold checkTtl
        split
        · rename_i h
          exact nomatch h
        · rename_i h
          rw [Option.some.inj h] at hv
          exact nomatch hv
        · rename_i h
          rw [Option.some.inj h]
      rw [hnumber, ofOption_eq_ok_iff, hnatural]
      show (if Ttl.minSeconds ≤ n.toNat ∧ n.toNat < UInt32.size then _ else none) = _
      rw [if_pos ⟨hmin, n.toNat_lt⟩, UInt32.ofNat_toNat]

theorem checkProxied_eq_ok_iff {type : RecordType} {field : Option Value}
    {proxied : Option Bool} :
    checkProxied (some type) field = .ok proxied ↔
      field = proxied.map .bool ∧ (proxied = some true → type.isProxiable = true) := by
  constructor
  · intro h
    unfold checkProxied at h
    split at h
    · rw [← ok_eq_ok_iff.mp h]
      exact ⟨rfl, nofun⟩
    · rename_i on
      obtain ⟨hvalue, hfaults⟩ := eq_ok_iff.mp h
      obtain rfl := Option.some.inj hvalue
      refine ⟨rfl, fun hon => ?_⟩
      obtain rfl := Option.some.inj hon
      -- A setting that is on is a fault of the types that cannot be proxied.
      by_contra hnot
      rw [Bool.not_eq_true] at hnot
      dsimp only at hfaults
      rw [hnot] at hfaults
      exact nomatch hfaults
    · exact absurd h fault_ne_ok
  · rintro ⟨rfl, hproxiable⟩
    cases proxied with
    | none => rfl
    | some on =>
      cases on with
      | false => rfl
      | true =>
        refine eq_ok_iff.mpr ⟨rfl, ?_⟩
        show (if (true && !type.isProxiable) = true then _ else []) = []
        rw [hproxiable rfl]
        rfl

theorem checkService_eq_ok_iff {e : Entry} {data : Service} :
    checkService e = .ok data ↔
      HoldsNumber e.priority data.priority.toNat ∧ HoldsNumber e.weight data.weight.toNat ∧
        HoldsNumber e.port data.port.toNat ∧ HoldsText e.target data.target ∧
        data.target.toList ∈ Pattern.host := by
  rw [← @checkServiceNumber_eq_ok_iff "priority", ← @checkServiceNumber_eq_ok_iff "weight",
    ← @checkServiceNumber_eq_ok_iff "port", ← checkServiceTarget_eq_ok_iff]
  constructor
  · intro h
    obtain ⟨hvalue, hfaults⟩ := eq_ok_iff.mp h
    simp only [checkService, List.append_eq_nil_iff, Option.bind_eq_bind, Option.bind_eq_some_iff,
      Option.pure_def, Option.some.injEq] at hvalue hfaults
    obtain ⟨priority, hpriority, weight, hweight, port, hport, target, htarget, rfl⟩ := hvalue
    obtain ⟨⟨⟨fpriority, fweight⟩, fport⟩, ftarget⟩ := hfaults
    exact ⟨eq_ok_iff.mpr ⟨hpriority, fpriority⟩, eq_ok_iff.mpr ⟨hweight, fweight⟩,
      eq_ok_iff.mpr ⟨hport, fport⟩, eq_ok_iff.mpr ⟨htarget, ftarget⟩⟩
  · rintro ⟨hpriority, hweight, hport, htarget⟩
    rw [checkService, hpriority, hweight, hport, htarget]
    rfl

/-- A flat content is a text under a condition, without a preference. -/
theorem flat_guard_eq_ok_iff {c : Checked String} {p : String → Bool} {f : String → EntryFault}
    {value : RecordValue} {priority : Option UInt16} :
    (c.guard p f).map (fun text => (RecordValue.content text, (none : Option UInt16))) =
        .ok (value, priority) ↔
      ∃ text, c = .ok text ∧ p text = true ∧ value = .content text ∧ priority = none := by
  rw [map_eq_ok_iff]
  refine exists_congr fun text => ?_
  rw [guard_eq_ok_iff, Prod.mk.injEq, and_assoc, eq_comm (b := value), eq_comm (b := priority)]

/-- An alias at the apex that is kept from the proxy. -/
theorem isBareApex_eq_true_iff {e : Entry} {name : String} {proxied : Option Bool}
    (h : e.proxied = proxied.map .bool) :
    isBareApex e (some name) = true ↔ name = Name.apex ∧ proxied = some false := by
  rw [isBareApex, h, Bool.and_eq_true, decide_eq_true_eq, decide_eq_true_eq, Option.some.injEq]
  refine and_congr_right fun _ => ?_
  cases proxied with
  | none => exact Iff.rfl
  | some on => exact Iff.rfl

/-- A value is accepted when it is what the entry says, and the entry is no alias at the apex that
    is kept from the proxy. -/
theorem checkValue_eq_ok_iff {e : Entry} {type : RecordType} {name : String} {value : RecordValue}
    {priority : Option UInt16} :
    checkValue type e (some name) = .ok (value, priority) ↔
      e.Says type value priority ∧ (type = .cname → isBareApex e (some name) = false) := by
  -- One case for each type; those with a flat content differ in its form.
  cases type with
  | a =>
    refine flat_guard_eq_ok_iff.trans ?_
    constructor
    · rintro ⟨text, hcontent, hform, rfl, rfl⟩
      exact ⟨.a (requiredText_eq_ok_iff.mp hcontent) (Ipv4.parse?_isSome_iff.mp hform), nofun⟩
    · rintro ⟨hsaid, _⟩
      cases hsaid with
      | a hcontent hform =>
        exact ⟨_, requiredText_eq_ok_iff.mpr hcontent, Ipv4.parse?_isSome_iff.mpr hform, rfl, rfl⟩
  | aaaa =>
    refine flat_guard_eq_ok_iff.trans ?_
    constructor
    · rintro ⟨text, hcontent, hform, rfl, rfl⟩
      exact ⟨.aaaa (requiredText_eq_ok_iff.mp hcontent) (Ipv6.parse?_isSome_iff.mp hform), nofun⟩
    · rintro ⟨hsaid, _⟩
      cases hsaid with
      | aaaa hcontent hform =>
        exact ⟨_, requiredText_eq_ok_iff.mpr hcontent, Ipv6.parse?_isSome_iff.mpr hform, rfl, rfl⟩
  | cname =>
    refine flat_guard_eq_ok_iff.trans ?_
    constructor
    · rintro ⟨text, hchecked, hform, rfl, rfl⟩
      obtain ⟨hcontent, hapex⟩ := andAlso_eq_ok_iff.mp hchecked
      refine ⟨.cname (requiredText_eq_ok_iff.mp hcontent) (isHostText_iff.mp hform), fun _ => ?_⟩
      rw [← Bool.not_eq_true]
      intro hbare
      rw [if_pos hbare] at hapex
      exact nomatch hapex
    · rintro ⟨hsaid, hapex⟩
      cases hsaid with
      | cname hcontent hform =>
        refine ⟨_, andAlso_eq_ok_iff.mpr ⟨requiredText_eq_ok_iff.mpr hcontent, ?_⟩,
          isHostText_iff.mpr hform, rfl, rfl⟩
        rw [hapex rfl]
        rfl
  | mx =>
    constructor
    · intro h
      obtain ⟨hvalue, hfaults⟩ := eq_ok_iff.mp h
      obtain ⟨fpriority, fcontent⟩ := List.append_eq_nil_iff.mp hfaults
      obtain ⟨text, htext, hrest⟩ := Option.bind_eq_some_iff.mp hvalue
      obtain ⟨n, hn, hpair⟩ := Option.bind_eq_some_iff.mp hrest
      obtain ⟨rfl, rfl⟩ := Prod.mk.inj (Option.some.inj hpair)
      exact ⟨.mx (requiredText_eq_ok_iff.mp (eq_ok_iff.mpr ⟨htext, fcontent⟩))
        (checkPriority_eq_ok_iff.mp (eq_ok_iff.mpr ⟨hn, fpriority⟩)), nofun⟩
    · rintro ⟨hsaid, _⟩
      cases hsaid with
      | mx hcontent hpriority =>
        dsimp only [checkValue]
        rw [requiredText_eq_ok_iff.mpr hcontent, checkPriority_eq_ok_iff.mpr hpriority]
        rfl
  | txt =>
    refine map_eq_ok_iff.trans ?_
    constructor
    · rintro ⟨text, hcontent, hpair⟩
      obtain ⟨rfl, rfl⟩ := Prod.mk.inj hpair
      exact ⟨.txt (requiredText_eq_ok_iff.mp hcontent), nofun⟩
    · rintro ⟨hsaid, _⟩
      cases hsaid with
      | txt hcontent => exact ⟨_, requiredText_eq_ok_iff.mpr hcontent, rfl⟩
  | ns =>
    refine map_eq_ok_iff.trans ?_
    constructor
    · rintro ⟨text, hcontent, hpair⟩
      obtain ⟨rfl, rfl⟩ := Prod.mk.inj hpair
      exact ⟨.ns (requiredText_eq_ok_iff.mp hcontent), nofun⟩
    · rintro ⟨hsaid, _⟩
      cases hsaid with
      | ns hcontent => exact ⟨_, requiredText_eq_ok_iff.mpr hcontent, rfl⟩
  | srv =>
    refine map_eq_ok_iff.trans ?_
    constructor
    · rintro ⟨data, hdata, hpair⟩
      obtain ⟨rfl, rfl⟩ := Prod.mk.inj hpair
      obtain ⟨hpriority, hweight, hport, htarget, hform⟩ := checkService_eq_ok_iff.mp hdata
      exact ⟨.srv hpriority hweight hport htarget hform, nofun⟩
    · rintro ⟨hsaid, _⟩
      cases hsaid with
      | srv hpriority hweight hport htarget hform =>
        exact ⟨_, checkService_eq_ok_iff.mpr ⟨hpriority, hweight, hport, htarget, hform⟩, rfl⟩
  -- The other types may not be declared, and there is nothing to say for them.
  | caa => exact iff_of_false (fun h => nomatch (eq_ok_iff.mp h).1) fun h => nomatch h.1
  | other name => exact iff_of_false (fun h => nomatch (eq_ok_iff.mp h).1) fun h => nomatch h.1

/-! ### Whole entries -/

namespace Entry

variable {e : Entry} {domain : String} {r : Record}

/-- An entry is accepted when each of its checks finds nothing wrong. -/
theorem parse_eq_ok_iff_checks :
    e.parse domain = .ok r ↔
      requiredString "name" e.name = .ok r.name ∧ checkType e.type = .ok r.type ∧
        ZoneSync.nameFaults r.name (some r.type) domain = [] ∧
        checkValue r.type e (some r.name) = .ok (r.value, r.priority) ∧
        checkProxied (some r.type) e.proxied = .ok r.proxied ∧ checkTtl e.ttl = .ok r.ttl ∧
        optionalString "comment" e.comment = .ok r.comment := by
  rw [parse_eq_ok_iff]
  constructor
  · rintro ⟨hfaults, hrecord⟩
    simp only [CheckedEntry.faults, List.append_eq_nil_iff] at hfaults
    simp only [CheckedEntry.record?, Option.bind_eq_bind, Option.bind_eq_some_iff,
      Option.pure_def, Option.some.injEq] at hrecord
    obtain ⟨⟨⟨⟨⟨⟨fname, ftype⟩, fform⟩, fvalue⟩, fproxied⟩, fttl⟩, fcomment⟩ := hfaults
    obtain ⟨⟨value, priority⟩, hvalue, name, hname, type, htype, ttl, httl, proxied, hproxied,
      comment, hcomment, rfl⟩ := hrecord
    -- The checks of the other parts depend on the name and the type, so these come first.
    have cname : requiredString "name" e.name = .ok name := eq_ok_iff.mpr ⟨hname, fname⟩
    have ctype : checkType e.type = .ok type := eq_ok_iff.mpr ⟨htype, ftype⟩
    simp only [check, cname, ctype] at fform hvalue fvalue hproxied fproxied
    exact ⟨cname, ctype, fform, eq_ok_iff.mpr ⟨hvalue, fvalue⟩,
      eq_ok_iff.mpr ⟨hproxied, fproxied⟩, eq_ok_iff.mpr ⟨httl, fttl⟩,
      eq_ok_iff.mpr ⟨hcomment, fcomment⟩⟩
  · rintro ⟨hname, htype, hform, hvalue, hproxied, httl, hcomment⟩
    have hcheck : e.check domain =
        ⟨.ok r.name, .ok r.type, .ok (r.value, r.priority), .ok r.proxied, .ok r.ttl,
          .ok r.comment, []⟩ := by
      rw [check, hname, htype, httl, hcomment]
      show CheckedEntry.mk _ _ (checkValue r.type e (some r.name))
        (checkProxied (some r.type) e.proxied) _ _
        (ZoneSync.nameFaults r.name (some r.type) domain) = _
      rw [hform, hvalue, hproxied]
    rw [hcheck]
    exact ⟨rfl, rfl⟩

/-- A type for which an entry says something may be declared. -/
theorem Says.isManaged {type : RecordType} {value : RecordValue} {priority : Option UInt16}
    (h : e.Says type value priority) : type.isManaged = true := by
  cases h with
  | _ => rfl

/-- **The grammar of records.** Whatever the fields of an entry hold, and for every domain, the
    entry is accepted as a record exactly when it describes that record: no entry outside the
    grammar gets through, and none within it is refused. -/
theorem parse_eq_ok_iff_describes : e.parse domain = .ok r ↔ e.Describes domain r := by
  rw [parse_eq_ok_iff_checks, requiredString_eq_ok_iff, checkType_eq_ok_iff, nameFaults_eq_nil_iff,
    checkValue_eq_ok_iff, checkProxied_eq_ok_iff, checkTtl_eq_ok_iff, optionalString_eq_ok_iff]
  constructor
  · rintro ⟨hname, ⟨htype, _⟩, ⟨hform, hsize⟩, ⟨hsaid, hbare⟩, ⟨hproxied, hproxiable⟩, httl,
      hcomment⟩
    refine ⟨hname, htype, hform, hsize, hsaid, hproxied, hproxiable, ?_, httl, hcomment⟩
    rintro hoff ⟨hcname, hapex⟩
    rw [(isBareApex_eq_true_iff hproxied).mpr ⟨hapex, hoff⟩] at hbare
    exact nomatch hbare hcname
  · intro h
    refine ⟨h.name, ⟨h.type, h.value.isManaged⟩, ⟨h.form, h.size⟩, ⟨h.value, fun hcname => ?_⟩,
      ⟨h.proxied, h.proxiable⟩, h.ttl, h.comment⟩
    rw [← Bool.not_eq_true, isBareApex_eq_true_iff h.proxied]
    exact fun ⟨hapex, hoff⟩ => h.apex hoff ⟨hcname, hapex⟩

end Entry

end ZoneSync
