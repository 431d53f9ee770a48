import ZoneSync.Proofs.Record.Identity

namespace ZoneSync

/-!
# What a record says

Records are compared by what they say. This has a form of its own, in which everything that makes no
difference is gone, so that two records of one type say the same exactly when the forms are equal.

* `RecordType.reading`, `Service.normal`, `Record.meaning` — the forms of a flat content, of service
  data, and of a whole record;
* `Record.sameValue_iff` — two records of one type say the same when their forms are equal;
* `Record.sameValue_exchange` — a record that says the same as a second one can take its place;
* `Record.sameValue_equivalence` — on the records of one type, saying the same is an equivalence,
  and what does not count for it.
-/

/-- What a flat content says in a record of a type: the address that it writes, or a text. -/
def RecordType.reading (type : RecordType) (text : String) : String ⊕ Ipv6 :=
  match type with
  | .txt => .inl (unquote text)
  | .aaaa =>
    match Ipv6.parse? text with
    | some address => .inr address
    | none => .inl text
  | .cname | .mx | .ns => .inl (Name.normalize text)
  | _ => .inl text

/-- Two contents are compared by what they say. -/
theorem RecordType.sameContent_iff {type : RecordType} {x y : String} :
    type.sameContent x y = true ↔ type.reading x = type.reading y := by
  cases type with
  | aaaa =>
    simp only [sameContent, reading]
    cases hx : Ipv6.parse? x with
    | some v =>
      cases hy : Ipv6.parse? y with
      | some w => simp
      | none =>
        -- A text that is an address is no text that is none.
        have hne : x ≠ y := by
          rintro rfl
          exact Option.some_ne_none v (hx.symm.trans hy)
        simp [hne]
    | none =>
      cases hy : Ipv6.parse? y with
      | some w =>
        have hne : x ≠ y := by
          rintro rfl
          exact Option.some_ne_none w (hy.symm.trans hx)
        simp [hne]
      | none => simp
  | _ => simp [sameContent, reading]

/-- Service data with the target in its normal form. -/
def Service.normal (data : Service) : Service :=
  { data with target := Name.normalize data.target }

/-- Service data are compared by their normal forms. -/
theorem Service.same_iff {x y : Service} : x.same y = true ↔ x.normal = y.normal := by
  simp [same, normal, Service.mk.injEq, and_assoc]

namespace Record

/-- What a record says: its content, with the preference of a mail record, or its service data. -/
inductive Meaning where
  | content (proxied : Bool) (reading : String ⊕ Ipv6) (preference : Option UInt16)
  | service (proxied : Bool) (data : Service)

/-- What a record says. -/
def meaning (r : Record) : Meaning :=
  match r.value with
  | .content text =>
    .content r.effectiveProxied (r.type.reading text) (if r.type = .mx then r.priority else none)
  | .service data => .service r.effectiveProxied data.normal

variable {x y l l' : Record}

/-- Two records of one type are compared by what they say. -/
theorem sameValue_iff (h : x.type = y.type) : x.sameValue y = true ↔ x.meaning = y.meaning := by
  cases hx : x.value with
  | content text =>
    cases hy : y.value with
    | content text' =>
      have hpreference : (y.type = .mx → x.priority = y.priority) ↔
          (if y.type = .mx then x.priority else none) =
            if y.type = .mx then y.priority else none := by
        by_cases hmx : y.type = .mx <;> simp [hmx]
      rw [sameValue_iff_of_content hx]
      simp only [meaning, hx, hy, Meaning.content.injEq, RecordValue.content.injEq,
        exists_eq_left', RecordType.sameContent_iff, h, hpreference]
    | service data => simp [sameValue, meaning, hx, hy]
  | service data =>
    cases hy : y.value with
    | content text => simp [sameValue, meaning, hx, hy]
    | service data' => simp [sameValue, meaning, hx, hy, Service.same_iff]

/-- When two records say the same as a third one, and the first says the same as a fourth, then so
    does the second. -/
theorem sameValue_exchange (hl : x.type = l.type) (hy : y.type = l.type) (hl' : x.type = l'.type)
    (hxl : x.sameValue l = true) (hyl : y.sameValue l = true) (hxl' : x.sameValue l' = true) :
    y.sameValue l' = true := by
  rw [sameValue_iff hl] at hxl
  rw [sameValue_iff hy] at hyl
  rw [sameValue_iff hl'] at hxl'
  rw [sameValue_iff (hy.trans (hl.symm.trans hl'))]
  calc y.meaning
    _ = l.meaning := hyl
    _ = x.meaning := hxl.symm
    _ = l'.meaning := hxl'

/-! ### Saying the same as a relation -/

/-- Records say the same exactly if others do that have the same types, values and applied proxy
    settings, and for mail the same preferences. -/
theorem sameValue_eq_of {x' y' : Record} (htype : x'.type = x.type) (hx : x'.value = x.value)
    (hy : y'.value = y.value) (hxproxied : x'.effectiveProxied = x.effectiveProxied)
    (hyproxied : y'.effectiveProxied = y.effectiveProxied)
    (hpreference : x.type = .mx → x'.priority = x.priority ∧ y'.priority = y.priority) :
    x'.sameValue y' = x.sameValue y := by
  have hmail : (decide (x.type ≠ .mx) || decide (x'.priority = y'.priority)) =
      (decide (x.type ≠ .mx) || decide (x.priority = y.priority)) := by
    by_cases hmx : x.type = .mx
    · rw [(hpreference hmx).1, (hpreference hmx).2]
    · simp [hmx]
  unfold sameValue
  simp only [htype, hx, hy, hxproxied, hyproxied, hmail]

/-- The applied proxy setting may be written out. -/
theorem effectiveProxied_applied (r : Record) :
    ({ r with proxied := some r.effectiveProxied } : Record).effectiveProxied =
      r.effectiveProxied := by
  show (r.type.isProxiable && r.effectiveProxied) = r.effectiveProxied
  unfold effectiveProxied
  rw [← Bool.and_assoc, Bool.and_self]

/-- **Saying the same.** Two records of one type say the same exactly when their forms are equal,
    which is an equivalence. Names, times to live and comments do not count for it, the proxy
    setting counts as it is applied, and the preference counts for mail only. -/
theorem sameValue_equivalence :
    (∀ type, Equivalence fun x y : { r : Record // r.type = type } => x.1.sameValue y.1 = true) ∧
      (∀ x y : Record, x.type = y.type → (x.sameValue y = true ↔ x.meaning = y.meaning)) ∧
      (∀ (x y : Record) (name name' : String) (ttl ttl' : Ttl) (comment comment' : Option String),
        ({ x with name, ttl, comment } : Record).sameValue
          { y with name := name', ttl := ttl', comment := comment' } = x.sameValue y) ∧
      (∀ x y : Record,
        ({ x with proxied := some x.effectiveProxied } : Record).sameValue y = x.sameValue y ∧
          x.sameValue { y with proxied := some y.effectiveProxied } = x.sameValue y) ∧
      ∀ (x y : Record) (p q : Option UInt16), x.type ≠ .mx →
        ({ x with priority := p } : Record).sameValue { y with priority := q } =
          x.sameValue y := by
  refine ⟨fun type => ⟨?_, ?_, ?_⟩, ?_, ?_, ?_, ?_⟩
  · exact fun x => sameValue_refl x.1
  · intro x y hxy
    rw [sameValue_iff (x.2.trans y.2.symm)] at hxy
    rw [sameValue_iff (y.2.trans x.2.symm)]
    exact hxy.symm
  · intro x y z hxy hyz
    rw [sameValue_iff (x.2.trans y.2.symm)] at hxy
    rw [sameValue_iff (y.2.trans z.2.symm)] at hyz
    rw [sameValue_iff (x.2.trans z.2.symm)]
    exact hxy.trans hyz
  · exact fun x y htype => sameValue_iff htype
  · intro x y name name' ttl ttl' comment comment'
    exact sameValue_eq_of rfl rfl rfl rfl rfl fun _ => ⟨rfl, rfl⟩
  · intro x y
    exact ⟨sameValue_eq_of rfl rfl rfl (effectiveProxied_applied x) rfl fun _ => ⟨rfl, rfl⟩,
      sameValue_eq_of rfl rfl rfl rfl (effectiveProxied_applied y) fun _ => ⟨rfl, rfl⟩⟩
  · intro x y p q hmx
    exact sameValue_eq_of rfl rfl rfl rfl rfl fun h => absurd h hmx

/-- A record with an address of IPv6. -/
def addressAs (text : String) : Record where
  name := "www"
  type := .aaaa
  value := .content text

/-- Three spellings of one address. -/
theorem sameValue_equivalence_addressAs :
    (addressAs "2001:db8::1").sameValue (addressAs "2001:DB8:0:0::1") = true ∧
      (addressAs "2001:DB8:0:0::1").sameValue (addressAs "2001:0db8::0:1") = true ∧
      (addressAs "2001:0db8::0:1").sameValue (addressAs "2001:db8::1") = true ∧
      (addressAs "2001:db8::1").meaning = (addressAs "2001:0db8::0:1").meaning ∧
      ({ addressAs "2001:db8::1" with priority := some 10 } : Record).sameValue
        (addressAs "2001:0db8::0:1") = true := by
  obtain ⟨hequivalence, hmeaning, _, _, hpriority⟩ := sameValue_equivalence
  have hfirst : (addressAs "2001:db8::1").sameValue (addressAs "2001:DB8:0:0::1") = true := by
    decide
  have hsecond : (addressAs "2001:DB8:0:0::1").sameValue (addressAs "2001:0db8::0:1") = true := by
    decide
  have hboth := (hequivalence .aaaa).trans (x := ⟨_, rfl⟩) (y := ⟨_, rfl⟩) (z := ⟨_, rfl⟩)
    hfirst hsecond
  refine ⟨hfirst, hsecond, ?_, (hmeaning _ _ rfl).mp hboth, ?_⟩
  · exact (hequivalence .aaaa).symm (x := ⟨_, rfl⟩) (y := ⟨_, rfl⟩) hboth
  · exact (hpriority _ _ (some 10) none (by decide)).trans hboth

end Record

end ZoneSync
