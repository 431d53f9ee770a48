import Mathlib.Data.List.Induction
import Mathlib.Data.List.Nodup
import ZoneSync.Json.Decode

namespace ZoneSync.Json

/-!
# Fields of documents

The order of the fields of an object does not matter to its readers as long as no key is repeated.
Where a document is kept, the last field of a key counts.

* `lookup`, `lookup_eq_of_perm` — the document under a key, in whatever order the fields stand;
* `fieldsOf?_ofFields` — the fields of an object that has no other keys than known ones;
* `part?`, `get?_eq_part?` — a field that is read is the part of the document under its key;
* `lastUnder?`, `exists_fieldsOf?_lastWins_iff` — the fields of a document that was kept;
* `uint16?_ofNat`, `uint32?_ofNat` — numbers are read as they were written;
* `Fields.orElse?_of_get?` — so are fields that may be left out.
-/

/-- The document under a key in a list of fields. -/
def lookup (fields : List (String × Json)) (key : String) : Option Json :=
  (fields.find? (·.1 = key)).map (·.2)

@[simp] theorem Fields.get?_mk (fields : List (String × Json)) (inArray : Bool) (key : String) :
    (Fields.mk fields inArray).get? key = lookup fields key := rfl

@[simp] theorem lookup_nil (key : String) : lookup [] key = none := rfl

@[simp] theorem lookup_cons (key' : String) (value : Json) (fields : List (String × Json))
    (key : String) :
    lookup ((key', value) :: fields) key =
      if key' = key then some value else lookup fields key := by
  rw [lookup, List.find?_cons]
  by_cases h : key' = key
  · rw [if_pos h, decide_eq_true h]
    rfl
  · rw [if_neg h, decide_eq_false h]
    rfl

@[simp] theorem lookup_append (xs ys : List (String × Json)) (key : String) :
    lookup (xs ++ ys) key = (lookup xs key).or (lookup ys key) := by
  rw [lookup, List.find?_append, Option.map_or]
  rfl

variable {fields fields' : List (String × Json)}

/-- Where no key is repeated, every field is found under its key. -/
theorem lookup_eq_some_iff (h : (fields.map (·.1)).Nodup) {key : String} {value : Json} :
    lookup fields key = some value ↔ (key, value) ∈ fields := by
  rw [lookup, Option.map_eq_some_iff]
  constructor
  · rintro ⟨⟨key', value'⟩, hfind, rfl⟩
    have hkey : key' = key := by simpa using List.find?_some hfind
    exact hkey ▸ List.mem_of_find?_eq_some hfind
  · intro hmem
    cases hfind : fields.find? (·.1 = key) with
    | none => exact absurd (decide_eq_true rfl) (List.find?_eq_none.mp hfind _ hmem)
    | some field =>
      have hkey : field.1 = key := by simpa using List.find?_some hfind
      have hsame := List.inj_on_of_nodup_map h (List.mem_of_find?_eq_some hfind) hmem hkey
      exact ⟨field, rfl, congrArg Prod.snd hsame⟩

/-- The order of fields does not matter where no key is repeated. -/
theorem lookup_eq_of_perm (h : fields.Perm fields') (hnodup : (fields'.map (·.1)).Nodup)
    (key : String) : lookup fields key = lookup fields' key := by
  have hnodup' : (fields.map (·.1)).Nodup := (h.map _).nodup_iff.mpr hnodup
  refine Option.ext fun value => ?_
  rw [lookup_eq_some_iff hnodup', lookup_eq_some_iff hnodup, h.mem_iff]

/-- Fields of known keys are all found, where none is repeated. -/
theorem knownFields?_map_some {names : List String} (hknown : ∀ f ∈ fields, f.1 ∈ names)
    (hnodup : (fields.map (·.1)).Nodup) :
    knownFields? names (fields.map fun (key, value) => (some key, value)) = some fields := by
  induction fields with
  | nil => rfl
  | cons field rest ih =>
    obtain ⟨key, value⟩ := field
    obtain ⟨hkey, hrest⟩ := List.forall_mem_cons.mp hknown
    obtain ⟨hfresh, hnodup⟩ := List.nodup_cons.mp hnodup
    -- The reader refuses a known key that comes again, and this one does not.
    have hany : rest.any (·.1 = key) = false := by
      rw [List.any_eq_false]
      intro f hf hsame
      have hkey : f.1 = key := of_decide_eq_true hsame
      exact hfresh (List.mem_map.mpr ⟨f, hf, hkey⟩)
    rw [List.map_cons, knownFields?, ih hrest hnodup]
    show (if key ∉ names then some rest
      else if rest.any (·.1 = key) then none else some ((key, value) :: rest)) = _
    rw [if_neg (not_not_intro hkey), hany]
    rfl

theorem fieldsOf?_ofFields {names : List String} (hknown : ∀ f ∈ fields, f.1 ∈ names)
    (hnodup : (fields.map (·.1)).Nodup) :
    (ofFields fields).fieldsOf? names = some ⟨fields, false⟩ := by
  rw [ofFields, fieldsOf?, knownFields?_map_some hknown hnodup]
  rfl

/-- The fields of an object are those that it was made of. -/
theorem ofFields_injective : Function.Injective ofFields := by
  intro fields fields' h
  refine List.map_injective_iff.mpr ?_ (Json.object.inj h)
  rintro ⟨key, value⟩ ⟨key', value'⟩ hfield
  obtain ⟨hkey, hvalue⟩ := Prod.mk.inj hfield
  rw [Option.some.inj hkey, hvalue]

/-! ### Parts of documents -/

/-- The part of a document under a key: a field of an object, or the item of an array that stands at
    the place of the key. -/
def part? (names : List String) (key : String) : Json → Option Json
  | .object fields => (fields.find? (·.1 = some key)).map (·.2)
  | .array items => ((names.zip items).find? (·.1 = key)).map (·.2)
  | _ => none

/-- Known fields are found as they stand in the object. -/
theorem find?_knownFields? {names : List String} {fields : List (Option String × Json)}
    {found : List (String × Json)} (h : knownFields? names fields = some found) {key : String}
    (hkey : key ∈ names) :
    (found.find? (·.1 = key)).map (·.2) = (fields.find? (·.1 = some key)).map (·.2) := by
  induction fields generalizing found with
  | nil =>
    rw [← Option.some.inj h]
    rfl
  | cons field fields ih =>
    obtain ⟨key' | key', value⟩ := field
    · exact absurd h.symm (Option.some_ne_none found)
    · simp only [knownFields?, Option.bind_eq_bind, Option.bind_eq_some_iff] at h
      obtain ⟨rest, hrest, h⟩ := h
      split at h
      · -- A field that is passed over has another key than the one looked for.
        rename_i hunknown
        have hne : key' ≠ key := fun heq => hunknown (heq ▸ hkey)
        rw [← Option.some.inj h, ih hrest, List.find?_cons_of_neg (by simpa using hne)]
      · split at h
        · exact absurd h.symm (Option.some_ne_none found)
        · rw [← Option.some.inj h, List.find?_cons, List.find?_cons]
          by_cases heq : key' = key <;> simp [heq, ih hrest]

/-- A field is the part of the document under its key. -/
theorem get?_eq_part? {names : List String} {j : Json} {fs : Fields}
    (h : j.fieldsOf? names = some fs) {key : String} (hkey : key ∈ names) :
    fs.get? key = j.part? names key := by
  cases j with
  | object fields =>
    obtain ⟨found, hfound, rfl⟩ := Option.map_eq_some_iff.mp h
    exact find?_knownFields? hfound hkey
  | array items =>
    simp only [fieldsOf?, Option.ite_none_right_eq_some, Option.some.injEq] at h
    rw [← h.2]
    rfl
  | _ => exact absurd h.symm (Option.some_ne_none fs)

/-! ### Repeated keys -/

/-- The document that counts under a key: that of the last field with it. -/
def lastUnder? (key : String) (fields : List (Option String × Json)) : Option Json :=
  (fields.reverse.find? (·.1 = some key)).map (·.2)

section Kept

variable {key key' : Option String} {value : Json} {kept : List (Option String × Json)}

theorem find?_putField : (putField key value kept).find? (·.1 = key') =
    if key = key' then some (key, value) else kept.find? (·.1 = key') := by
  induction kept with
  | nil => by_cases h : key = key' <;> simp [putField, h]
  | cons field kept ih =>
    rw [putField]
    by_cases hfield : field.1 = key
    · rw [if_pos hfield]
      by_cases h : key = key' <;> simp [hfield, h]
    · rw [if_neg hfield, List.find?_cons, List.find?_cons, ih]
      by_cases h : field.1 = key'
      · have hne : key ≠ key' := fun heq => hfield (h.trans heq.symm)
        simp [h, hne]
      · simp [h]

theorem map_fst_putField : (putField key value kept).map (·.1) =
    if key ∈ kept.map (·.1) then kept.map (·.1) else kept.map (·.1) ++ [key] := by
  induction kept with
  | nil => simp [putField]
  | cons field kept ih =>
    rw [putField]
    by_cases hfield : field.1 = key
    · simp [hfield]
    · rw [if_neg hfield, List.map_cons, ih, List.map_cons]
      by_cases hmem : key ∈ kept.map (·.1)
      · rw [if_pos hmem, if_pos (List.mem_cons_of_mem _ hmem)]
      · have hnew : key ∉ field.1 :: kept.map (·.1) := by
          rw [List.mem_cons, not_or]
          exact ⟨fun h => hfield h.symm, hmem⟩
        rw [if_neg hmem, if_neg hnew, List.cons_append]

end Kept

/-- Fields that are kept have the keys of those that were there, none of them twice, and under each
    the document of the last. -/
theorem lastWins_object (fields : List (Option String × Json)) :
    ∃ kept, lastWins (.object fields) = .object kept ∧ (kept.map (·.1)).Nodup ∧
      (∀ key, key ∈ kept.map (·.1) ↔ key ∈ fields.map (·.1)) ∧
      ∀ key, (kept.find? (·.1 = some key)).map (·.2) = lastUnder? key fields := by
  refine ⟨_, rfl, ?_⟩
  -- One more field at the end is put among those that are kept so far.
  induction fields using List.reverseRecOn with
  | nil => exact ⟨List.nodup_nil, fun _ => Iff.rfl, fun _ => rfl⟩
  | append_singleton fields field ih =>
    obtain ⟨hnodup, hkeys, hlast⟩ := ih
    rw [List.foldl_append, List.foldl_cons, List.foldl_nil]
    refine ⟨?_, fun key => ?_, fun key => ?_⟩
    · rw [map_fst_putField]
      split
      · exact hnodup
      · rename_i hnew
        exact hnodup.append (List.nodup_singleton _) (List.disjoint_singleton.mpr hnew)
    · rw [map_fst_putField, List.map_append, List.mem_append, ← hkeys, List.map_singleton,
        List.mem_singleton]
      split
      · rename_i hmem
        exact ⟨.inl, fun h => h.elim id fun heq => heq ▸ hmem⟩
      · rw [List.mem_append, List.mem_singleton]
    · rw [find?_putField, lastUnder?, List.reverse_append, List.reverse_singleton,
        List.singleton_append, List.find?_cons]
      by_cases h : field.1 = some key
      · simp [h]
      · rw [if_neg h, hlast, decide_eq_false h]
        rfl

/-- Fields are known when their keys are texts of which none is repeated. -/
theorem exists_knownFields?_iff (names : List String) {kept : List (Option String × Json)}
    (hnodup : (kept.map (·.1)).Nodup) :
    (∃ found, knownFields? names kept = some found) ↔
      ∀ key ∈ kept.map (·.1), key.isSome = true := by
  induction kept with
  | nil => exact ⟨fun _ key hkey => absurd hkey List.not_mem_nil, fun _ => ⟨[], rfl⟩⟩
  | cons field kept ih =>
    obtain ⟨none | key, value⟩ := field
    · refine iff_of_false (fun ⟨found, h⟩ => nomatch h) fun h => ?_
      exact Bool.false_ne_true (h none List.mem_cons_self)
    · obtain ⟨hnew, hnodup⟩ := List.nodup_cons.mp hnodup
      have hkey : (some key).isSome = true := rfl
      rw [List.map_cons, List.forall_mem_cons, and_iff_right hkey, ← ih hnodup]
      constructor
      · rintro ⟨found, h⟩
        obtain ⟨rest, hrest, _⟩ := Option.bind_eq_some_iff.mp h
        exact ⟨rest, hrest⟩
      · rintro ⟨rest, hrest⟩
        have hread : knownFields? names ((some key, value) :: kept) =
            if key ∉ names then some rest
            else if rest.any (·.1 = key) then none else some ((key, value) :: rest) := by
          rw [knownFields?, hrest]
          rfl
        by_cases hkey : key ∈ names
        · -- The key is not repeated, and so it was not found further on.
          have hany : rest.any (·.1 = key) = false := by
            rw [List.any_eq_false]
            intro f hf hsame
            have hfind := find?_knownFields? hrest hkey
            have hnone : kept.find? (·.1 = some key) = none := by
              rw [List.find?_eq_none]
              intro g hg heq
              exact hnew (List.mem_map.mpr ⟨g, hg, of_decide_eq_true heq⟩)
            rw [hnone, Option.map_none, Option.map_eq_none_iff, List.find?_eq_none] at hfind
            exact hfind f hf hsame
          rw [hread, if_neg (not_not_intro hkey), hany]
          exact ⟨_, rfl⟩
        · exact ⟨rest, hread.trans (if_pos hkey)⟩

/-- The fields of an object that was kept: they are there when all keys are texts, and each is the
    last one of its key. -/
theorem exists_fieldsOf?_lastWins_iff (names : List String)
    (fields : List (Option String × Json)) :
    (∃ fs, (lastWins (.object fields)).fieldsOf? names = some fs) ↔
      ∀ f ∈ fields, f.1.isSome = true := by
  obtain ⟨kept, hkept, hnodup, hkeys, _⟩ := lastWins_object fields
  have htexts : (∀ f ∈ fields, f.1.isSome = true) ↔
      ∀ key ∈ kept.map (·.1), key.isSome = true := by
    simp only [hkeys, List.forall_mem_map]
  rw [htexts, ← exists_knownFields?_iff names hnodup, hkept]
  constructor
  · rintro ⟨fs, h⟩
    obtain ⟨found, hfound, _⟩ := Option.map_eq_some_iff.mp h
    exact ⟨found, hfound⟩
  · rintro ⟨found, hfound⟩
    exact ⟨_, congrArg (Option.map _) hfound⟩

theorem get?_lastWins {names : List String} {fields : List (Option String × Json)} {fs : Fields}
    (h : (lastWins (.object fields)).fieldsOf? names = some fs) {key : String}
    (hkey : key ∈ names) : fs.get? key = lastUnder? key fields := by
  obtain ⟨kept, hkept, _, _, hlast⟩ := lastWins_object fields
  rw [get?_eq_part? h hkey, hkept]
  exact hlast key

/-! ### Plain values -/

/-- Whether a document is a number of 16 bits. -/
def IsUInt16 (n : UInt16) (j : Json) : Prop :=
  ∃ k, j = .number k ∧ k.integer? = some (n.toNat : Int)

theorem uint16?_eq_some_iff {j : Json} {n : UInt16} : j.uint16? = some n ↔ j.IsUInt16 n := by
  rw [uint16?, Option.map_eq_some_iff]
  constructor
  · rintro ⟨m, hm, rfl⟩
    unfold bounded? at hm
    split at hm
    · rename_i k hk
      simp only [Option.ite_none_right_eq_some, Option.some.injEq] at hm
      obtain ⟨hbound, rfl⟩ := hm
      rw [IsUInt16, UInt16.toNat_ofNat_of_lt' (Nat.lt_succ_of_le hbound)]
      cases j with
      | number numeral => exact ⟨numeral, rfl, hk⟩
      | _ => exact nomatch hk
    · exact nomatch hm
  · rintro ⟨k, rfl, hk⟩
    have hint : (Json.number k).integer? = some (Int.ofNat n.toNat) := hk
    refine ⟨n.toNat, ?_, UInt16.ofNat_toNat⟩
    rw [bounded?, hint]
    exact if_pos (Nat.le_of_lt_succ n.toNat_lt)

theorem text?_eq_some_iff {j : Json} {s : String} : j.text? = some s ↔ j = ofText s := by
  cases j with
  | string text => exact ⟨fun h => congrArg Json.string h, fun h => Json.string.inj h⟩
  | _ => exact iff_of_false (fun h => nomatch h) (fun h => nomatch h)

theorem bounded?_ofNat {bound n : Nat} (hn : n ≤ bound) (hbound : bound < UInt64.size) :
    (ofNat n).bounded? bound = some n := by
  have hint : (ofNat n).integer? = some (Int.ofNat n) :=
    Numeral.integer?_ofNat (Nat.lt_of_le_of_lt hn hbound)
  rw [bounded?, hint]
  exact if_pos hn

@[simp] theorem uint16?_ofNat (n : UInt16) : (ofNat n.toNat).uint16? = some n := by
  rw [uint16?, bounded?_ofNat (Nat.le_of_lt_succ n.toNat_lt) (by decide), Option.map_some,
    UInt16.ofNat_toNat]

@[simp] theorem uint32?_ofNat (n : UInt32) : (ofNat n.toNat).uint32? = some n := by
  rw [uint32?, bounded?_ofNat (Nat.le_of_lt_succ n.toNat_lt) (by decide), Option.map_some,
    UInt32.ofNat_toNat]

/-- What a reader makes of a document other than null, it makes of it where null may stand too. -/
theorem nullable?_eq_some_some {α : Type} {read? : Json → Option α} {j : Json} {x : α}
    (hnull : j ≠ .null) (hread : read? j = some x) : nullable? read? j = some (some x) := by
  cases j with
  | null => exact absurd rfl hnull
  | _ => exact congrArg (Option.map some) hread

/-- A field that is written when it has a value is read as that value. -/
theorem Fields.orElse?_of_get? {α : Type} {fs : Fields} {key : String} {value : Option α}
    {read? : Json → Option α} (toJson : α → Json)
    (hread : ∀ x ∈ value, Json.nullable? read? (toJson x) = some (some x))
    (hget : fs.get? key = value.map toJson) :
    fs.orElse? key none (Json.nullable? read?) = some value := by
  rw [orElse?, hget]
  cases value with
  | none => rfl
  | some x => exact hread x rfl

end ZoneSync.Json
