import Mathlib.Data.List.Induction
import ZoneSync.Proofs.Text.Numbers

namespace ZoneSync.Text

/-!
# Digits of numbers

* `toDigits_ofDigitChars` — decimal digits without a leading zero are those of the number that they
  write;
* `readDigits?_ten_eq_some_iff` — which number decimal digits write;
* `IsNumeral`, `readUInt16_eq_ok_iff` — numerals of 16 bits, with a plus sign or without;
* `readDigits?_isSome_iff`, `isHexDigit` — which characters can be read in a base;
* `readDigits?_toDigits_sixteen` — hexadecimal digits are read back.
-/

/-! ### Decimal digits -/

/-- A digit is the one of its value. -/
theorem digitChar_toNat_sub {c : Char} (h : c.isDigit = true) :
    Nat.digitChar (c.toNat - '0'.toNat) = c := by
  obtain ⟨hlow, hhigh⟩ := Char.isDigit_iff_toNat.mp h
  have hzero : '0'.toNat = 48 := rfl
  have hnine : '9'.toNat = 57 := rfl
  apply Char.toNat_inj.mp
  rw [Nat.toNat_digitChar_of_lt_ten (by omega)]
  omega

/-- Digits are those of the number that they write, unless a zero stands in front. -/
theorem toDigits_ofDigitChars {cs : List Char} (hdigits : ∀ c ∈ cs, c.isDigit = true)
    (hne : cs ≠ []) (hzero : ∀ rest, cs = '0' :: rest → rest = []) :
    Nat.toDigits 10 (Nat.ofDigitChars 10 cs 0) = cs := by
  -- The number grows by its last digit.
  induction cs using List.reverseRecOn with
  | nil => exact absurd rfl hne
  | append_singleton front c ih =>
    have hc : c.isDigit = true := hdigits c (List.mem_append_right _ (List.mem_singleton.mpr rfl))
    have hsmall : c.toNat - '0'.toNat < 10 := by
      obtain ⟨hlow, hhigh⟩ := Char.isDigit_iff_toNat.mp hc
      have hzero : '0'.toNat = 48 := rfl
      have hnine : '9'.toNat = 57 := rfl
      omega
    rw [Nat.ofDigitChars_append, Nat.ofDigitChars_cons, Nat.ofDigitChars_nil]
    by_cases hfront : front = []
    · rw [hfront, Nat.ofDigitChars_nil, Nat.mul_zero, Nat.zero_add,
        Nat.toDigits_of_lt_base hsmall, digitChar_toNat_sub hc, List.nil_append]
    · have hread := ih (fun d hd => hdigits d (List.mem_append_left _ hd)) hfront
        (fun rest hrest => by
          have hnil := hzero (rest ++ [c]) (by rw [hrest, List.cons_append])
          exact absurd hnil (List.append_ne_nil_of_right_ne_nil _ (List.cons_ne_nil c [])))
      have hpos : 0 < Nat.ofDigitChars 10 front 0 := by
        rw [Nat.pos_iff_ne_zero]
        intro hvalue
        rw [hvalue, Nat.toDigits_zero] at hread
        exact absurd (hzero [c] (by rw [← hread]; rfl)) (List.cons_ne_nil c [])
      rw [← Nat.toDigits_append_toDigits (by decide) hpos hsmall, hread,
        Nat.toDigits_of_lt_base hsmall, digitChar_toNat_sub hc]

/-- A number that is written with a zero in front is zero. -/
theorem eq_nil_of_toDigits_eq_cons {n : Nat} {rest : List Char}
    (h : Nat.toDigits 10 n = '0' :: rest) : rest = [] := by
  induction n using Nat.base_induction 10 (by decide) generalizing rest with
  | single m hm =>
    rw [Nat.toDigits_of_lt_base hm] at h
    exact (List.cons.inj h).2.symm
  | digit m k hk hm ih =>
    rw [← Nat.toDigits_append_toDigits (by decide) hm hk] at h
    obtain ⟨d, front, hfront⟩ := List.exists_cons_of_ne_nil (Nat.toDigits_ne_nil (n := m) (b := 10))
    rw [hfront, List.cons_append] at h
    rw [(List.cons.inj h).1] at hfront
    -- What stands before the last digit would write zero.
    have hzero := congrArg (Nat.ofDigitChars 10 · 0) hfront
    rw [ih hfront] at hzero
    rw [Nat.ofDigitChars_ten_toDigits] at hzero
    exact absurd hzero (Nat.ne_of_gt hm)

theorem isDigit_of_digitValue? {c : Char} {d : Nat} (h : digitValue? 10 c = some d) :
    c.isDigit = true := by
  unfold digitValue? at h
  dsimp only at h
  obtain ⟨hvalue, hsmall⟩ := Option.filter_eq_some_iff.mp h
  rw [decide_eq_true_eq] at hsmall
  have hzero : '0'.toNat = 48 := rfl
  have hnine : '9'.toNat = 57 := rfl
  rw [Char.isDigit_iff_toNat]
  split at hvalue
  · omega
  · split at hvalue
    · have := Option.some.inj hvalue
      omega
    · split at hvalue
      · have := Option.some.inj hvalue
        omega
      · exact nomatch hvalue

theorem foldlM_digitValue?_ten_eq_some_iff {cs : List Char} {m n : Nat} :
    cs.foldlM (fun n c => (digitValue? 10 c).map (10 * n + ·)) m = some n ↔
      (∀ c ∈ cs, c.isDigit = true) ∧ Nat.ofDigitChars 10 cs m = n := by
  induction cs generalizing m with
  | nil =>
    rw [Nat.ofDigitChars_nil]
    exact ⟨fun h => ⟨fun c hc => absurd hc List.not_mem_nil, Option.some.inj h⟩,
      fun h => congrArg some h.2⟩
  | cons c rest ih =>
    rw [List.foldlM_cons, List.forall_mem_cons, Nat.ofDigitChars_cons]
    constructor
    · intro h
      obtain ⟨k, hk, hrest⟩ := Option.bind_eq_some_iff.mp h
      obtain ⟨d, hd, rfl⟩ := Option.map_eq_some_iff.mp hk
      have hc := isDigit_of_digitValue? hd
      rw [digitValue?_of_isDigit hc] at hd
      obtain rfl := Option.some.inj hd
      obtain ⟨hdigits, hn⟩ := ih.mp hrest
      exact ⟨⟨hc, hdigits⟩, hn⟩
    · rintro ⟨⟨hc, hdigits⟩, hn⟩
      rw [digitValue?_of_isDigit hc]
      exact ih.mpr ⟨hdigits, hn⟩

/-- Decimal digits write their number. -/
theorem readDigits?_ten_eq_some_iff {cs : List Char} {n : Nat} :
    readDigits? 10 cs = some n ↔
      (∀ c ∈ cs, c.isDigit = true) ∧ Nat.ofDigitChars 10 cs 0 = n :=
  foldlM_digitValue?_ten_eq_some_iff

/-! ### Numerals within a bound -/

/-- A numeral of a number: decimal digits, with a plus sign in front or without. -/
def IsNumeral (n : Nat) (cs : List Char) : Prop :=
  ∃ digits, (cs = digits ∨ cs = '+' :: digits) ∧ digits ≠ [] ∧
    (∀ c ∈ digits, c.isDigit = true) ∧ Nat.ofDigitChars 10 digits 0 = n

theorem readBoundedFrom_eq_ok_iff {bound n m : Nat} {cs : List Char} (hn : n ≤ bound) :
    readBoundedFrom bound n cs = .ok m ↔
      (∀ c ∈ cs, c.isDigit = true) ∧ Nat.ofDigitChars 10 cs n = m ∧ m ≤ bound := by
  constructor
  · intro h
    induction cs generalizing n with
    | nil =>
      obtain rfl := Except.ok.inj h
      exact ⟨fun c hc => absurd hc List.not_mem_nil, Nat.ofDigitChars_nil, hn⟩
    | cons c rest ih =>
      unfold readBoundedFrom at h
      split at h
      · exact nomatch h
      · rename_i d hd
        split at h
        · rename_i hle
          have hc := isDigit_of_digitValue? hd
          rw [digitValue?_of_isDigit hc] at hd
          obtain ⟨hrest, hvalue, hm⟩ := ih hle h
          rw [Nat.ofDigitChars_cons, Option.some.inj hd]
          exact ⟨List.forall_mem_cons.mpr ⟨hc, hrest⟩, hvalue, hm⟩
        · exact nomatch h
  · rintro ⟨hdigits, rfl, hbound⟩
    exact readBoundedFrom_eq_ok hdigits hbound

/-- A text is read as a number within a bound when it is a numeral of the number. -/
theorem readBounded_eq_ok_iff {bound m : Nat} {s : String} :
    readBounded bound s = .ok m ↔ IsNumeral m s.toList ∧ m ≤ bound := by
  have hplus : ¬ '+'.isDigit = true := by decide
  unfold readBounded
  split
  · rename_i hnil
    refine iff_of_false (fun h => nomatch h) ?_
    rintro ⟨⟨digits, hdigits, hne, _⟩, _⟩
    rw [hnil] at hdigits
    rcases hdigits with rfl | hcons
    · exact hne rfl
    · exact nomatch hcons
  · rename_i hsign
    refine iff_of_false (fun h => nomatch h) ?_
    rintro ⟨⟨digits, hdigits, hne, hall, _⟩, _⟩
    rw [hsign] at hdigits
    rcases hdigits with rfl | hcons
    · exact hplus (hall '+' List.mem_cons_self)
    · exact hne (List.cons.inj hcons).2.symm
  · rename_i digits hempty hsign
    rw [readBoundedFrom_eq_ok_iff (Nat.zero_le bound), hsign]
    constructor
    · rintro ⟨hall, hvalue, hbound⟩
      exact ⟨⟨digits, .inr rfl, hempty, hall, hvalue⟩, hbound⟩
    · rintro ⟨⟨digits', hdigits | hdigits, _, hall, hvalue⟩, hbound⟩
      · exact absurd (hall '+' (hdigits ▸ List.mem_cons_self)) hplus
      · obtain rfl := (List.cons.inj hdigits).2
        exact ⟨hall, hvalue, hbound⟩
  · rename_i hnil _ hsign
    rw [readBoundedFrom_eq_ok_iff (Nat.zero_le bound)]
    constructor
    · rintro ⟨hall, hvalue, hbound⟩
      exact ⟨⟨_, .inl rfl, hnil, hall, hvalue⟩, hbound⟩
    · rintro ⟨⟨digits, hdigits | hdigits, hne, hall, hvalue⟩, hbound⟩
      · exact ⟨hdigits ▸ hall, hdigits ▸ hvalue, hbound⟩
      · exact absurd hdigits (hsign digits)

/-- A text is read as a number of 16 bits when it is a numeral of the number. -/
theorem readUInt16_eq_ok_iff {s : String} {p : UInt16} :
    readUInt16 s = .ok p ↔ IsNumeral p.toNat s.toList := by
  have hp : p.toNat ≤ 0xFFFF := Nat.le_of_lt_succ p.toNat_lt
  constructor
  · intro h
    unfold readUInt16 at h
    cases hread : readBounded 0xFFFF s with
    | error e =>
      rw [hread] at h
      exact nomatch h
    | ok m =>
      rw [hread] at h
      obtain ⟨hnumeral, hm⟩ := readBounded_eq_ok_iff.mp hread
      have hvalue : p.toNat = m := by
        rw [← Except.ok.inj h]
        exact UInt16.toNat_ofNat_of_lt' (Nat.lt_succ_of_le hm)
      rw [hvalue]
      exact hnumeral
  · intro h
    rw [readUInt16, readBounded_eq_ok_iff.mpr ⟨h, hp⟩]
    show Except.ok (UInt16.ofNat p.toNat) = .ok p
    rw [UInt16.ofNat_toNat]

/-! ### Digits of other bases -/

/-- A text can be read when all of its characters are digits. -/
theorem readDigits?_isSome_iff {base : Nat} {cs : List Char} :
    (readDigits? base cs).isSome = true ↔ ∀ c ∈ cs, (digitValue? base c).isSome = true := by
  rw [readDigits?]
  generalize 0 = n
  induction cs generalizing n with
  | nil => exact ⟨fun _ c hc => absurd hc List.not_mem_nil, fun _ => rfl⟩
  | cons c rest ih =>
    rw [List.foldlM_cons, List.forall_mem_cons]
    cases digitValue? base c with
    | none =>
      constructor
      · exact fun h => nomatch h
      · exact fun h => nomatch h.1
    | some d => exact ⟨fun h => ⟨rfl, (ih _).mp h⟩, fun h => (ih _).mpr h.2⟩

/-- A text with one more digit is read as the number that it continues. -/
theorem readDigits?_append_singleton {base n d : Nat} {cs : List Char} {c : Char}
    (hcs : readDigits? base cs = some n) (hc : digitValue? base c = some d) :
    readDigits? base (cs ++ [c]) = some (base * n + d) := by
  rw [readDigits?] at hcs ⊢
  rw [List.foldlM_append, hcs]
  show (digitValue? base c).map (base * n + ·) >>= pure = _
  rw [hc]
  rfl

/-- Hexadecimal digits are read as the number of which they are. -/
theorem readDigits?_toDigits_sixteen (n : Nat) :
    readDigits? 16 (Nat.toDigits 16 n) = some n := by
  have hdigit : ∀ d < 16, digitValue? 16 (Nat.digitChar d) = some d := by decide
  induction n using Nat.base_induction 16 (by decide) with
  | single d hd =>
    rw [Nat.toDigits_of_lt_base hd]
    have hread : readDigits? 16 ([] ++ [Nat.digitChar d]) = some (16 * 0 + d) :=
      readDigits?_append_singleton rfl (hdigit d hd)
    rwa [Nat.mul_zero, Nat.zero_add] at hread
  | digit m d hd hm ih =>
    rw [← Nat.toDigits_append_toDigits (by decide) hm hd, Nat.toDigits_of_lt_base hd]
    exact readDigits?_append_singleton ih (hdigit d hd)

/-- The hexadecimal digits, in either case. -/
def isHexDigit (c : Char) : Bool :=
  c.isDigit || ('a' ≤ c && c ≤ 'f') || ('A' ≤ c && c ≤ 'F')

theorem digitValue?_sixteen_isSome (c : Char) :
    (digitValue? 16 c).isSome = isHexDigit c := by
  have hle : ∀ {a b : Char}, a ≤ b ↔ a.toNat ≤ b.toNat := UInt32.le_iff_toNat_le
  rw [Bool.eq_iff_iff, isHexDigit, Bool.or_eq_true, Bool.or_eq_true, Bool.and_eq_true,
    Bool.and_eq_true, Char.isDigit_iff_toNat, decide_eq_true_eq, decide_eq_true_eq,
    decide_eq_true_eq, decide_eq_true_eq, hle, hle, hle, hle]
  have h0 : '0'.toNat = 48 := rfl
  have h9 : '9'.toNat = 57 := rfl
  have ha : 'a'.toNat = 97 := rfl
  have hf : 'f'.toNat = 102 := rfl
  have hA : 'A'.toNat = 65 := rfl
  have hF : 'F'.toNat = 70 := rfl
  unfold digitValue?
  dsimp only
  -- The letters beyond the sixth have values, but not in this base.
  rw [Option.isSome_filter]
  split
  · rw [Option.any_some, decide_eq_true_eq]
    omega
  · split
    · rw [Option.any_some, decide_eq_true_eq]
      omega
    · split
      · rw [Option.any_some, decide_eq_true_eq]
        omega
      · rw [Option.any_none]
        constructor
        · exact fun h => nomatch h
        · omega

end ZoneSync.Text
