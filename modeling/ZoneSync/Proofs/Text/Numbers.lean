import ZoneSync.Text.Blank
import ZoneSync.Text.Digits

namespace ZoneSync.Text

/-!
# Letters, white space and numbers

* `isUpper_iff`, `isLower_iff`, `toNat_toLower` — the letters of ASCII, and those in lower case;
* `toLower_eq_iff` — no other character becomes one that is no letter;
* `isBlank_of_isDigit`, `isBlank_of_isAlpha` — digits and letters are not white space;
* `isBlank_toLower` — case does not matter for white space;
* `repr_injective` — different numbers have different digits;
* `readUInt16_repr` — a number of 16 bits is read as it was written.
-/

/-! ### Letters -/

theorem isUpper_iff {c : Char} : c.isUpper = true ↔ 65 ≤ c.toNat ∧ c.toNat ≤ 90 := by
  show decide (c.val ≥ 'A'.val ∧ c.val ≤ 'Z'.val) = true ↔ _
  rw [decide_eq_true_eq]
  exact and_congr UInt32.le_iff_toNat_le UInt32.le_iff_toNat_le

theorem isLower_iff {c : Char} : c.isLower = true ↔ 97 ≤ c.toNat ∧ c.toNat ≤ 122 := by
  show (decide (c.val ≥ 'a'.val) && decide (c.val ≤ 'z'.val)) = true ↔ _
  rw [Bool.and_eq_true, decide_eq_true_eq, decide_eq_true_eq]
  exact and_congr UInt32.le_iff_toNat_le UInt32.le_iff_toNat_le

theorem toLower_eq_self {c : Char} (h : ¬ c.isUpper = true) : c.toLower = c :=
  dif_neg fun hrange => h (decide_eq_true hrange)

/-- A capital and its small letter are a fixed number of characters apart. -/
theorem toNat_toLower {c : Char} (h : c.isUpper = true) : c.toLower.toNat = c.toNat + 32 := by
  have hhigh := (isUpper_iff.mp h).2
  have hsub : ('a'.val - 'A'.val).toNat = 32 := rfl
  have hc : c.val.toNat = c.toNat := rfl
  have hsmall : c.toLower = ⟨c.val + ('a'.val - 'A'.val), _⟩ := dif_pos (of_decide_eq_true h)
  rw [hsmall]
  show (c.val + ('a'.val - 'A'.val)).toNat = c.toNat + 32
  rw [UInt32.toNat_add, hsub, hc]
  omega

/-- Only letters become others in lower case, and what they become is a letter. -/
theorem toLower_eq_iff {c d : Char} (hd : d.isAlpha = false) : c.toLower = d ↔ c = d := by
  by_cases hupper : c.isUpper = true
  · obtain ⟨hlow, hhigh⟩ := isUpper_iff.mp hupper
    have hlower := toNat_toLower hupper
    obtain ⟨hdupper, hdlower⟩ := Bool.or_eq_false_iff.mp hd
    refine iff_of_false ?_ ?_
    · rintro rfl
      rw [Bool.eq_false_iff, Ne, isLower_iff] at hdlower
      omega
    · rintro rfl
      exact Bool.false_ne_true (hdupper.symm.trans hupper)
  · rw [toLower_eq_self hupper]

/-! ### White space -/

/-- The white space of ASCII, and everything beyond it. -/
theorem isBlank_of_lt {c : Char} (h : isBlank c = true) :
    c.toNat ≤ 0x20 ∨ 0x85 ≤ c.toNat := by
  simp only [isBlank, Bool.or_eq_true, Bool.and_eq_true, decide_eq_true_eq, beq_iff_eq] at h
  omega

/-- Digits and letters of ASCII are not white space. -/
theorem isBlank_eq_false {c : Char} (hlow : 0x20 < c.toNat) (hhigh : c.toNat < 0x85) :
    isBlank c = false := by
  rw [Bool.eq_false_iff]
  intro h
  rcases isBlank_of_lt h with h | h <;> omega

theorem isBlank_of_isDigit {c : Char} (h : c.isDigit = true) : isBlank c = false := by
  obtain ⟨hlow, hhigh⟩ := Char.isDigit_iff_toNat.mp h
  have hzero : '0'.toNat = 48 := rfl
  have hnine : '9'.toNat = 57 := rfl
  apply isBlank_eq_false <;> omega

theorem isBlank_of_isAlpha {c : Char} (h : c.isAlpha = true) : isBlank c = false := by
  rcases Bool.or_eq_true_iff.mp h with hupper | hlower
  · obtain ⟨hlow, hhigh⟩ := isUpper_iff.mp hupper
    apply isBlank_eq_false <;> omega
  · obtain ⟨hlow, hhigh⟩ := isLower_iff.mp hlower
    apply isBlank_eq_false <;> omega

/-- Case does not matter for white space. -/
@[simp] theorem isBlank_toLower (c : Char) : isBlank c.toLower = isBlank c := by
  by_cases h : c.isUpper = true
  -- A capital and its small letter are both in the range of ASCII without white space.
  · obtain ⟨hlow, hhigh⟩ := isUpper_iff.mp h
    have hlower := toNat_toLower h
    rw [isBlank_eq_false (c := c) (by omega) (by omega)]
    apply isBlank_eq_false <;> omega
  · rw [toLower_eq_self h]

/-! ### Decimal numbers -/

/-- A number can be read back from its digits. -/
theorem repr_injective : Function.Injective Nat.repr := by
  intro m n h
  have hdigits : Nat.toDigits 10 m = Nat.toDigits 10 n := by
    rw [← Nat.toList_repr, h, Nat.toList_repr]
  rw [← Nat.ofDigitChars_ten_toDigits (n := m), hdigits, Nat.ofDigitChars_ten_toDigits]

theorem digitValue?_of_isDigit {c : Char} (h : c.isDigit = true) :
    digitValue? 10 c = some (c.toNat - '0'.toNat) := by
  obtain ⟨hlow, hhigh⟩ := Char.isDigit_iff_toNat.mp h
  have hzero : '0'.toNat = 48 := rfl
  have hnine : '9'.toNat = 57 := rfl
  have hrange : 0x30 ≤ c.toNat ∧ c.toNat ≤ 0x39 := by omega
  have hsmall : c.toNat - 48 < 10 := by omega
  simp only [digitValue?, if_pos hrange, Option.filter_some, hzero, hsmall, decide_true, if_true]

theorem le_ofDigitChars (cs : List Char) (n : Nat) : n ≤ Nat.ofDigitChars 10 cs n := by
  induction cs generalizing n with
  | nil => exact Nat.le_of_eq Nat.ofDigitChars_nil.symm
  | cons c cs ih =>
    rw [Nat.ofDigitChars_cons]
    have := ih (10 * n + (c.toNat - '0'.toNat))
    omega

/-- Digits are read as the number that they write, as long as it is within the bound. -/
theorem readBoundedFrom_eq_ok {bound n : Nat} {cs : List Char}
    (hdigits : ∀ c ∈ cs, c.isDigit = true) (hbound : Nat.ofDigitChars 10 cs n ≤ bound) :
    readBoundedFrom bound n cs = .ok (Nat.ofDigitChars 10 cs n) := by
  induction cs generalizing n with
  | nil => rw [readBoundedFrom, Nat.ofDigitChars_nil]
  | cons c cs ih =>
    rw [Nat.ofDigitChars_cons] at hbound ⊢
    have hle := le_ofDigitChars cs (10 * n + (c.toNat - '0'.toNat))
    rw [readBoundedFrom, digitValue?_of_isDigit (hdigits c List.mem_cons_self)]
    dsimp only
    rw [if_pos (Nat.le_trans hle hbound)]
    exact ih (fun c' hc' => hdigits c' (List.mem_cons_of_mem _ hc')) hbound

/-- A number of 16 bits is read as it was written. -/
theorem readUInt16_repr (p : UInt16) : readUInt16 (Nat.repr p.toNat) = .ok p := by
  have hdigits : ∀ c ∈ Nat.toDigits 10 p.toNat, c.isDigit = true :=
    fun c hc => Nat.isDigit_of_mem_toDigits (by decide) (by decide) hc
  have hbound : Nat.ofDigitChars 10 (Nat.toDigits 10 p.toNat) 0 ≤ 0xFFFF := by
    rw [Nat.ofDigitChars_ten_toDigits]
    have := p.toNat_lt
    omega
  have hread := readBoundedFrom_eq_ok hdigits hbound
  rw [Nat.ofDigitChars_ten_toDigits] at hread
  have hplus : readBounded 0xFFFF (Nat.repr p.toNat) = .ok p.toNat := by
    rw [readBounded, Nat.toList_repr]
    -- A number has digits, and no sign.
    cases hcs : Nat.toDigits 10 p.toNat with
    | nil => exact absurd hcs Nat.toDigits_ne_nil
    | cons c cs =>
      rw [hcs] at hdigits hread
      have hc : c ≠ '+' := by
        rintro rfl
        exact absurd (hdigits '+' List.mem_cons_self) (by decide)
      split
      · rename_i heq
        exact nomatch heq
      · rename_i heq
        exact absurd (List.cons.inj heq).1 hc
      · rename_i heq
        exact absurd (List.cons.inj heq).1 hc
      · exact hread
  rw [readUInt16, hplus]
  show Except.ok (UInt16.ofNat p.toNat) = .ok p
  rw [UInt16.ofNat_toNat]

end ZoneSync.Text
