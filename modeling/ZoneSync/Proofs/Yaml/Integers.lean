import ZoneSync.Proofs.Text.Digits
import ZoneSync.Yaml.Scalar

namespace ZoneSync.Yaml

open Text

/-!
# How integers are written

A plain scalar is an integer in one of several forms: with a sign or without, in decimal digits, or
with a mark in front in those of another base. An integer is put back into text in decimal digits,
with a sign only if it is negative, so that most forms are not the text of their integer.

* `Sign`, `Radix`, `IntegerForm` — the forms, with the text of each;
* `IntegerForm.Writes` — which integer a form writes;
* `integerLiteral?_eq_some_iff` — the texts that are read as an integer are those of its forms;
* `IntegerForm.toString_eq_iff` — which forms are the text of their integer.
-/

/-! ### Forms -/

/-- What may stand in front of an integer. -/
inductive Sign where
  | none
  | plus
  | minus
  deriving DecidableEq, Repr

namespace Sign

/-- The characters of a sign. -/
def chars : Sign → List Char
  | none => []
  | plus => ['+']
  | minus => ['-']

/-- A number under a sign. -/
def apply : Sign → Nat → Int
  | minus, n => -n
  | _, n => n

end Sign

/-- The bases in which integers are written. -/
inductive Radix where
  | decimal
  | hexadecimal
  | octal
  | binary
  deriving DecidableEq, Repr

namespace Radix

/-- The number of digits of a base. -/
def base : Radix → Nat
  | decimal => 10
  | hexadecimal => 16
  | octal => 8
  | binary => 2

/-- The mark of a base in front of the digits. -/
def mark : Radix → List Char
  | decimal => []
  | hexadecimal => ['0', 'x']
  | octal => ['0', 'o']
  | binary => ['0', 'b']

end Radix

/-- A form of an integer. -/
structure IntegerForm where
  sign : Sign
  radix : Radix
  digits : List Char
  deriving DecidableEq, Repr

namespace IntegerForm

/-- The text of a form. -/
def text (x : IntegerForm) : List Char := x.sign.chars ++ (x.radix.mark ++ x.digits)

/-- A form writes an integer: there are digits of its base, and no zero too many stands in front of
    decimal ones. -/
structure Writes (x : IntegerForm) (n : Int) : Prop where
  ne_nil : x.digits ≠ []
  value : ∃ m, readDigits? x.radix.base x.digits = some m ∧ x.sign.apply m = n
  lead : x.radix = .decimal → ∀ rest, x.digits = '0' :: rest → rest = []

/-- Whether a form is in decimal digits, without a plus sign and without a minus sign for zero. -/
def isPlain (x : IntegerForm) : Bool :=
  x.radix = .decimal && (x.sign = .none || (x.sign = .minus && x.digits ≠ ['0']))

end IntegerForm

/-! ### Reading without a sign -/

/-- The number that a text without a sign writes. -/
def unsigned? (cs : List Char) : Option Nat :=
  match basePrefix? cs with
  | some (base, digits) => magnitude? base digits
  | none =>
    match cs with
    | '0' :: _ :: _ => none
    | _ => magnitude? 10 cs

theorem unsigned?_of_mark {cs digits : List Char} {base : Nat}
    (hbase : basePrefix? cs = some (base, digits)) : unsigned? cs = magnitude? base digits := by
  simp only [unsigned?, hbase]

theorem unsigned?_of_leadingZero {c : Char} {rest : List Char}
    (hbase : basePrefix? ('0' :: c :: rest) = none) : unsigned? ('0' :: c :: rest) = none := by
  simp only [unsigned?, hbase]

theorem unsigned?_of_decimal {cs : List Char} (hbase : basePrefix? cs = none)
    (hlead : ∀ c rest, cs ≠ '0' :: c :: rest) : unsigned? cs = magnitude? 10 cs := by
  simp only [unsigned?, hbase]

theorem magnitude?_eq_some_iff {base m : Nat} {cs : List Char} :
    magnitude? base cs = some m ↔ cs ≠ [] ∧ readDigits? base cs = some m := by
  unfold magnitude?
  cases cs with
  | nil => simp
  | cons c rest => simp

/-- A mark of a base is one of those other than the decimal one. -/
theorem basePrefix?_eq_some_iff {cs digits : List Char} {base : Nat} :
    basePrefix? cs = some (base, digits) ↔
      ∃ radix : Radix, radix ≠ .decimal ∧ radix.base = base ∧ cs = radix.mark ++ digits := by
  constructor
  · intro h
    unfold basePrefix? at h
    split at h
    · obtain ⟨rfl, rfl⟩ := Prod.mk.inj (Option.some.inj h)
      exact ⟨.hexadecimal, nofun, rfl, rfl⟩
    · obtain ⟨rfl, rfl⟩ := Prod.mk.inj (Option.some.inj h)
      exact ⟨.octal, nofun, rfl, rfl⟩
    · obtain ⟨rfl, rfl⟩ := Prod.mk.inj (Option.some.inj h)
      exact ⟨.binary, nofun, rfl, rfl⟩
    · exact nomatch h
  · rintro ⟨radix, hradix, rfl, rfl⟩
    cases radix with
    | decimal => exact absurd rfl hradix
    | hexadecimal => rfl
    | octal => rfl
    | binary => rfl

/-- No mark of a base stands in front of decimal digits. -/
theorem basePrefix?_eq_none {cs : List Char} (h : ∀ c ∈ cs, c.isDigit = true) :
    basePrefix? cs = none := by
  rw [Option.eq_none_iff_forall_ne_some]
  rintro ⟨base, digits⟩ hbase
  obtain ⟨radix, hradix, _, rfl⟩ := basePrefix?_eq_some_iff.mp hbase
  cases radix with
  | decimal => exact hradix rfl
  | hexadecimal => exact absurd (h 'x' (by simp [Radix.mark])) (by decide)
  | octal => exact absurd (h 'o' (by simp [Radix.mark])) (by decide)
  | binary => exact absurd (h 'b' (by simp [Radix.mark])) (by decide)

/-- A text without a sign writes a number in one of the bases. -/
theorem unsigned?_eq_some_iff {cs : List Char} {m : Nat} :
    unsigned? cs = some m ↔
      ∃ (radix : Radix) (digits : List Char), cs = radix.mark ++ digits ∧ digits ≠ [] ∧
        readDigits? radix.base digits = some m ∧
        (radix = .decimal → ∀ rest, digits = '0' :: rest → rest = []) := by
  constructor
  · intro h
    cases hbase : basePrefix? cs with
    | some marked =>
      obtain ⟨radix, hradix, hdigits, rfl⟩ := basePrefix?_eq_some_iff.mp hbase
      rw [unsigned?_of_mark hbase, ← hdigits] at h
      obtain ⟨hne, hread⟩ := magnitude?_eq_some_iff.mp h
      exact ⟨radix, marked.2, rfl, hne, hread, fun hdecimal => absurd hdecimal hradix⟩
    | none =>
      have hlead : ∀ c rest, cs ≠ '0' :: c :: rest := by
        rintro c rest rfl
        rw [unsigned?_of_leadingZero hbase] at h
        exact nomatch h
      rw [unsigned?_of_decimal hbase hlead] at h
      obtain ⟨hne, hread⟩ := magnitude?_eq_some_iff.mp h
      refine ⟨.decimal, cs, rfl, hne, hread, fun _ rest hrest => ?_⟩
      cases rest with
      | nil => rfl
      | cons c rest => exact absurd hrest (hlead c rest)
  · rintro ⟨radix, digits, rfl, hne, hread, hlead⟩
    have hmagnitude := magnitude?_eq_some_iff.mpr ⟨hne, hread⟩
    by_cases hradix : radix = .decimal
    · subst hradix
      have hnone := basePrefix?_eq_none (readDigits?_ten_eq_some_iff.mp hread).1
      show unsigned? digits = some m
      rw [unsigned?_of_decimal hnone fun c rest h => nomatch hlead rfl _ h]
      exact hmagnitude
    · rw [unsigned?_of_mark (basePrefix?_eq_some_iff.mpr ⟨radix, hradix, rfl, rfl⟩)]
      exact hmagnitude

/-! ### Reading with a sign -/

theorem hasLeadingZero_eq_false {cs : List Char}
    (h : ∀ c rest, dropSign cs ≠ '0' :: c :: rest) : hasLeadingZero cs = false := by
  unfold hasLeadingZero
  split
  · rename_i hsign
    exact absurd hsign (h _ _)
  · rfl

/-- Digits with a zero too many in front of them are the only decimal digits that are no number. -/
theorem ite_hasLeadingZero_eq_unsigned? {signed cs : List Char} (hsign : dropSign signed = cs)
    (hbase : basePrefix? cs = none) :
    (if hasLeadingZero signed then none else magnitude? 10 cs) = unsigned? cs := by
  by_cases hlead : ∃ c rest, cs = '0' :: c :: rest
  · obtain ⟨c, rest, rfl⟩ := hlead
    have hzero : hasLeadingZero signed = (c :: rest).all isDigit := by
      simp only [hasLeadingZero, hsign]
    rw [unsigned?_of_leadingZero hbase, hzero, ite_eq_left_iff]
    intro hdigits
    -- A character that is no digit keeps the text from being a number, too.
    refine Option.eq_none_iff_forall_ne_some.mpr fun m hm => ?_
    refine hdigits (List.all_eq_true.mpr fun d hd => ?_)
    have hread := (magnitude?_eq_some_iff.mp hm).2
    rw [isDigit, digitValue?_of_isDigit
      ((readDigits?_ten_eq_some_iff.mp hread).1 d (List.mem_cons_of_mem _ hd))]
    rfl
  · have hne : ∀ c rest, cs ≠ '0' :: c :: rest := fun c rest h => hlead ⟨c, rest, h⟩
    rw [hasLeadingZero_eq_false (hsign ▸ hne), unsigned?_of_decimal hbase hne]
    rfl

theorem integerLiteral?_minus (cs : List Char) :
    integerLiteral? ('-' :: cs) = (unsigned? cs).map Sign.minus.apply := by
  cases hbase : basePrefix? cs with
  | some marked =>
    rw [unsigned?_of_mark hbase]
    simp only [integerLiteral?, hbase]
    cases magnitude? marked.1 marked.2 <;> rfl
  | none =>
    rw [← ite_hasLeadingZero_eq_unsigned? (show dropSign ('-' :: cs) = cs from rfl) hbase]
    simp only [integerLiteral?, hbase]
    split
    · rfl
    · cases magnitude? 10 cs <;> rfl

theorem integerLiteral?_plus (cs : List Char) :
    integerLiteral? ('+' :: cs) = (unsigned? cs).map Sign.plus.apply := by
  cases hbase : basePrefix? cs with
  | some marked =>
    rw [unsigned?_of_mark hbase]
    simp only [integerLiteral?, hbase]
    rfl
  | none =>
    rw [← ite_hasLeadingZero_eq_unsigned? (show dropSign ('+' :: cs) = cs from rfl) hbase]
    simp only [integerLiteral?, hbase]
    split
    · rfl
    · rfl

theorem integerLiteral?_none {cs : List Char} (hminus : ∀ rest, cs ≠ '-' :: rest)
    (hplus : ∀ rest, cs ≠ '+' :: rest) :
    integerLiteral? cs = (unsigned? cs).map Sign.none.apply := by
  have hsign : dropSign cs = cs := by
    unfold dropSign
    split
    · exact absurd rfl (hminus _)
    · exact absurd rfl (hplus _)
    · rfl
  unfold integerLiteral?
  dsimp only
  split
  · exact absurd rfl (hminus _)
  · exact absurd rfl (hplus _)
  · cases hbase : basePrefix? cs with
    | some marked =>
      rw [unsigned?_of_mark hbase]
      rfl
    | none =>
      rw [← ite_hasLeadingZero_eq_unsigned? hsign hbase]
      dsimp only
      split
      · rfl
      · split
        · exact absurd rfl (hminus _)
        · exact absurd rfl (hplus _)
        · rfl

namespace IntegerForm

/-- What stands behind the sign of a form begins with a digit. -/
theorem exists_digit_cons {x : IntegerForm} {n : Int} (hx : x.Writes n) :
    ∃ c rest, x.radix.mark ++ x.digits = c :: rest ∧ c.isDigit = true := by
  obtain ⟨m, hread, _⟩ := hx.value
  by_cases hradix : x.radix = .decimal
  · rw [hradix] at hread ⊢
    obtain ⟨c, rest, hdigits⟩ := List.exists_cons_of_ne_nil hx.ne_nil
    exact ⟨c, rest, hdigits, (readDigits?_ten_eq_some_iff.mp hread).1 c (hdigits ▸ .head _)⟩
  · cases h : x.radix with
    | decimal => exact absurd h hradix
    | hexadecimal => exact ⟨'0', _, rfl, by decide⟩
    | octal => exact ⟨'0', _, rfl, by decide⟩
    | binary => exact ⟨'0', _, rfl, by decide⟩

/-- The text of a form is read as the integer that it writes. -/
theorem integerLiteral?_text {x : IntegerForm} {n : Int} (hx : x.Writes n) :
    integerLiteral? x.text = some n := by
  obtain ⟨m, hread, hvalue⟩ := hx.value
  have hunsigned : unsigned? (x.radix.mark ++ x.digits) = some m :=
    unsigned?_eq_some_iff.mpr ⟨x.radix, x.digits, rfl, hx.ne_nil, hread, hx.lead⟩
  -- Without a sign the text begins with a digit, and so with no sign.
  obtain ⟨c, rest, hcons, hc⟩ := exists_digit_cons hx
  have hne : ∀ {sign : Char}, ¬ sign.isDigit = true →
      ∀ tail, x.radix.mark ++ x.digits ≠ sign :: tail := by
    intro sign hsign tail htail
    rw [hcons, List.cons.injEq] at htail
    exact hsign (htail.1 ▸ hc)
  unfold text
  cases hsign : x.sign with
  | minus =>
    show integerLiteral? ('-' :: (x.radix.mark ++ x.digits)) = _
    rw [integerLiteral?_minus, hunsigned, Option.map_some, ← hsign, hvalue]
  | plus =>
    show integerLiteral? ('+' :: (x.radix.mark ++ x.digits)) = _
    rw [integerLiteral?_plus, hunsigned, Option.map_some, ← hsign, hvalue]
  | none =>
    show integerLiteral? (x.radix.mark ++ x.digits) = _
    rw [integerLiteral?_none (hne (by decide)) (hne (by decide)), hunsigned, Option.map_some,
      ← hsign, hvalue]

/-- A text that is read under a sign is the text of a form. -/
theorem exists_of_unsigned? {cs : List Char} {n : Int} (sign : Sign)
    (h : (unsigned? cs).map sign.apply = some n) :
    ∃ x : IntegerForm, x.text = sign.chars ++ cs ∧ x.Writes n := by
  obtain ⟨m, hm, hvalue⟩ := Option.map_eq_some_iff.mp h
  obtain ⟨radix, digits, rfl, hne, hread, hlead⟩ := unsigned?_eq_some_iff.mp hm
  exact ⟨⟨sign, radix, digits⟩, rfl, hne, ⟨m, hread, hvalue⟩, hlead⟩

end IntegerForm

/-- The texts that are read as an integer are those of the forms that write it. -/
theorem integerLiteral?_eq_some_iff {cs : List Char} {n : Int} :
    integerLiteral? cs = some n ↔ ∃ x : IntegerForm, x.text = cs ∧ x.Writes n := by
  constructor
  · intro h
    by_cases hminus : ∃ rest, cs = '-' :: rest
    · obtain ⟨rest, rfl⟩ := hminus
      rw [integerLiteral?_minus] at h
      exact IntegerForm.exists_of_unsigned? .minus h
    · by_cases hplus : ∃ rest, cs = '+' :: rest
      · obtain ⟨rest, rfl⟩ := hplus
        rw [integerLiteral?_plus] at h
        exact IntegerForm.exists_of_unsigned? .plus h
      · rw [integerLiteral?_none (not_exists.mp hminus) (not_exists.mp hplus)] at h
        exact IntegerForm.exists_of_unsigned? .none h
  · rintro ⟨x, rfl, hx⟩
    exact IntegerForm.integerLiteral?_text hx

/-! ### Writing -/

theorem toList_toString_natCast (m : Nat) : (toString (m : Int)).toList = Nat.toDigits 10 m := by
  show (Int.repr (Int.ofNat m)).toList = _
  rw [Int.repr, Nat.repr, String.toList_ofList]

theorem toList_toString_neg {m : Nat} (hm : m ≠ 0) :
    (toString (-(m : Int))).toList = '-' :: Nat.toDigits 10 m := by
  obtain ⟨k, rfl⟩ := Nat.exists_eq_succ_of_ne_zero hm
  show (Int.repr (Int.negSucc k)).toList = _
  rw [Int.repr, Nat.repr, String.toList_append]
  exact congrArg ('-' :: ·) String.toList_ofList

/-- An integer is written in decimal digits, perhaps behind a minus sign. -/
theorem isDigit_of_mem_toString {n : Int} {c : Char} (hc : c ∈ (toString n).toList) :
    c = '-' ∨ c.isDigit = true := by
  cases n with
  | ofNat m =>
    rw [Int.ofNat_eq_natCast, toList_toString_natCast] at hc
    exact .inr (Nat.isDigit_of_mem_toDigits (by decide) (by decide) hc)
  | negSucc m =>
    rw [Int.negSucc_eq, ← Int.natCast_succ, toList_toString_neg (Nat.succ_ne_zero m)] at hc
    rcases List.mem_cons.mp hc with rfl | hc
    · exact .inl rfl
    · exact .inr (Nat.isDigit_of_mem_toDigits (by decide) (by decide) hc)

namespace IntegerForm

/-- A form with the mark of a base is not the text of its integer. -/
theorem toString_ne_of_mark {x : IntegerForm} {n : Int} {c : Char} (hmark : c ∈ x.radix.mark)
    (hminus : c ≠ '-') (hdigit : ¬ c.isDigit = true) : toString n ≠ String.ofList x.text := by
  intro h
  have hmem : c ∈ (toString n).toList := by
    rw [h, String.toList_ofList, text]
    exact List.mem_append_right _ (List.mem_append_left _ hmark)
  exact (isDigit_of_mem_toString hmem).elim hminus hdigit

/-- The forms that are the text of their integer: decimal, without a plus sign, and without a minus
    sign for zero. -/
theorem toString_eq_iff {x : IntegerForm} {n : Int} (hx : x.Writes n) :
    toString n = String.ofList x.text ↔ x.isPlain = true := by
  obtain ⟨sign, radix, digits⟩ := x
  cases radix with
  | hexadecimal =>
    refine iff_of_false (toString_ne_of_mark (show 'x' ∈ Radix.hexadecimal.mark by decide)
      (by decide) (by decide)) ?_
    simp [isPlain]
  | octal =>
    refine iff_of_false (toString_ne_of_mark (show 'o' ∈ Radix.octal.mark by decide)
      (by decide) (by decide)) ?_
    simp [isPlain]
  | binary =>
    refine iff_of_false (toString_ne_of_mark (show 'b' ∈ Radix.binary.mark by decide)
      (by decide) (by decide)) ?_
    simp [isPlain]
  | decimal =>
    obtain ⟨m, hread, rfl⟩ := hx.value
    obtain ⟨hdigits, rfl⟩ := readDigits?_ten_eq_some_iff.mp hread
    -- Decimal digits without a zero too many are the digits of their number again.
    have hwritten := toDigits_ofDigitChars hdigits hx.ne_nil (hx.lead rfl)
    dsimp only at hdigits hwritten
    rw [← String.toList_inj, String.toList_ofList]
    generalize Nat.ofDigitChars 10 digits 0 = m at hwritten
    subst hwritten
    cases sign with
    | none =>
      show (toString (m : Int)).toList = _ ↔ _
      rw [toList_toString_natCast]
      exact iff_of_true rfl rfl
    | plus =>
      show (toString (m : Int)).toList = _ ↔ _
      rw [toList_toString_natCast]
      refine iff_of_false (fun h => ?_) (by simp [isPlain])
      exact absurd (congrArg List.length h) (Nat.ne_of_lt (Nat.lt_succ_self _))
    | minus =>
      show (toString (-(m : Int))).toList = _ ↔ _
      by_cases hm : m = 0
      · subst hm
        exact iff_of_false (by decide) (by decide)
      · rw [toList_toString_neg hm]
        refine iff_of_true rfl ?_
        have hzero : Nat.toDigits 10 m ≠ ['0'] := fun h => hm (by
          rw [← Nat.ofDigitChars_ten_toDigits (n := m), h]
          rfl)
        simp [isPlain, hzero]

end IntegerForm

end ZoneSync.Yaml
