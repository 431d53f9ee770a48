import Mathlib.Data.List.Basic
import Mathlib.Tactic.SplitIfs
import ZoneSync.Text.Utf8

namespace ZoneSync.Text

/-!
# Octets of a text

A character in UTF-8 is an octet that can begin one and octets that cannot. So the octets of a text
show where its characters begin, and whoever reads a part of them finds at least one character for
each of these places.

* `encode` — the octets of characters;
* `decodeOctets_encode`, `decodeLossy_encode` — they are read as the characters;
* `exists_of_encode_eq_append` — a text that is cut where a character begins is cut into texts;
* `countP_lt_length_decodeOctets` — how many characters are read of any octets, at least.
-/

/-- The octets of characters in UTF-8. -/
def encode (cs : List Char) : List UInt8 := cs.flatMap String.utf8EncodeChar

theorem toByteArray_encode (text : String) : (encode text.toList).toByteArray = text.toUTF8 := by
  calc (encode text.toList).toByteArray
    _ = text.toList.utf8Encode := rfl
    _ = (String.ofList text.toList).toByteArray := String.toByteArray_ofList.symm
    _ = text.toUTF8 := by rw [String.ofList_toList, String.toUTF8_eq_toByteArray]

/-! ### Reading characters -/

/-- The value of an octet, with its bound as a numeral. -/
theorem toNat_ofNat {n : Nat} (h : n < 256) : (UInt8.ofNat n).toNat = n :=
  UInt8.toNat_ofNat_of_lt' h

/-- The octet that carries six bits of a character on. -/
theorem continueChar_cons {more low high code x : Nat} {os : List UInt8} (hx : x < 64)
    (hlow : low ≤ x + 0x80) (hhigh : x + 0x80 ≤ high) :
    continueChar (more + 1) low high code (UInt8.ofNat (x + 0x80) :: os) =
      continueChar more 0x80 0xBF (code * 64 + x) os := by
  have htoNat : (UInt8.ofNat (x + 0x80)).toNat = x + 0x80 := toNat_ofNat (by omega)
  rw [continueChar, htoNat, if_pos ⟨hlow, hhigh⟩, Nat.add_sub_cancel]

/-- The further ones have the same bounds in all characters. -/
theorem continueChar_cons_of_lt {more code x : Nat} {os : List UInt8} (hx : x < 64) :
    continueChar (more + 1) 0x80 0xBF code (UInt8.ofNat (x + 0x80) :: os) =
      continueChar more 0x80 0xBF (code * 64 + x) os :=
  continueChar_cons hx (by omega) (by omega)

theorem decodeOctets_cons {o : UInt8} {os rest : List UInt8} {lead : Lead} {code : Nat}
    (hlead : Lead.of? o = some lead)
    (hcontinue : continueChar lead.more lead.low lead.high lead.bits os = (some code, rest)) :
    decodeOctets (o :: os) = some (Char.ofNat code) :: decodeOctets rest := by
  rw [decodeOctets, hlead]
  dsimp only
  rw [hcontinue]
  rfl

namespace Lead

theorem of?_one {v : Nat} (h : v < 0x80) :
    of? (UInt8.ofNat v) = some { bits := v, more := 0 } := by
  have htoNat : (UInt8.ofNat v).toNat = v := toNat_ofNat (by omega)
  rw [of?, htoNat, if_pos h]

/-- Two octets are not used for what one octet can hold. -/
theorem of?_two {b : Nat} (hb : b < 32) (hmin : 2 ≤ b) :
    of? (UInt8.ofNat (b + 0xC0)) = some { bits := b, more := 1 } := by
  have htoNat : (UInt8.ofNat (b + 0xC0)).toNat = b + 0xC0 := toNat_ofNat (by omega)
  rw [of?, htoNat, if_neg (by omega), if_neg (by omega), if_pos (by omega), Nat.add_sub_cancel]

/-- Three octets are not used for what two can hold, nor for surrogates. -/
theorem exists_of?_three {b x : Nat} (hb : b < 16) (hx : x < 64) (hmin : b = 0 → 32 ≤ x)
    (hsurrogate : b = 13 → x < 32) :
    ∃ low high, of? (UInt8.ofNat (b + 0xE0)) = some ⟨b, 2, low, high⟩ ∧
      low ≤ x + 0x80 ∧ x + 0x80 ≤ high := by
  have htoNat : (UInt8.ofNat (b + 0xE0)).toNat = b + 0xE0 := toNat_ofNat (by omega)
  rw [of?, htoNat, if_neg (by omega), if_neg (by omega), if_neg (by omega)]
  by_cases hzero : b = 0
  · have := hmin hzero
    rw [if_pos (by omega), hzero]
    exact ⟨_, _, rfl, by omega, by omega⟩
  by_cases hthirteen : b = 13
  · have := hsurrogate hthirteen
    rw [if_neg (by omega), if_pos (by omega), hthirteen]
    exact ⟨_, _, rfl, by omega, by omega⟩
  · rw [if_neg (by omega), if_neg (by omega), if_pos (by omega), Nat.add_sub_cancel]
    exact ⟨_, _, rfl, by omega, by omega⟩

/-- Four octets are not used for what three can hold, nor beyond the last character. -/
theorem exists_of?_four {b x : Nat} (hb : b ≤ 4) (hx : x < 64) (hmin : b = 0 → 16 ≤ x)
    (hmax : b = 4 → x < 16) :
    ∃ low high, of? (UInt8.ofNat (b + 0xF0)) = some ⟨b, 3, low, high⟩ ∧
      low ≤ x + 0x80 ∧ x + 0x80 ≤ high := by
  have htoNat : (UInt8.ofNat (b + 0xF0)).toNat = b + 0xF0 := toNat_ofNat (by omega)
  rw [of?, htoNat, if_neg (by omega), if_neg (by omega), if_neg (by omega), if_neg (by omega),
    if_neg (by omega), if_neg (by omega)]
  by_cases hzero : b = 0
  · have := hmin hzero
    rw [if_pos (by omega), hzero]
    exact ⟨_, _, rfl, by omega, by omega⟩
  by_cases hfour : b = 4
  · have := hmax hfour
    rw [if_neg (by omega), if_neg (by omega), if_pos (by omega), hfour]
    exact ⟨_, _, rfl, by omega, by omega⟩
  · rw [if_neg (by omega), if_pos (by omega), Nat.add_sub_cancel]
    exact ⟨_, _, rfl, by omega, by omega⟩

end Lead

/-- A character is read where its octets begin. -/
theorem decodeOctets_utf8EncodeChar (c : Char) (os : List UInt8) :
    decodeOctets (String.utf8EncodeChar c ++ os) = some c :: decodeOctets os := by
  have hvalid : c.val.toNat < 0xD800 ∨ 0xDFFF < c.val.toNat ∧ c.val.toNat < 0x110000 := c.valid
  suffices h : ∃ code, code = c.val.toNat ∧ decodeOctets (String.utf8EncodeChar c ++ os) =
      some (Char.ofNat code) :: decodeOctets os by
    obtain ⟨code, rfl, hdecode⟩ := h
    have hchar : Char.ofNat c.val.toNat = c := Char.ofNat_toNat c
    rwa [hchar] at hdecode
  -- The code is put together from the parts that its octets hold.
  rw [String.utf8EncodeChar]
  generalize c.val.toNat = v at hvalid ⊢
  by_cases hone : v ≤ 0x7F
  · rw [if_pos hone]
    exact ⟨_, rfl, decodeOctets_cons (Lead.of?_one (by omega)) rfl⟩
  by_cases htwo : v ≤ 0x7FF
  · rw [if_neg hone, if_pos htwo]
    refine ⟨_, ?_, decodeOctets_cons (Lead.of?_two (by omega) (by omega))
      (continueChar_cons_of_lt (by omega))⟩
    dsimp only
    omega
  by_cases hthree : v ≤ 0xFFFF
  · rw [if_neg hone, if_neg htwo, if_pos hthree]
    obtain ⟨low, high, hlead, hlow, hhigh⟩ := Lead.exists_of?_three (b := v / 4096 % 16)
      (x := v / 64 % 64) (by omega) (by omega) (by omega) (by omega)
    refine ⟨_, ?_, decodeOctets_cons hlead ((continueChar_cons (by omega) hlow hhigh).trans
      (continueChar_cons_of_lt (by omega)))⟩
    dsimp only
    omega
  · rw [if_neg hone, if_neg htwo, if_neg hthree]
    obtain ⟨low, high, hlead, hlow, hhigh⟩ := Lead.exists_of?_four (b := v / 262144 % 8)
      (x := v / 4096 % 64) (by omega) (by omega) (by omega) (by omega)
    refine ⟨_, ?_, decodeOctets_cons hlead (((continueChar_cons (by omega) hlow hhigh).trans
      (continueChar_cons_of_lt (by omega))).trans (continueChar_cons_of_lt (by omega)))⟩
    dsimp only
    omega

/-- The octets of characters are read as the characters. -/
theorem decodeOctets_encode (cs : List Char) : decodeOctets (encode cs) = cs.map some := by
  induction cs with
  | nil => rw [encode, List.flatMap_nil, decodeOctets, List.map_nil]
  | cons c cs ih =>
    rw [encode, List.flatMap_cons, ← encode, decodeOctets_utf8EncodeChar, ih, List.map_cons]

theorem decodeLossy_encode (cs : List Char) : decodeLossy (encode cs) = String.ofList cs := by
  rw [decodeLossy, decodeOctets_encode, List.map_map]
  exact congrArg String.ofList (List.map_id cs)

/-! ### Where characters begin -/

/-- The places in octets where a character begins, if they are those of a text. -/
def countFirst (os : List UInt8) : Nat := os.countP fun o => o.IsUTF8FirstByte

@[simp] theorem countFirst_nil : countFirst [] = 0 := rfl

theorem countFirst_cons (o : UInt8) (os : List UInt8) :
    countFirst (o :: os) = countFirst os + if o.IsUTF8FirstByte then 1 else 0 := by
  simp [countFirst, List.countP_cons]

theorem countFirst_append (xs ys : List UInt8) :
    countFirst (xs ++ ys) = countFirst xs + countFirst ys :=
  List.countP_append

theorem not_isUTF8FirstByte {o : UInt8} (hlow : 0x80 ≤ o.toNat) (hhigh : o.toNat ≤ 0xBF) :
    ¬ o.IsUTF8FirstByte := by
  have hall : ∀ n : Fin 256, 0x80 ≤ n.val → n.val ≤ 0xBF →
      ¬ (UInt8.ofNat n.val).IsUTF8FirstByte := by decide +kernel
  have := hall ⟨o.toNat, o.toNat_lt⟩ hlow hhigh
  rwa [UInt8.ofNat_toNat] at this

/-- The octets of a character begin with the only one of them that can begin a character. -/
theorem exists_utf8EncodeChar (c : Char) : ∃ o os, String.utf8EncodeChar c = o :: os ∧
    o.IsUTF8FirstByte ∧ ∀ o' ∈ os, ¬ o'.IsUTF8FirstByte := by
  cases hencode : String.utf8EncodeChar c with
  | nil =>
    have := c.utf8Size_pos
    have := String.length_utf8EncodeChar c
    simp_all
  | cons o os =>
    have hfirst : ∀ (i : Nat) (hi : i < (o :: os).length),
        (o :: os)[i].IsUTF8FirstByte ↔ i = 0 := by
      rw [← hencode]
      exact fun i hi => UInt8.isUTF8FirstByte_getElem_utf8EncodeChar
    refine ⟨o, os, rfl, (hfirst 0 (by simp)).2 rfl, fun o' ho' => ?_⟩
    obtain ⟨i, hi, rfl⟩ := List.getElem_of_mem ho'
    exact fun h => absurd ((hfirst (i + 1) (by simpa using hi)).1 h) (by omega)

theorem countFirst_encode (cs : List Char) : countFirst (encode cs) = cs.length := by
  induction cs with
  | nil => rfl
  | cons c cs ih =>
    obtain ⟨o, os, hencode, hfirst, hmore⟩ := exists_utf8EncodeChar c
    have hos : countFirst os = 0 := List.countP_eq_zero.2 fun o' ho' => by simpa using hmore o' ho'
    rw [encode, List.flatMap_cons, ← encode, hencode, List.cons_append, countFirst_cons,
      countFirst_append, hos, ih, if_pos hfirst, Nat.zero_add, List.length_cons]

/-- A text that is cut where a character begins is cut into two texts. -/
theorem exists_of_encode_eq_append {cs : List Char} {xs ys : List UInt8}
    (hcut : encode cs = xs ++ ys) (hfirst : ∀ o ∈ ys.head?, o.IsUTF8FirstByte) :
    ∃ cs₁ cs₂, cs = cs₁ ++ cs₂ ∧ xs = encode cs₁ ∧ ys = encode cs₂ := by
  induction cs generalizing xs with
  | nil =>
    obtain ⟨rfl, rfl⟩ := List.append_eq_nil_iff.1 hcut.symm
    exact ⟨[], [], rfl, rfl, rfl⟩
  | cons c cs ih =>
    obtain ⟨o, os, hencode, -, hmore⟩ := exists_utf8EncodeChar c
    rw [encode, List.flatMap_cons, ← encode] at hcut
    obtain ⟨xs', rfl, hcut'⟩ | ⟨ys', hc, rfl⟩ := List.append_eq_append_iff.1 hcut
    · -- The cut is behind this character.
      obtain ⟨cs₁, cs₂, rfl, rfl, rfl⟩ := ih hcut'
      exact ⟨c :: cs₁, cs₂, rfl, rfl, rfl⟩
    · -- It is not within its octets, of which only the first one begins a character.
      cases xs with
      | nil => exact ⟨[], c :: cs, rfl, rfl, hcut.symm⟩
      | cons x xs =>
        rw [hencode, List.cons_append, List.cons.injEq] at hc
        obtain ⟨rfl, rfl⟩ := hc
        cases ys' with
        | nil => exact ⟨[c], cs, rfl, by simp [encode, hencode], rfl⟩
        | cons y ys' => exact absurd (hfirst y rfl) (hmore y (by simp))

/-! ### How many characters are read -/

/-- What is read of a character can begin none. -/
theorem countFirst_continueChar {more low high code : Nat} {os : List UInt8} (hlow : 0x80 ≤ low)
    (hhigh : high ≤ 0xBF) :
    countFirst (continueChar more low high code os).2 = countFirst os := by
  induction more generalizing low high code os with
  | zero => rw [continueChar]
  | succ more ih =>
    cases os with
    | nil => rw [continueChar]
    | cons o os =>
      rw [continueChar]
      split
      case isTrue h =>
        rw [ih (by omega) (by omega), countFirst_cons,
          if_neg (not_isUTF8FirstByte (by omega) (by omega)), Nat.add_zero]
      case isFalse => rfl

theorem Lead.bounds_of_of?_eq_some {o : UInt8} {lead : Lead} (h : Lead.of? o = some lead) :
    0x80 ≤ lead.low ∧ lead.high ≤ 0xBF := by
  dsimp only [Lead.of?] at h
  split_ifs at h
  all_goals
    rw [Option.some.injEq] at h
    subst h
    simp

/-- With an octet goes one character, and no other octet that can begin one. -/
theorem exists_length_decodeOctets_cons (o : UInt8) (os : List UInt8) :
    ∃ rest, rest.length ≤ os.length ∧ countFirst rest = countFirst os ∧
      (decodeOctets (o :: os)).length = (decodeOctets rest).length + 1 := by
  cases hlead : Lead.of? o with
  | none => exact ⟨os, Nat.le_refl _, rfl, by rw [decodeOctets, hlead]; rfl⟩
  | some lead =>
    obtain ⟨hlow, hhigh⟩ := Lead.bounds_of_of?_eq_some hlead
    exact ⟨_, length_continueChar_le .., countFirst_continueChar hlow hhigh, by
      rw [decodeOctets, hlead]; rfl⟩

/-- Each octet that can begin a character is read as one at least. -/
theorem countFirst_le_length_decodeOctets (os : List UInt8) :
    countFirst os ≤ (decodeOctets os).length := by
  induction h : os.length using Nat.strongRecOn generalizing os with
  | ind n ih =>
    cases os with
    | nil => simp
    | cons o os =>
      obtain ⟨rest, hlength, hrest, hdecode⟩ := exists_length_decodeOctets_cons o os
      have hle := ih rest.length (by rw [List.length_cons] at h; omega) rest rfl
      rw [countFirst_cons, hdecode]
      split <;> omega

/-- So is the first octet whatever it is. -/
theorem countFirst_lt_length_decodeOctets (o : UInt8) (os : List UInt8) :
    countFirst os < (decodeOctets (o :: os)).length := by
  obtain ⟨rest, -, hrest, hdecode⟩ := exists_length_decodeOctets_cons o os
  have := countFirst_le_length_decodeOctets rest
  omega

end ZoneSync.Text
