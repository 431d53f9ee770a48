import ZoneSync.Proofs.Address.Literals
import ZoneSync.Proofs.Propagation.Agreement
import ZoneSync.Proofs.Text.Digits

namespace ZoneSync

open Text

/-!
# The comparison of answers

Answers are compared by what they say, each type in its own way. For some types a text may say
nothing at all, and then it is no answer, not even the same as itself.

* `Name.Alike`, `Name.normalize_eq_iff_alike` — host names up to case and final dots;
* `IsMailAnswer`, `exists_splitPreference?_iff` — the texts that are mail answers;
* `RecordType.answerForm?`, `RecordType.answerMatches_iff` — what an answer says, and the comparison
  by it;
* `RecordType.answerMatches_laws` — the comparison is symmetric and transitive, white space around
  the answers is lost, and a text matches itself when it is an answer of the type.
-/

/-! ### Host names -/

namespace Name

/-- Whether two names differ in the case of their letters and in the dots at their ends only. -/
def Alike (x y : String) : Prop :=
  ∃ front dots front' dots', x.toList = front ++ dots ∧ y.toList = front' ++ dots' ∧
    (∀ c ∈ dots, c = '.') ∧ (∀ c ∈ dots', c = '.') ∧
    List.Forall₂ (fun c d => c.toLower = d.toLower) front front'

/-- Dots are taken off before or after letters are put in lower case. -/
theorem normalizeChars_eq_stripEnd (cs : List Char) :
    normalizeChars cs = stripEnd (· = '.') (cs.map Char.toLower) := by
  have hdot : (fun c : Char => decide (c = '.')) ∘ Char.toLower = fun c => decide (c = '.') := by
    funext c
    exact decide_eq_decide.mpr (toLower_eq_iff (by decide))
  rw [normalizeChars, stripEnd, stripEnd, ← List.map_reverse, List.dropWhile_map, hdot,
    List.map_reverse]

/-- Names have one normal form when they are alike. -/
theorem normalize_eq_iff_alike {x y : String} : normalize x = normalize y ↔ Alike x y := by
  rw [normalize_eq_iff]
  constructor
  · intro h
    obtain ⟨dots, hx, hdots⟩ := exists_stripEnd_append (· = '.') x.toList
    obtain ⟨dots', hy, hdots'⟩ := exists_stripEnd_append (· = '.') y.toList
    refine ⟨_, dots, _, dots', hx, hy, ?_, ?_, ?_⟩
    · exact fun c hc => of_decide_eq_true (hdots c hc)
    · exact fun c hc => of_decide_eq_true (hdots' c hc)
    · have hmap : List.Forall₂ (· = ·) (normalizeChars x.toList) (normalizeChars y.toList) := by
        rw [h]
        exact List.forall₂_same.mpr fun _ _ => rfl
      exact List.forall₂_map_right_iff.mp (List.forall₂_map_left_iff.mp hmap)
  · rintro ⟨front, dots, front', dots', hx, hy, hdots, hdots', halike⟩
    have hfront : front.map Char.toLower = front'.map Char.toLower :=
      List.forall₂_eq_eq_eq ▸
        List.forall₂_map_left_iff.mpr (List.forall₂_map_right_iff.mpr halike)
    have hstrip : ∀ {front dots : List Char}, (∀ c ∈ dots, c = '.') →
        normalizeChars (front ++ dots) = stripEnd (· = '.') (front.map Char.toLower) :=
      fun {front dots} h => by
        rw [← normalizeChars_eq_stripEnd, normalizeChars, normalizeChars,
          stripEnd_append_of_all fun c hc => decide_eq_true (h c hc)]
    rw [hx, hy, hstrip hdots, hstrip hdots', hfront]

end Name

/-! ### Mail answers -/

/-- Whether a text is a preference of 16 bits, white space, and an exchange. -/
def IsMailAnswer (cs : List Char) : Prop :=
  ∃ (preference gap exchange : List Char) (p : UInt16), cs = preference ++ gap ++ exchange ∧
    IsNumeral p.toNat preference ∧ gap ≠ [] ∧ (∀ c ∈ gap, isBlank c = true) ∧
    ∃ c ∈ exchange.head?, isBlank c = false

/-- A numeral has no white space in it. -/
theorem isBlank_of_isNumeral {n : Nat} {cs : List Char} (h : IsNumeral n cs) :
    ∀ c ∈ cs, isBlank c = false := by
  obtain ⟨digits, hcs, _, hdigits, _⟩ := h
  have hsolid : ∀ c ∈ digits, isBlank c = false := fun c hc => isBlank_of_isDigit (hdigits c hc)
  rcases hcs with rfl | rfl
  · exact hsolid
  · exact List.forall_mem_cons.mpr ⟨by decide, hsolid⟩

theorem splitPreference?_eq_some_iff {text exchange : String} {p : UInt16} :
    splitPreference? text = some (p, exchange) ↔
      ∃ preference rest, cutAtBlank text.toList = some (preference, rest) ∧
        IsNumeral p.toNat preference ∧ exchange = trim (String.ofList rest) := by
  have hread : ∀ {preference : List Char} {p : UInt16},
      (readUInt16 (String.ofList preference)).toOption = some p ↔ IsNumeral p.toNat preference := by
    intro preference p
    have hiff := readUInt16_eq_ok_iff (s := String.ofList preference) (p := p)
    rw [String.toList_ofList] at hiff
    rw [← hiff]
    cases readUInt16 (String.ofList preference) <;> simp [Except.toOption]
  rw [splitPreference?, Option.bind_eq_bind, Option.bind_eq_some_iff]
  constructor
  · rintro ⟨⟨preference, rest⟩, hcut, hsplit⟩
    obtain ⟨n, hn, hpair⟩ := Option.bind_eq_some_iff.mp hsplit
    obtain ⟨rfl, rfl⟩ := Prod.mk.inj (Option.some.inj hpair)
    exact ⟨preference, rest, hcut, hread.mp hn, rfl⟩
  · rintro ⟨preference, rest, hcut, hnumeral, rfl⟩
    exact ⟨_, hcut, Option.bind_eq_some_iff.mpr ⟨p, hread.mpr hnumeral, rfl⟩⟩

/-- A trimmed text is read as a preference and an exchange when it is a mail answer. -/
theorem isSome_splitPreference?_iff {text : String} :
    (splitPreference? (trim text)).isSome = true ↔ IsMailAnswer (trim text).toList := by
  constructor
  · intro h
    obtain ⟨⟨p, exchange⟩, hsplit⟩ := Option.isSome_iff_exists.mp h
    obtain ⟨_, hsome, _⟩ := of_splitPreference?_trim hsplit
    obtain ⟨preference, rest, hcut, hnumeral, rfl⟩ := splitPreference?_eq_some_iff.mp hsplit
    obtain ⟨_, c, hblank, hchars⟩ := cutAtBlank_eq_some_iff.mp hcut
    -- The white space goes up to the first character of the exchange, and there is one.
    refine ⟨preference, c :: rest.takeWhile isBlank, rest.dropWhile isBlank, p, ?_, hnumeral,
      List.cons_ne_nil _ _, ?_, ?_⟩
    · rw [hchars, List.append_assoc, List.cons_append, List.takeWhile_append_dropWhile]
    · exact List.forall_mem_cons.mpr ⟨hblank, fun c hc => List.mem_takeWhile_imp hc⟩
    · have hne : rest.dropWhile isBlank ≠ [] := by
        intro hnil
        rw [isBlankText, toList_trim, String.toList_ofList, strip, hnil] at hsome
        exact absurd hsome (by decide)
      obtain ⟨e, exchange, hexchange⟩ := List.exists_cons_of_ne_nil hne
      have hhead : e ∈ (rest.dropWhile isBlank).head? := by rw [hexchange]; rfl
      exact ⟨e, hhead, dropWhile_eq_self_iff.mp (List.dropWhile_idempotent isBlank rest) e hhead⟩
  · rintro ⟨preference, gap, exchange, p, hchars, hnumeral, hgap, hblank, _⟩
    obtain ⟨c, gap, rfl⟩ := List.exists_cons_of_ne_nil hgap
    have hcut : cutAtBlank (trim text).toList = some (preference, gap ++ exchange) := by
      rw [cutAtBlank_eq_some_iff]
      refine ⟨isBlank_of_isNumeral hnumeral, c, hblank c List.mem_cons_self, ?_⟩
      rw [hchars, List.append_assoc, List.cons_append]
    rw [splitPreference?_eq_some_iff.mpr ⟨preference, _, hcut, hnumeral, rfl⟩]
    rfl

/-! ### What answers say -/

/-- What an answer says: a text, an address, or a preference and an exchange. -/
inductive AnswerForm where
  | text (text : String)
  | address (address : Ipv6)
  | mail (preference : UInt16) (exchange : String)

namespace RecordType

/-- What a trimmed answer of a type says, if it says anything. -/
def answerForm? (type : RecordType) (text : String) : Option AnswerForm :=
  match type with
  | .aaaa => (Ipv6.parse? text).map .address
  | .cname | .ns => some (.text (Name.normalize text))
  | .txt => some (.text (unquote text))
  | .mx => (splitPreference? text).map fun (p, exchange) => .mail p (Name.normalize exchange)
  | _ => some (.text text)

/-- Whether a text is an answer of a type. -/
def IsAnswer (type : RecordType) (text : String) : Prop :=
  match type with
  | .aaaa => IsIpv6Literal text.toList
  | .mx => IsMailAnswer text.toList
  | _ => True

variable {type : RecordType} {x y z : String}

/-- Answers are compared by what they say, and have to say something. -/
theorem sameAnswer_iff : type.sameAnswer x y = true ↔
    type.answerForm? x = type.answerForm? y ∧ (type.answerForm? x).isSome = true := by
  cases type with
  | aaaa =>
    simp only [sameAnswer, answerForm?]
    cases Ipv6.parse? x <;> cases Ipv6.parse? y <;> simp
  | mx =>
    simp only [sameAnswer, answerForm?]
    cases splitPreference? x <;> cases splitPreference? y <;> simp
  | _ => simp [sameAnswer, answerForm?]

theorem answerMatches_iff : type.answerMatches x y = true ↔
    type.answerForm? (trim x) = type.answerForm? (trim y) ∧
      (type.answerForm? (trim x)).isSome = true :=
  sameAnswer_iff

/-- Answers of a type say something, and other texts do not. -/
theorem isSome_answerForm?_iff :
    (type.answerForm? (trim x)).isSome = true ↔ type.IsAnswer (trim x) := by
  cases type with
  | aaaa => rw [answerForm?, Option.isSome_map, Ipv6.parse?_isSome_iff, IsAnswer]
  | mx => rw [answerForm?, Option.isSome_map, isSome_splitPreference?_iff, IsAnswer]
  | _ => exact iff_of_true rfl trivial

/-! ### The laws of the comparison -/

theorem answerMatches_comm (type : RecordType) (x y : String) :
    type.answerMatches x y = type.answerMatches y x := by
  have hswap : ∀ {x y : String}, type.answerMatches x y = true → type.answerMatches y x = true := by
    intro x y h
    obtain ⟨hform, hsome⟩ := answerMatches_iff.mp h
    exact answerMatches_iff.mpr ⟨hform.symm, hform ▸ hsome⟩
  exact Bool.eq_iff_iff.mpr ⟨hswap, hswap⟩

theorem answerMatches_trans (hxy : type.answerMatches x y = true)
    (hyz : type.answerMatches y z = true) : type.answerMatches x z = true := by
  obtain ⟨hform, hsome⟩ := answerMatches_iff.mp hxy
  exact answerMatches_iff.mpr ⟨hform.trans (answerMatches_iff.mp hyz).1, hsome⟩

/-- A text matches itself when it is an answer of the type. -/
theorem answerMatches_self_iff : type.answerMatches x x = true ↔ type.IsAnswer (trim x) := by
  rw [answerMatches_iff, ← isSome_answerForm?_iff]
  exact and_iff_right rfl

/-- White space around answers is lost. -/
theorem trim_append_of_blank {before behind : String} (hbefore : isBlankText before = true)
    (hbehind : isBlankText behind = true) : trim (before ++ x ++ behind) = trim x := by
  rw [isBlankText, List.all_eq_true] at hbefore hbehind
  rw [← String.toList_inj, toList_trim, toList_trim, String.toList_append, String.toList_append,
    strip_append_of_all hbehind, strip, List.dropWhile_append_of_pos hbefore, ← strip]

/-- **The comparison of answers** is symmetric and transitive, and does not depend on the white
    space around the answers. A text matches itself when it is an answer of the type, which is for
    addresses of IPv6 and for mail only not so of every text. Mail answers with two exchanges are
    the same when the preferences are, and the exchanges up to case and final dots. -/
theorem answerMatches_laws :
    (∀ (type : RecordType) (x y : String), type.answerMatches x y = type.answerMatches y x) ∧
      (∀ (type : RecordType) (x y z : String), type.answerMatches x y = true →
        type.answerMatches y z = true → type.answerMatches x z = true) ∧
      (∀ (type : RecordType) (x y before behind before' behind' : String),
        (∀ gap ∈ [before, behind, before', behind'], isBlankText gap = true) →
        type.answerMatches (before ++ x ++ behind) (before' ++ y ++ behind') =
          type.answerMatches x y) ∧
      (∀ (type : RecordType) (x : String),
        type.answerMatches x x = true ↔ type.IsAnswer (trim x)) ∧
      ∀ (p q : UInt16) (g h : String), isBlankText g = false → isBlankText h = false →
        (mx.answerMatches (mailAnswer p g) (mailAnswer q h) = true ↔
          p = q ∧ Name.Alike (trim g) (trim h)) := by
  refine ⟨answerMatches_comm, ?_, ?_, ?_, ?_⟩
  · exact fun _ _ _ _ => answerMatches_trans
  · intro type x y before behind before' behind' hblank
    simp only [List.forall_mem_cons] at hblank
    obtain ⟨hbefore, hbehind, hbefore', hbehind', _⟩ := hblank
    rw [answerMatches, answerMatches, trim_append_of_blank hbefore hbehind,
      trim_append_of_blank hbefore' hbehind']
  · exact fun _ _ => answerMatches_self_iff
  · intro p q g h hg hh
    rw [answerMatches_mailAnswer_iff, ← Name.normalize_eq_iff_alike]
    simp only [hg, hh, true_and]

/-- Spellings of one mail answer. -/
theorem answerMatches_laws_mail :
    mx.answerMatches "010 Mail.net." "+10\tmail.net" = true ∧
      mx.answerMatches "+10\tmail.net" "10  mail.net.." = true ∧
      mx.answerMatches "010 Mail.net." "10  mail.net.." = true ∧
      mx.answerMatches (" " ++ "010 Mail.net." ++ "\n") ("" ++ "10  mail.net.." ++ "  ") = true ∧
      mx.answerMatches (mailAnswer 10 " Mail.net. ") (mailAnswer 10 "mail.net") = true := by
  obtain ⟨_, htrans, hblank, _, hmail⟩ := answerMatches_laws
  have hfirst : mx.answerMatches "010 Mail.net." "+10\tmail.net" = true := by decide +kernel
  have hsecond : mx.answerMatches "+10\tmail.net" "10  mail.net.." = true := by decide +kernel
  have hboth := htrans _ _ _ _ hfirst hsecond
  refine ⟨hfirst, hsecond, hboth, ?_, ?_⟩
  · exact (hblank _ _ _ " " "\n" "" "  " (by decide)).trans hboth
  · exact (hmail 10 10 _ _ (by decide) (by decide)).mpr
      ⟨rfl, Name.normalize_eq_iff_alike.mp (by decide)⟩

end RecordType

end ZoneSync
