import ZoneSync.Proofs.Text.Ends
import ZoneSync.Proofs.Text.Numbers
import ZoneSync.Record.Answer

namespace ZoneSync

open Text

/-!
# Spellings of one content

Two contents that say the same in a record are written differently: with other quotes around them,
with more or fewer dots at the end, or in another case. Answers are trimmed before they are
compared, and this may or may not lose the difference that does not matter.

* `Name.normalizeChars_strip` — a name whose last character is no white space is trimmed at the
  start alone, however it is written;
* `Name.exists_normalizeChars_strip_ne` — other names have two spellings that trimming tells apart;
* `strip_isBlank_of_unquoted`, `exists_strip_quotes_ne` — the same for quoted texts;
* `splitPreference?_trim`, `of_splitPreference?_trim` — what is read of a mail answer, and what this
  says of the answer.
-/

theorem toList_trim (text : String) : (trim text).toList = strip isBlank text.toList :=
  String.toList_ofList

theorem trim_trim (text : String) : trim (trim text) = trim text := by
  rw [← String.toList_inj, toList_trim, toList_trim, strip_strip]

/-! ### Names -/

namespace Name

/-- Names are the same when their normal forms are. -/
theorem normalize_eq_iff {x y : String} :
    normalize x = normalize y ↔ normalizeChars x.toList = normalizeChars y.toList := by
  rw [← toList_normalize, ← toList_normalize, String.toList_inj]

theorem getLast?_normalizeChars (cs : List Char) :
    (normalizeChars cs).getLast? = (stripEnd (· = '.') cs).getLast?.map Char.toLower :=
  List.getLast?_map

/-- The dots at the end of a name may be left out. -/
theorem normalizeChars_stripEnd (cs : List Char) :
    normalizeChars (stripEnd (· = '.') cs) = normalizeChars cs := by
  rw [normalizeChars, stripEnd_eq_self_iff.mpr fun _ => not_of_mem_getLast?_stripEnd,
    ← normalizeChars]

/-- A character of a normal form is no white space when the one that was written is none. -/
theorem exists_isBlank_eq_false {cs : List Char} {c : Char} (h : c ∈ normalizeChars cs)
    (hc : isBlank c = false) : ∃ c' ∈ stripEnd (· = '.') cs, isBlank c' = false := by
  obtain ⟨c', hc', rfl⟩ := List.mem_map.mp h
  exact ⟨c', hc', by rw [← isBlank_toLower]; exact hc⟩

/-- What is left of a normal form without the white space at its start. -/
theorem dropWhile_normalizeChars (cs : List Char) :
    (normalizeChars cs).dropWhile isBlank =
      ((stripEnd (· = '.') cs).dropWhile isBlank).map Char.toLower := by
  have hlower : isBlank ∘ Char.toLower = isBlank := funext isBlank_toLower
  rw [normalizeChars, List.dropWhile_map, hlower]

/-- The start of a name is trimmed as that of its normal form, when some dots follow it or its last
    character is no white space. -/
theorem normalizeChars_strip_append {core dots : List Char} (hdots : ∀ c ∈ dots, c = '.')
    (hcore : ∃ c ∈ core, isBlank c = false) (hend : ∀ c ∈ core.getLast?, c ≠ '.')
    (hlast : dots ≠ [] ∨ ∀ c ∈ core.getLast?, isBlank c = false) :
    normalizeChars (strip isBlank (core ++ dots)) =
      (core.dropWhile isBlank).map Char.toLower := by
  -- The last character is a dot or the last one of the core, and no white space.
  have hstop : ∀ c ∈ (core ++ dots).getLast?, isBlank c = false := by
    intro c hc
    cases hdot : dots.getLast? with
    | some c' =>
      have hc' : c' = c := by
        rw [Option.mem_def, List.getLast?_append, hdot] at hc
        exact Option.some.inj hc
      rw [← hc', hdots c' (List.mem_of_getLast? hdot)]
      decide
    | none =>
      have hnil : dots = [] := List.getLast?_eq_none_iff.mp hdot
      rw [hnil, List.append_nil] at hc
      rcases hlast with hne | hlast
      · exact absurd hnil hne
      · exact hlast c hc
  have hkeep : stripEnd (· = '.') (core.dropWhile isBlank) = core.dropWhile isBlank := by
    rw [stripEnd_eq_self_iff, getLast?_dropWhile hcore]
    exact fun c hc => decide_eq_false (hend c hc)
  rw [strip_append hcore hstop, normalizeChars,
    stripEnd_append_of_all fun c hc => decide_eq_true (hdots c hc), hkeep]

/-- A name whose last character is no white space is trimmed at the start alone, however it is
    written. -/
theorem normalizeChars_strip {cs : List Char}
    (h : ∃ c ∈ (normalizeChars cs).getLast?, isBlank c = false) :
    normalizeChars (strip isBlank cs) = (normalizeChars cs).dropWhile isBlank := by
  obtain ⟨dots, hcs, hdots⟩ := exists_stripEnd_append (· = '.') cs
  obtain ⟨c, hc, hblank⟩ := h
  rw [Option.mem_def, getLast?_normalizeChars, Option.map_eq_some_iff] at hc
  obtain ⟨c', hc', rfl⟩ := hc
  rw [isBlank_toLower] at hblank
  have hlast : ∀ x ∈ (stripEnd (· = '.') cs).getLast?, isBlank x = false := by
    intro x hx
    rw [← Option.some.inj (hc'.symm.trans hx)]
    exact hblank
  have hend : ∀ x ∈ (stripEnd (· = '.') cs).getLast?, x ≠ '.' := by
    intro x hx
    exact of_decide_eq_false (not_of_mem_getLast?_stripEnd hx)
  rw [dropWhile_normalizeChars]
  conv_lhs => rw [hcs]
  exact normalizeChars_strip_append (fun x hx => of_decide_eq_true (hdots x hx))
    ⟨c', List.mem_of_getLast? hc', hblank⟩ hend (.inr hlast)

/-- Nothing is left of a name of white space, with whatever dots behind it. -/
theorem normalizeChars_strip_of_blank {cs : List Char}
    (h : ∀ c ∈ normalizeChars cs, isBlank c = true) : normalizeChars (strip isBlank cs) = [] := by
  obtain ⟨dots, hcs, hdots⟩ := exists_stripEnd_append (· = '.') cs
  have hcore : ∀ c ∈ stripEnd (· = '.') cs, isBlank c = true := by
    intro c hc
    rw [← isBlank_toLower]
    exact h _ (List.mem_map_of_mem hc)
  have hstrip : strip isBlank cs = strip isBlank dots := by
    conv_lhs => rw [hcs]
    rw [strip, List.dropWhile_append_of_pos hcore, ← strip]
  have hnil : stripEnd (· = '.') (strip isBlank dots) = [] := by
    rw [stripEnd_eq_nil_iff]
    intro c hc
    have hdrop : c ∈ dots.dropWhile isBlank := (List.rdropWhile_prefix isBlank _).subset hc
    exact hdots c ((List.dropWhile_suffix isBlank).subset hdrop)
  rw [hstrip, normalizeChars, hnil, List.map_nil]

/-- A name that ends in white space, but has something else too, has two spellings that trimming
    tells apart: without a dot at the end the white space is lost, and with one it is not. -/
theorem exists_normalizeChars_strip_ne {cs : List Char}
    (hsome : ∃ c ∈ normalizeChars cs, isBlank c = false)
    (hlast : ∃ c ∈ (normalizeChars cs).getLast?, isBlank c = true) :
    ∃ xs ys, normalizeChars xs = normalizeChars cs ∧ normalizeChars ys = normalizeChars cs ∧
      normalizeChars (strip isBlank xs) ≠ normalizeChars (strip isBlank ys) := by
  obtain ⟨c, hc, hblank⟩ := hsome
  obtain ⟨c₀, hc₀, hsolid⟩ := exists_isBlank_eq_false hc hblank
  obtain ⟨e, he, heblank⟩ := hlast
  rw [Option.mem_def, getLast?_normalizeChars, Option.map_eq_some_iff] at he
  obtain ⟨e₀, he₀, rfl⟩ := he
  rw [isBlank_toLower] at heblank
  have hcore : ∃ c ∈ stripEnd (· = '.') cs, isBlank c = false := ⟨c₀, hc₀, hsolid⟩
  have hend : ∀ x ∈ (stripEnd (· = '.') cs).getLast?, x ≠ '.' := by
    intro x hx
    exact of_decide_eq_false (not_of_mem_getLast?_stripEnd hx)
  have hself := normalizeChars_stripEnd cs
  have hdot : ∀ c ∈ ['.'], c = '.' := fun c hc => List.mem_singleton.mp hc
  refine ⟨stripEnd (· = '.') cs, stripEnd (· = '.') cs ++ ['.'], hself, ?_, ?_⟩
  · rw [normalizeChars, stripEnd_append_of_all fun c hc => decide_eq_true (hdot c hc),
      ← normalizeChars, hself]
  · intro heq
    rw [normalizeChars_strip_append hdot hcore hend (.inl (List.cons_ne_nil _ _))] at heq
    -- The first spelling loses a character at the end, and so cannot be as long as the second.
    have hlen := congrArg List.length heq
    rw [normalizeChars, List.length_map, List.length_map, strip] at hlen
    have hle := length_stripEnd_le (· = '.')
      (stripEnd isBlank ((stripEnd (· = '.') cs).dropWhile isBlank))
    have hkeep : stripEnd isBlank ((stripEnd (· = '.') cs).dropWhile isBlank) =
        (stripEnd (· = '.') cs).dropWhile isBlank :=
      stripEnd_eq_self_of_length_le (by omega)
    have hlast := stripEnd_eq_self_iff.mp hkeep e₀ (by rw [getLast?_dropWhile hcore]; exact he₀)
    exact Bool.false_ne_true (hlast.symm.trans heblank)

end Name

/-! ### Quoted texts -/

theorem toList_unquote (text : String) :
    (unquote text).toList = strip (· = '\x22') text.toList :=
  String.toList_ofList

/-- A text without white space at its ends within the quotes has none outside of them either. -/
theorem strip_isBlank_of_unquoted {cs : List Char}
    (h : strip isBlank (strip (· = '\x22') cs) = strip (· = '\x22') cs) :
    strip isBlank cs = cs := by
  obtain ⟨hhead, hlast⟩ := strip_eq_self_iff.mp h
  have hquote : isBlank '\x22' = false := by decide
  rw [strip_eq_self_iff]
  constructor
  · intro c hc
    by_cases hc' : c = '\x22'
    · rw [hc', hquote]
    · exact hhead c (mem_head?_strip hc (decide_eq_false hc'))
  · intro c hc
    by_cases hc' : c = '\x22'
    · rw [hc', hquote]
    · exact hlast c (mem_getLast?_strip hc (decide_eq_false hc'))

/-- A text with white space at its ends within the quotes has two spellings that trimming tells
    apart: without quotes the white space is lost, and with them it is not. -/
theorem exists_strip_quotes_ne {cs : List Char}
    (h : strip isBlank (strip (· = '\x22') cs) ≠ strip (· = '\x22') cs) :
    ∃ xs ys, strip (· = '\x22') xs = strip (· = '\x22') cs ∧
      strip (· = '\x22') ys = strip (· = '\x22') cs ∧
      strip (· = '\x22') (strip isBlank xs) ≠ strip (· = '\x22') (strip isBlank ys) := by
  have hquotes : ∀ c ∈ ['\x22'], decide (c = '\x22') = true :=
    fun c hc => decide_eq_true (List.mem_singleton.mp hc)
  have hself := strip_strip (· = '\x22') cs
  generalize strip (· = '\x22') cs = u at h hself ⊢
  have hys : strip (· = '\x22') (['\x22'] ++ (u ++ ['\x22'])) = u := by
    rw [strip, List.dropWhile_append_of_pos hquotes, ← strip, strip_append_of_all hquotes, hself]
  have hsolid : strip isBlank (['\x22'] ++ (u ++ ['\x22'])) = ['\x22'] ++ (u ++ ['\x22']) := by
    rw [strip_eq_self_iff]
    constructor
    · intro c hc
      rw [← Option.some.inj hc]
      decide
    · intro c hc
      rw [← List.append_assoc, List.getLast?_append] at hc
      rw [← Option.some.inj hc]
      decide
  -- Within quotes the text keeps its white space, and without them it gets shorter.
  refine ⟨u, ['\x22'] ++ (u ++ ['\x22']), hself, hys, ?_⟩
  rw [hsolid, hys]
  intro heq
  have hle := length_strip_le (· = '\x22') (strip isBlank u)
  rw [heq] at hle
  obtain ⟨hfront, hback⟩ := eq_self_of_length_strip hle
  rw [strip, hfront] at h
  exact h hback

/-! ### Mail answers -/

theorem cutAtBlank_eq_none {xs : List Char} (h : ∀ c ∈ xs, isBlank c = false) :
    cutAtBlank xs = none := by
  induction xs with
  | nil => rfl
  | cons c xs ih =>
    obtain ⟨hc, hxs⟩ := List.forall_mem_cons.mp h
    rw [cutAtBlank, if_neg (by rw [hc]; exact Bool.false_ne_true), ih hxs]
    rfl

/-- A text is cut at its first white space. -/
theorem cutAtBlank_eq_some_iff {cs xs ys : List Char} :
    cutAtBlank cs = some (xs, ys) ↔
      (∀ c ∈ xs, isBlank c = false) ∧ ∃ c, isBlank c = true ∧ cs = xs ++ c :: ys := by
  constructor
  · intro h
    induction cs generalizing xs with
    | nil => exact nomatch h
    | cons c cs ih =>
      rw [cutAtBlank] at h
      split at h
      · rename_i hblank
        obtain ⟨rfl, rfl⟩ := Prod.mk.inj (Option.some.inj h)
        exact ⟨fun _ hc => absurd hc List.not_mem_nil, c, hblank, rfl⟩
      · rename_i hsolid
        obtain ⟨⟨xs', ys'⟩, hcut, hpair⟩ := Option.map_eq_some_iff.mp h
        obtain ⟨rfl, rfl⟩ := Prod.mk.inj hpair
        obtain ⟨hxs, c', hblank, rfl⟩ := ih hcut
        exact ⟨List.forall_mem_cons.mpr ⟨Bool.eq_false_iff.mpr hsolid, hxs⟩, c', hblank, rfl⟩
  · rintro ⟨hxs, c, hblank, rfl⟩
    induction xs with
    | nil => exact if_pos hblank
    | cons x xs ih =>
      obtain ⟨hx, hxs⟩ := List.forall_mem_cons.mp hxs
      rw [List.cons_append, cutAtBlank, if_neg (Bool.eq_false_iff.mp hx), ih hxs]
      rfl

/-- The mail answer of a preference and an exchange is read as these, trimmed, unless the exchange
    is nothing but white space: then the space before it is trimmed too, and nothing can be read. -/
theorem splitPreference?_trim (p : UInt16) (exchange : String) :
    splitPreference? (trim (Nat.repr p.toNat ++ " " ++ exchange)) =
      if isBlankText exchange then none else some (p, trim exchange) := by
  have hdigits : ∀ c ∈ Nat.toDigits 10 p.toNat, isBlank c = false := fun c hc =>
    isBlank_of_isDigit (Nat.isDigit_of_mem_toDigits (by decide) (by decide) hc)
  have hchars : (Nat.repr p.toNat ++ " " ++ exchange).toList =
      Nat.toDigits 10 p.toNat ++ ([' '] ++ exchange.toList) := by
    rw [String.toList_append, String.toList_append, Nat.toList_repr, List.append_assoc]
    rfl
  rw [splitPreference?, toList_trim, hchars, isBlankText]
  by_cases hblank : exchange.toList.all isBlank = true
  -- The space behind the preference is trimmed too, and there is nothing left to cut at.
  · have hall : ∀ c ∈ [' '] ++ exchange.toList, isBlank c = true :=
      List.forall_mem_cons.mpr ⟨by decide, List.all_eq_true.mp hblank⟩
    have hself : strip isBlank (Nat.toDigits 10 p.toNat) = Nat.toDigits 10 p.toNat :=
      strip_eq_self_iff.mpr ⟨fun c hc => hdigits c (List.mem_of_mem_head? hc),
        fun c hc => hdigits c (List.mem_of_getLast? hc)⟩
    rw [if_pos hblank, strip_append_of_all hall, hself, cutAtBlank_eq_none hdigits]
    rfl
  · have hsome : ∃ c ∈ exchange.toList, isBlank c = false := by
      simpa only [List.all_eq_true, not_forall, Bool.not_eq_true, exists_prop] using hblank
    have hsome' : ∃ c ∈ [' '] ++ exchange.toList, isBlank c = false := by
      obtain ⟨c, hc, hcb⟩ := hsome
      exact ⟨c, List.mem_append_right _ hc, hcb⟩
    -- Digits stop the trimming at the start, and the exchange stops it at the end.
    have hfront : (Nat.toDigits 10 p.toNat ++ ([' '] ++ exchange.toList)).dropWhile isBlank =
        Nat.toDigits 10 p.toNat ++ ([' '] ++ exchange.toList) := by
      rw [dropWhile_eq_self_iff, List.head?_append_of_ne_nil _ Nat.toDigits_ne_nil]
      exact fun c hc => hdigits c (List.mem_of_mem_head? hc)
    have hread : readUInt16 (String.ofList (Nat.toDigits 10 p.toNat)) = .ok p := by
      rw [← Nat.repr_eq_ofList_toDigits, readUInt16_repr]
    have htrim : trim (String.ofList (stripEnd isBlank exchange.toList)) = trim exchange := by
      rw [trim, String.toList_ofList, strip_stripEnd, ← trim]
    rw [if_neg hblank, strip, hfront, stripEnd_append_of_exists hsome',
      stripEnd_append_of_exists hsome, List.singleton_append,
      cutAtBlank_eq_some_iff.mpr ⟨hdigits, ' ', by decide, rfl⟩]
    show ((readUInt16 (String.ofList (Nat.toDigits 10 p.toNat))).toOption.bind fun n =>
      some (n, trim (String.ofList (stripEnd isBlank exchange.toList)))) = _
    rw [hread, htrim]
    rfl

/-- The parts of a mail answer: there is white space between them, and more than that behind it. -/
theorem of_splitPreference?_trim {text exchange : String} {p : UInt16}
    (h : splitPreference? (trim text) = some (p, exchange)) :
    (∃ c ∈ (trim text).toList, isBlank c = true) ∧ isBlankText exchange = false ∧
      trim exchange = exchange := by
  rw [splitPreference?, Option.bind_eq_bind, Option.bind_eq_some_iff] at h
  obtain ⟨⟨front, rest⟩, hcut, hread⟩ := h
  obtain ⟨n, _, hpair⟩ := Option.bind_eq_some_iff.mp hread
  obtain ⟨rfl, rfl⟩ := Prod.mk.inj (Option.some.inj hpair)
  obtain ⟨_, c, hblank, hchars⟩ := cutAtBlank_eq_some_iff.mp hcut
  refine ⟨⟨c, by rw [hchars]; simp, hblank⟩, ?_, trim_trim _⟩
  -- The last character of the whole is no white space, so it is not the one at the cut.
  have hsolid : ∀ d ∈ (trim text).toList.getLast?, isBlank d = false := by
    rw [toList_trim]
    exact (strip_eq_self_iff.mp (strip_strip isBlank text.toList)).2
  rw [hchars, List.getLast?_append, List.getLast?_cons] at hsolid
  have hlast := hsolid _ rfl
  cases hrest : rest.getLast? with
  | none =>
    rw [hrest, Option.getD_none, hblank] at hlast
    exact nomatch hlast
  | some d =>
    rw [hrest, Option.getD_some] at hlast
    rw [isBlankText, List.all_eq_false, toList_trim, String.toList_ofList]
    exact ⟨d, List.mem_of_getLast? (mem_getLast?_strip hrest hlast), Bool.eq_false_iff.mp hlast⟩

end ZoneSync
