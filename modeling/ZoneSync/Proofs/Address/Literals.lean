import ZoneSync.Address.Ipv6
import ZoneSync.Proofs.Text.Digits
import ZoneSync.Proofs.Text.Pieces

namespace ZoneSync

open Text

/-!
# Which texts are addresses

The grammar of addresses, said without reading them, and that exactly its texts are read.

* `IsQuad`, `Ipv4.parse?_isSome_iff` — dotted quads: four decimal numbers of 8 bits, written without
  leading zeros;
* `IsGroup`, `IsSide`, `IsIpv6Literal`, `Ipv6.parse?_isSome_iff` — groups of hexadecimal digits
  between colons, a dotted quad in place of the last two of them, and a gap in place of one group or
  more;
* `IsQuad.getLast?_ne_dot`, `IsIpv6Literal.getLast?_ne_dot` — no address ends in a dot.
-/

/-! ### IPv4 -/

/-- The decimal digits of an octet. -/
def decimal (o : UInt8) : List Char := (Nat.repr o.toNat).toList

/-- Four octets in decimal with dots between them. -/
def IsQuad (cs : List Char) : Prop :=
  ∃ a b c d : UInt8, cs = ['.'].intercalate [decimal a, decimal b, decimal c, decimal d]

namespace Ipv4

/-- An octet is read from its decimal digits, and from nothing else. -/
theorem octet?_eq_some_iff {cs : List Char} {o : UInt8} :
    octet? cs = some o ↔ cs = decimal o := by
  rw [decimal, Nat.toList_repr]
  constructor
  · intro h
    unfold octet? at h
    split at h
    · exact nomatch h
    · rename_i c rest
      split at h
      · exact nomatch h
      · rename_i hform
        split at h
        · rename_i n hread
          split at h
          · rename_i hbound
            obtain ⟨hdigits, hn⟩ := readDigits?_ten_eq_some_iff.mp hread
            have hzero : ∀ tail, c :: rest = '0' :: tail → tail = [] := by
              intro tail htail
              obtain ⟨rfl, rfl⟩ := List.cons.inj htail
              exact Classical.byContradiction fun hne => hform (.inl ⟨rfl, hne⟩)
            have hsize : n < UInt8.size := Nat.lt_succ_of_le hbound
            rw [← Option.some.inj h, UInt8.toNat_ofNat_of_lt' hsize, ← hn,
              toDigits_ofDigitChars hdigits (List.cons_ne_nil c rest) hzero]
          · exact nomatch h
        · exact nomatch h
  · rintro rfl
    have hread : readDigits? 10 (Nat.toDigits 10 o.toNat) = some o.toNat :=
      readDigits?_ten_eq_some_iff.mpr
        ⟨fun c hc => Nat.isDigit_of_mem_toDigits (by decide) (by decide) hc,
          Nat.ofDigitChars_ten_toDigits⟩
    have hlength : (Nat.toDigits 10 o.toNat).length ≤ 3 :=
      (Nat.length_toDigits_le_iff (by decide) (by decide)).mpr (Nat.lt_trans o.toNat_lt (by decide))
    cases hcs : Nat.toDigits 10 o.toNat with
    | nil => exact absurd hcs Nat.toDigits_ne_nil
    | cons c rest =>
      rw [hcs] at hread hlength
      have hform : ¬ ((c = '0' ∧ rest ≠ []) ∨ 2 < rest.length) := by
        rintro (⟨rfl, hne⟩ | hlong)
        · exact hne (eq_nil_of_toDigits_eq_cons hcs)
        · rw [List.length_cons] at hlength
          omega
      have hbound : o.toNat ≤ 255 := Nat.le_of_lt_succ o.toNat_lt
      rw [octet?, if_neg hform, hread]
      show (if o.toNat ≤ 255 then some (UInt8.ofNat o.toNat) else none) = some o
      rw [if_pos hbound, UInt8.ofNat_toNat]

/-- No dot stands within an octet. -/
theorem dot_not_mem_decimal (o : UInt8) : '.' ∉ decimal o := by
  rw [decimal, Nat.toList_repr]
  intro h
  exact absurd (Nat.isDigit_of_mem_toDigits (by decide) (by decide) h) (by decide)

/-- Pieces are read as octets when they are their decimal digits. -/
theorem mapM_octet?_eq_some_iff {pieces : List (List Char)} {os : List UInt8} :
    pieces.mapM octet? = some os ↔ pieces = os.map decimal := by
  induction pieces generalizing os with
  | nil =>
    rw [List.mapM_nil, eq_comm (a := []), List.map_eq_nil_iff]
    exact ⟨fun h => (Option.some.inj h).symm, fun h => congrArg some h.symm⟩
  | cons piece pieces ih =>
    rw [List.mapM_cons]
    constructor
    · intro h
      obtain ⟨o, ho, hrest⟩ := Option.bind_eq_some_iff.mp h
      obtain ⟨os', hos, hcons⟩ := Option.bind_eq_some_iff.mp hrest
      rw [← Option.some.inj hcons, List.map_cons, ← octet?_eq_some_iff.mp ho, ← ih.mp hos]
    · intro h
      cases os with
      | nil => exact nomatch h
      | cons o os' =>
        obtain ⟨hpiece, hpieces⟩ := List.cons.inj h
        rw [octet?_eq_some_iff.mpr hpiece, ih.mpr hpieces]
        rfl

/-- A dotted quad is read as the octets that it writes. -/
theorem parseChars?_decimal (a b c d : UInt8) :
    parseChars? (['.'].intercalate ([a, b, c, d].map decimal)) = some ⟨#v[a, b, c, d]⟩ := by
  have hdots : ∀ piece ∈ [a, b, c, d].map decimal, '.' ∉ piece := by
    intro piece hpiece
    obtain ⟨o, _, rfl⟩ := List.mem_map.mp hpiece
    exact dot_not_mem_decimal o
  have hpieces := splitOn_intercalate hdots (List.cons_ne_nil _ _)
  have hoctets : (splitOn '.' (['.'].intercalate ([a, b, c, d].map decimal))).mapM octet? =
      some [a, b, c, d] := mapM_octet?_eq_some_iff.mpr hpieces
  rw [parseChars?, hoctets]

theorem parseChars?_isSome_iff {cs : List Char} :
    (parseChars? cs).isSome = true ↔ IsQuad cs := by
  constructor
  · intro h
    unfold parseChars? at h
    split at h
    · rename_i a b c d hoctets
      refine ⟨a, b, c, d, ?_⟩
      rw [← intercalate_splitOn '.' cs, mapM_octet?_eq_some_iff.mp hoctets]
      rfl
    · exact nomatch h
  · rintro ⟨a, b, c, d, rfl⟩
    exact Option.isSome_of_eq_some (parseChars?_decimal a b c d)

/-- The texts that are read are the dotted quads. -/
theorem parse?_isSome_iff {s : String} : (parse? s).isSome = true ↔ IsQuad s.toList :=
  parseChars?_isSome_iff

end Ipv4

/-! ### IPv6 -/

/-- One to four hexadecimal digits. -/
def IsGroup (cs : List Char) : Prop :=
  1 ≤ cs.length ∧ cs.length ≤ 4 ∧ ∀ c ∈ cs, isHexDigit c = true

/-- Pieces that write `n` groups: each of them one, but a dotted quad at the end, where one may
    stand, two. -/
def IsSide (quad : Bool) (n : Nat) (pieces : List (List Char)) : Prop :=
  (pieces.length = n ∧ ∀ cs ∈ pieces, IsGroup cs) ∨
    (quad = true ∧ ∃ groups last, pieces = groups ++ [last] ∧ groups.length + 2 = n ∧
      (∀ cs ∈ groups, IsGroup cs) ∧ IsQuad last)

/-- Eight groups between colons; or at most seven, with a gap of two colons at one place for all the
    others, and no dotted quad in front of it. -/
def IsIpv6Literal (cs : List Char) : Prop :=
  (∃ pieces, IsSide true 8 pieces ∧ cs = [':'].intercalate pieces) ∨
    ∃ m n high low, m + n ≤ 7 ∧ IsSide false m high ∧ IsSide true n low ∧
      cs = [':'].intercalate high ++ ':' :: ':' :: [':'].intercalate low

namespace Ipv6

theorem group?_isSome_iff {cs : List Char} : (group? cs).isSome = true ↔ IsGroup cs := by
  have hdigits : (readDigits? 16 cs).isSome = true ↔ ∀ c ∈ cs, isHexDigit c = true := by
    rw [readDigits?_isSome_iff]
    exact forall₂_congr fun c _ => by rw [digitValue?_sixteen_isSome]
  unfold group?
  rw [IsGroup, ← hdigits]
  split
  · rename_i hform
    constructor
    · exact fun h => nomatch h
    · rintro ⟨hpos, hlength, _⟩
      rw [List.isEmpty_iff_length_eq_zero] at hform
      omega
  · rename_i hform
    rw [List.isEmpty_iff_length_eq_zero] at hform
    rw [Option.isSome_map]
    exact ⟨fun h => ⟨by omega, by omega, h⟩, fun h => h.2.2⟩

/-- A dotted quad has dots, but no colon. -/
theorem of_isQuad {cs : List Char} (h : IsQuad cs) : '.' ∈ cs ∧ ':' ∉ cs := by
  obtain ⟨a, b, c, d, rfl⟩ := h
  have hcolon : ∀ o : UInt8, ':' ∉ decimal o := by
    intro o ho
    rw [decimal, Nat.toList_repr] at ho
    exact absurd (Nat.isDigit_of_mem_toDigits (by decide) (by decide) ho) (by decide)
  simp only [List.intercalate_cons_cons, List.intercalate_singleton]
  simp [hcolon]

theorem not_isGroup_of_isQuad {cs : List Char} (h : IsQuad cs) : ¬ IsGroup cs := fun hgroup =>
  absurd (hgroup.2.2 '.' (of_isQuad h).1) (by decide)

theorem isSide_nil {quad : Bool} {n : Nat} : IsSide quad n [] ↔ n = 0 := by
  constructor
  · rintro (⟨hlength, _⟩ | ⟨_, groups, last, hnil, _⟩)
    · exact hlength.symm
    · exact absurd hnil.symm (List.append_ne_nil_of_right_ne_nil _ (List.cons_ne_nil _ _))
  · rintro rfl
    exact .inl ⟨rfl, fun cs hcs => absurd hcs List.not_mem_nil⟩

/-- A last piece is a group, or a dotted quad. -/
theorem isSide_singleton {quad : Bool} {n : Nat} {piece : List Char} :
    IsSide quad n [piece] ↔ (n = 1 ∧ IsGroup piece) ∨ (quad = true ∧ n = 2 ∧ IsQuad piece) := by
  refine or_congr ?_ (and_congr_right fun _ => ?_)
  · rw [List.forall_mem_singleton, List.length_singleton, eq_comm]
  · constructor
    · rintro ⟨groups, last, hpieces, hn, _, hlast⟩
      obtain ⟨rfl, hpiece⟩ := @List.append_inj' _ [] _ _ _ hpieces rfl
      rw [(List.cons.inj hpiece).1]
      exact ⟨hn.symm, hlast⟩
    · rintro ⟨rfl, hpiece⟩
      exact ⟨[], piece, rfl, rfl, fun cs hcs => absurd hcs List.not_mem_nil, hpiece⟩

/-- A piece with others behind it is a group. -/
theorem isSide_cons {quad : Bool} {n : Nat} {piece next : List Char} {rest : List (List Char)} :
    IsSide quad n (piece :: next :: rest) ↔
      IsGroup piece ∧ ∃ m, n = m + 1 ∧ IsSide quad m (next :: rest) := by
  constructor
  · rintro (⟨hlength, hall⟩ | ⟨hquad, groups, last, hpieces, hn, hall, hlast⟩)
    · obtain ⟨hpiece, hrest⟩ := List.forall_mem_cons.mp hall
      exact ⟨hpiece, _, hlength.symm, .inl ⟨rfl, hrest⟩⟩
    · cases groups with
      | nil => exact absurd (List.cons.inj hpieces).2 (List.cons_ne_nil _ _)
      | cons group groups =>
        obtain ⟨hgroup, hgroups⟩ := List.forall_mem_cons.mp hall
        obtain ⟨rfl, hrest⟩ := List.cons.inj hpieces
        refine ⟨hgroup, groups.length + 2, ?_,
          .inr ⟨hquad, groups, last, hrest, rfl, hgroups, hlast⟩⟩
        rw [← hn, List.length_cons]
  · rintro ⟨hpiece, m, rfl, ⟨hlength, hall⟩ | ⟨hquad, groups, last, hpieces, hn, hall, hlast⟩⟩
    · exact .inl ⟨congrArg (· + 1) hlength, List.forall_mem_cons.mpr ⟨hpiece, hall⟩⟩
    · refine .inr ⟨hquad, piece :: groups, last, ?_, ?_, List.forall_mem_cons.mpr ⟨hpiece, hall⟩,
        hlast⟩
      · rw [hpieces, List.cons_append]
      · rw [List.length_cons]
        omega

theorem exists_groupsOf?_singleton_iff {quad : Bool} {n : Nat} {piece : List Char} :
    (∃ gs, groupsOf? quad [piece] = some gs ∧ gs.length = n) ↔ IsSide quad n [piece] := by
  rw [isSide_singleton, ← group?_isSome_iff, ← Ipv4.parseChars?_isSome_iff, groupsOf?]
  cases hgroup : group? piece with
  | some g =>
    have hquad : ¬ (Ipv4.parseChars? piece).isSome = true := fun h =>
      not_isGroup_of_isQuad (Ipv4.parseChars?_isSome_iff.mp h)
        (group?_isSome_iff.mp (Option.isSome_of_eq_some hgroup))
    constructor
    · rintro ⟨gs, hgs, rfl⟩
      obtain rfl := Option.some.inj hgs
      exact .inl ⟨rfl, rfl⟩
    · rintro (⟨rfl, _⟩ | ⟨_, _, h⟩)
      · exact ⟨[g], rfl, rfl⟩
      · exact absurd h hquad
  | none =>
    constructor
    · rintro ⟨gs, hgs, rfl⟩
      dsimp only at hgs
      split at hgs
      · rename_i hquad
        obtain ⟨a, ha, rfl⟩ := Option.map_eq_some_iff.mp hgs
        exact .inr ⟨hquad, rfl, Option.isSome_of_eq_some ha⟩
      · exact nomatch hgs
    · rintro (⟨_, h⟩ | ⟨rfl, rfl, h⟩)
      · exact nomatch h
      · obtain ⟨a, ha⟩ := Option.isSome_iff_exists.mp h
        exact ⟨quadGroups a, by rw [ha]; rfl, rfl⟩

/-- Pieces are read as groups when they write as many. -/
theorem exists_groupsOf?_iff {quad : Bool} {n : Nat} {pieces : List (List Char)} :
    (∃ gs, groupsOf? quad pieces = some gs ∧ gs.length = n) ↔ IsSide quad n pieces := by
  -- A piece is read without what stands behind it, unless it is the last.
  induction pieces generalizing n with
  | nil =>
    rw [isSide_nil]
    constructor
    · rintro ⟨gs, hgs, rfl⟩
      rw [← Option.some.inj hgs]
      rfl
    · rintro rfl
      exact ⟨[], rfl, rfl⟩
  | cons piece rest ih =>
    cases rest with
    | nil => exact exists_groupsOf?_singleton_iff
    | cons next rest =>
      have hstep : groupsOf? quad (piece :: next :: rest) = (group? piece).bind fun g =>
          (groupsOf? quad (next :: rest)).bind fun gs => some (g :: gs) := rfl
      rw [isSide_cons, ← group?_isSome_iff, hstep]
      constructor
      · rintro ⟨gs, hgs, rfl⟩
        obtain ⟨g, hg, hrest⟩ := Option.bind_eq_some_iff.mp hgs
        obtain ⟨gs', hgs', hcons⟩ := Option.bind_eq_some_iff.mp hrest
        refine ⟨Option.isSome_of_eq_some hg, gs'.length, ?_, ih.mp ⟨gs', hgs', rfl⟩⟩
        rw [← Option.some.inj hcons, List.length_cons]
      · rintro ⟨hg, m, rfl, hside⟩
        obtain ⟨g, hg⟩ := Option.isSome_iff_exists.mp hg
        obtain ⟨gs, hgs, rfl⟩ := ih.mpr hside
        exact ⟨g :: gs, by rw [hg, hgs]; rfl, List.length_cons⟩

/-- Pieces of a side are not empty, and no colon stands within them. -/
theorem of_mem_isSide {quad : Bool} {n : Nat} {pieces : List (List Char)}
    (h : IsSide quad n pieces) : ∀ cs ∈ pieces, cs ≠ [] ∧ ':' ∉ cs := by
  have hgroup : ∀ cs, IsGroup cs → cs ≠ [] ∧ ':' ∉ cs := by
    intro cs hcs
    refine ⟨List.length_pos_iff.mp hcs.1, fun hmem => ?_⟩
    exact absurd (hcs.2.2 ':' hmem) (by decide)
  rcases h with ⟨_, hall⟩ | ⟨_, groups, last, rfl, _, hall, hlast⟩
  · exact fun cs hcs => hgroup cs (hall cs hcs)
  · intro cs hcs
    rcases List.mem_append.mp hcs with hcs | hcs
    · exact hgroup cs (hall cs hcs)
    · rw [List.mem_singleton.mp hcs]
      exact ⟨List.ne_nil_of_mem (of_isQuad hlast).1, (of_isQuad hlast).2⟩

/-- A side is read piece by piece. -/
theorem side?_intercalate {quad : Bool} {pieces : List (List Char)}
    (h : ∀ cs ∈ pieces, cs ≠ [] ∧ ':' ∉ cs) :
    side? quad ([':'].intercalate pieces) = groupsOf? quad pieces := by
  cases pieces with
  | nil => rfl
  | cons piece rest =>
    -- A side with a piece is not empty, as its pieces are not.
    have hne : ([':'].intercalate (piece :: rest)).isEmpty = false := by
      rw [List.isEmpty_eq_false_iff]
      obtain ⟨hpiece, _⟩ := h piece List.mem_cons_self
      cases rest with
      | nil =>
        rw [List.intercalate_singleton]
        exact hpiece
      | cons next rest =>
        rw [List.intercalate_cons_cons]
        simp
    rw [side?, hne, splitOn_intercalate (fun cs hcs => (h cs hcs).2) (List.cons_ne_nil _ _)]
    rfl

/-- A side is read from its pieces with colons between them. -/
theorem exists_side?_iff {quad : Bool} {n : Nat} {cs : List Char} :
    (∃ gs, side? quad cs = some gs ∧ gs.length = n) ↔
      ∃ pieces, IsSide quad n pieces ∧ cs = [':'].intercalate pieces := by
  constructor
  · rintro ⟨gs, hgs, rfl⟩
    unfold side? at hgs
    split at hgs
    · rename_i hempty
      obtain rfl := Option.some.inj hgs
      exact ⟨[], isSide_nil.mpr rfl, List.isEmpty_iff.mp hempty⟩
    · exact ⟨splitOn ':' cs, exists_groupsOf?_iff.mp ⟨gs, hgs, rfl⟩,
        (intercalate_splitOn ':' cs).symm⟩
  · rintro ⟨pieces, hside, rfl⟩
    rw [side?_intercalate (of_mem_isSide hside)]
    exact exists_groupsOf?_iff.mpr hside

/-! ### The gap -/

/-- What stands before and after a gap makes up the text. -/
theorem eq_of_cutAtGap {cs before after : List Char}
    (h : cutAtGap cs = some (before, after)) : cs = before ++ ':' :: ':' :: after := by
  induction cs generalizing before with
  | nil => exact nomatch h
  | cons c rest ih =>
    unfold cutAtGap at h
    split at h
    · rename_i heq
      obtain ⟨rfl, rfl⟩ := Prod.mk.inj (Option.some.inj h)
      exact heq
    · rename_i heq
      obtain ⟨rfl, rfl⟩ := List.cons.inj heq
      obtain ⟨⟨before', after'⟩, hcut, hpair⟩ := Option.map_eq_some_iff.mp h
      obtain ⟨rfl, rfl⟩ := Prod.mk.inj hpair
      rw [ih hcut, List.cons_append]
    · rename_i heq
      exact nomatch heq

/-- There is no gap at a character other than a colon, nor at one with such a character behind. -/
theorem cutAtGap_cons {c : Char} {rest : List Char}
    (h : c ≠ ':' ∨ ∃ d tail, rest = d :: tail ∧ d ≠ ':') :
    cutAtGap (c :: rest) = (cutAtGap rest).map fun (before, after) => (c :: before, after) := by
  conv => lhs; unfold cutAtGap
  split
  · rename_i heq
    obtain ⟨rfl, rfl⟩ := List.cons.inj heq
    rcases h with h | ⟨d, tail, hrest, hd⟩
    · exact absurd rfl h
    · exact absurd (List.cons.inj hrest).1.symm hd
  · rename_i heq
    obtain ⟨rfl, rfl⟩ := List.cons.inj heq
    rfl
  · rename_i heq
    exact nomatch heq

/-- There is no gap within a piece. -/
theorem cutAtGap_piece {piece : List Char} (h : ':' ∉ piece) (rest : List Char) :
    cutAtGap (piece ++ rest) =
      (cutAtGap rest).map fun (before, after) => (piece ++ before, after) := by
  induction piece with
  | nil => simp
  | cons c piece ih =>
    rw [List.mem_cons, not_or] at h
    rw [List.cons_append, cutAtGap_cons (.inl fun hc => h.1 hc.symm), ih h.2, Option.map_map]
    rfl

/-- There is no gap within the pieces of a side, nor right behind them. -/
theorem cutAtGap_pieces {pieces : List (List Char)} (h : ∀ cs ∈ pieces, cs ≠ [] ∧ ':' ∉ cs)
    (rest : List Char) :
    cutAtGap ([':'].intercalate pieces ++ rest) =
      (cutAtGap rest).map fun (before, after) => ([':'].intercalate pieces ++ before, after) := by
  induction pieces with
  | nil => simp
  | cons piece pieces ih =>
    obtain ⟨⟨_, hpiece⟩, hpieces⟩ := List.forall_mem_cons.mp h
    cases pieces with
    | nil =>
      rw [List.intercalate_singleton]
      exact cutAtGap_piece hpiece rest
    | cons next others =>
      -- The colon between two pieces has the first character of the second behind it.
      obtain ⟨hne, hnext⟩ := hpieces next List.mem_cons_self
      obtain ⟨d, tail, rfl⟩ := List.exists_cons_of_ne_nil hne
      have hd : d ≠ ':' := fun hd => hnext (List.mem_cons.mpr (.inl hd.symm))
      have hfirst : [':'].intercalate ((d :: tail) :: others) ++ rest =
          d :: ([':'].intercalate (tail :: others) ++ rest) := by
        rw [List.intercalate_cons_cons_left, List.cons_append]
      rw [List.intercalate_cons_cons, List.append_assoc, List.append_assoc, cutAtGap_piece hpiece,
        List.singleton_append, cutAtGap_cons (.inr ⟨d, _, hfirst, hd⟩), ih hpieces,
        Option.map_map, Option.map_map]
      refine congrArg (Option.map · _) (funext fun (before, after) => ?_)
      simp

theorem cutAtGap_eq_none {pieces : List (List Char)} (h : ∀ cs ∈ pieces, cs ≠ [] ∧ ':' ∉ cs) :
    cutAtGap ([':'].intercalate pieces) = none := by
  have hcut := cutAtGap_pieces h []
  rwa [List.append_nil] at hcut

/-- Between two sides the gap is where they meet. -/
theorem cutAtGap_between {pieces : List (List Char)} (h : ∀ cs ∈ pieces, cs ≠ [] ∧ ':' ∉ cs)
    (after : List Char) : cutAtGap ([':'].intercalate pieces ++ ':' :: ':' :: after) =
      some ([':'].intercalate pieces, after) := by
  rw [cutAtGap_pieces h]
  exact congrArg (fun before => some (before, after)) (List.append_nil _)

/-! ### Whole texts -/

theorem ofGroups?_isSome_iff {gs : List UInt16} : (ofGroups? gs).isSome = true ↔ gs.length = 8 := by
  unfold ofGroups?
  split
  · rename_i h
    exact iff_of_true rfl h
  · rename_i h
    exact iff_of_false Bool.false_ne_true h

theorem parseChars?_isSome_iff {cs : List Char} :
    (parseChars? cs).isSome = true ↔ IsIpv6Literal cs := by
  constructor
  · intro h
    unfold parseChars? at h
    split at h
    · obtain ⟨a, ha⟩ := Option.isSome_iff_exists.mp h
      obtain ⟨gs, hgs, hgroups⟩ := Option.bind_eq_some_iff.mp ha
      exact .inl (exists_side?_iff.mp
        ⟨gs, hgs, ofGroups?_isSome_iff.mp (Option.isSome_of_eq_some hgroups)⟩)
    · rename_i before after hcut
      obtain ⟨a, ha⟩ := Option.isSome_iff_exists.mp h
      obtain ⟨high, hhigh, hrest⟩ := Option.bind_eq_some_iff.mp ha
      obtain ⟨low, hlow, hrest⟩ := Option.bind_eq_some_iff.mp hrest
      have hknown : high.length + low.length ≤ 7 := by
        by_contra hnot
        rw [if_neg hnot] at hrest
        exact nomatch hrest
      obtain ⟨before', hbefore, rfl⟩ := exists_side?_iff.mp ⟨high, hhigh, rfl⟩
      obtain ⟨after', hafter, rfl⟩ := exists_side?_iff.mp ⟨low, hlow, rfl⟩
      exact .inr ⟨_, _, before', after', hknown, hbefore, hafter, eq_of_cutAtGap hcut⟩
  · rintro (⟨pieces, hside, rfl⟩ | ⟨m, n, high, low, hknown, hhigh, hlow, rfl⟩)
    -- Pieces alone have no gap.
    · obtain ⟨gs, hgs, hlength⟩ := exists_side?_iff.mpr ⟨pieces, hside, rfl⟩
      rw [parseChars?, cutAtGap_eq_none (of_mem_isSide hside), hgs]
      exact ofGroups?_isSome_iff.mpr hlength
    · have hsome := cutAtGap_between (of_mem_isSide hhigh) ([':'].intercalate low)
      obtain ⟨high', hhigh', rfl⟩ := exists_side?_iff.mpr ⟨high, hhigh, rfl⟩
      obtain ⟨low', hlow', rfl⟩ := exists_side?_iff.mpr ⟨low, hlow, rfl⟩
      rw [parseChars?, hsome]
      dsimp only
      rw [hhigh', hlow']
      show (if high'.length + low'.length ≤ 7 then ofGroups? _ else none).isSome = true
      rw [if_pos hknown, ofGroups?_isSome_iff]
      simp only [List.length_append, List.length_replicate]
      omega

/-- The texts that are read are those of the grammar. -/
theorem parse?_isSome_iff {s : String} : (parse? s).isSome = true ↔ IsIpv6Literal s.toList :=
  parseChars?_isSome_iff

end Ipv6

/-! ### The ends of addresses -/

/-- A dotted quad ends in a digit. -/
theorem IsQuad.getLast?_ne_dot {cs : List Char} (h : IsQuad cs) : cs.getLast? ≠ some '.' := by
  obtain ⟨a, b, c, d, rfl⟩ := h
  have hne : decimal d ≠ [] := by
    rw [decimal, Nat.toList_repr]
    exact Nat.toDigits_ne_nil
  have hlast : (['.'].intercalate [decimal a, decimal b, decimal c, decimal d]).getLast? =
      some ((decimal d).getLast hne) := by
    simp only [List.intercalate_cons_cons, List.intercalate_singleton, List.getLast?_append,
      List.getLast?_eq_some_getLast hne, Option.some_or]
  rw [hlast, Ne, Option.some.injEq]
  exact fun hdot => Ipv4.dot_not_mem_decimal d (hdot ▸ List.getLast_mem hne)

theorem IsGroup.getLast?_ne_dot {cs : List Char} (h : IsGroup cs) : cs.getLast? ≠ some '.' :=
  fun hdot => absurd (h.2.2 '.' (List.mem_of_getLast? hdot)) (by decide)

/-- What stands on a side of a gap ends in a digit, or in nothing. -/
theorem IsSide.getLast?_ne_dot {quad : Bool} {n : Nat} {pieces : List (List Char)}
    (h : IsSide quad n pieces) : ([':'].intercalate pieces).getLast? ≠ some '.' := by
  induction pieces generalizing n with
  | nil => exact fun hdot => nomatch hdot
  | cons piece rest ih =>
    cases rest with
    | nil =>
      rw [List.intercalate_singleton]
      rcases Ipv6.isSide_singleton.mp h with ⟨_, hgroup⟩ | ⟨_, _, hquad⟩
      · exact hgroup.getLast?_ne_dot
      · exact hquad.getLast?_ne_dot
    | cons next rest =>
      obtain ⟨_, m, _, hrest⟩ := Ipv6.isSide_cons.mp h
      have htail := ih hrest
      rw [List.intercalate_cons_cons, List.getLast?_append, Ne, Option.or_eq_some_iff]
      rintro (hdot | ⟨_, hdot⟩)
      · exact htail hdot
      · rw [List.getLast?_append] at hdot
        exact absurd (Option.some.inj hdot) (by decide)

/-- An address ends in a digit or in a colon. -/
theorem IsIpv6Literal.getLast?_ne_dot {cs : List Char} (h : IsIpv6Literal cs) :
    cs.getLast? ≠ some '.' := by
  rcases h with ⟨pieces, hside, rfl⟩ | ⟨m, n, high, low, _, _, hlow, rfl⟩
  · exact hside.getLast?_ne_dot
  · have hgap := hlow.getLast?_ne_dot
    rw [List.getLast?_append, List.getLast?_cons_cons, List.getLast?_cons, Option.some_or, Ne,
      Option.some.injEq]
    intro hdot
    cases hlast : ([':'].intercalate low).getLast? with
    | none =>
      rw [hlast] at hdot
      exact absurd hdot (by decide)
    | some c =>
      rw [hlast] at hdot hgap
      exact hgap (congrArg some hdot)

end ZoneSync
