import Mathlib.Data.List.TakeWhile
import ZoneSync.Address.Ip
import ZoneSync.Proofs.Address.Literals

namespace ZoneSync

open Text

/-!
# Texts of addresses

The text of an address is read as the address, so that different addresses have different texts.

* `Ipv4.parseChars?_toString` — dotted quads;
* `Ipv6.exists_gap` — where `::` stands, the groups are zero;
* `Ipv6.parse?_toString` — the three forms of an IPv6 address: with a dotted quad, with a gap, and
  with all groups;
* `Ip.parse?_toString`, `Ip.toString_injective` — addresses of either family.
-/

/-! ### IPv4 -/

namespace Ipv4

theorem toList_toString (a : Ipv4) :
    a.toString.toList = ['.'].intercalate (a.octets.toList.map decimal) := by
  rw [toString, String.toList_intercalate, List.map_map]
  rfl

/-- The octets of an address, one by one. -/
theorem exists_octets (a : Ipv4) : ∃ p q r s : UInt8, a = ⟨#v[p, q, r, s]⟩ := by
  obtain ⟨⟨⟨octets⟩, hsize⟩⟩ := a
  match octets, hsize with
  | [p, q, r, s], _ => exact ⟨p, q, r, s, rfl⟩

theorem parseChars?_toString (a : Ipv4) : parseChars? a.toString.toList = some a := by
  obtain ⟨p, q, r, s, rfl⟩ := a.exists_octets
  rw [toList_toString]
  exact parseChars?_decimal p q r s

theorem isQuad_toString (a : Ipv4) : IsQuad a.toString.toList :=
  parseChars?_isSome_iff.mp (Option.isSome_of_eq_some a.parseChars?_toString)

end Ipv4

/-! ### IPv6 -/

namespace Ipv6

/-- A group is read from its digits. -/
theorem group?_digitsOf (g : UInt16) : group? (digitsOf 16 g.toNat) = some g := by
  have hlength : (digitsOf 16 g.toNat).length ≤ 4 :=
    (Nat.length_toDigits_le_iff (by decide) (by decide)).mpr g.toNat_lt
  have hempty : (digitsOf 16 g.toNat).isEmpty = false :=
    List.isEmpty_eq_false_iff.mpr Nat.toDigits_ne_nil
  rw [group?, if_neg (by simp [hempty, hlength]), digitsOf, readDigits?_toDigits_sixteen]
  exact congrArg some g.ofNat_toNat

/-- The digits of groups are pieces without colons. -/
theorem of_mem_digits {gs : List UInt16} :
    ∀ cs ∈ gs.map (fun g => digitsOf 16 g.toNat), cs ≠ [] ∧ ':' ∉ cs := by
  have hgroups : ∀ cs ∈ gs.map (fun g => digitsOf 16 g.toNat), IsGroup cs := by
    intro cs hcs
    obtain ⟨g, _, rfl⟩ := List.mem_map.mp hcs
    exact group?_isSome_iff.mp (Option.isSome_of_eq_some (group?_digitsOf g))
  have hside : IsSide false _ (gs.map fun g => digitsOf 16 g.toNat) := .inl ⟨rfl, hgroups⟩
  exact of_mem_isSide hside

theorem groupsOf?_digits (quad : Bool) (gs : List UInt16) :
    groupsOf? quad (gs.map fun g => digitsOf 16 g.toNat) = some gs := by
  induction gs with
  | nil => rfl
  | cons g gs ih =>
    cases gs with
    | nil =>
      rw [List.map_singleton, groupsOf?, group?_digitsOf]
    | cons next rest =>
      rw [List.map_cons] at ih
      rw [List.map_cons, List.map_cons, groupsOf?, group?_digitsOf, ih]
      · rfl
      · exact fun h => absurd h (List.cons_ne_nil _ _)

theorem toList_writeGroups (gs : List UInt16) :
    (writeGroups gs).toList = [':'].intercalate (gs.map fun g => digitsOf 16 g.toNat) := by
  rw [writeGroups, String.toList_intercalate, List.map_map]
  simp only [Function.comp_def, String.toList_ofList]
  rfl

/-- Groups are read as they were written. -/
theorem side?_writeGroups (quad : Bool) (gs : List UInt16) :
    side? quad (writeGroups gs).toList = some gs := by
  rw [toList_writeGroups, side?_intercalate of_mem_digits, groupsOf?_digits]

theorem ofGroups?_groups (a : Ipv6) : ofGroups? a.groups.toList = some a := by
  rw [ofGroups?, dif_pos a.groups.length_toList]
  rfl

/-! #### The gap -/

/-- The groups at a position, as many as are given, are zero. -/
def IsRun (gs : List UInt16) (p : Nat × Nat) : Prop :=
  (gs.drop p.1).take p.2 = List.replicate p.2 0

/-- A search for runs of zeros that has come to a position finds one of them. -/
theorem isRun_longestZeros {front gs : List UInt16} {best : Nat × Nat}
    (h : IsRun (front ++ gs) best) :
    IsRun (front ++ gs) (longestZeros best front.length gs) := by
  induction gs generalizing front best with
  | nil => exact h
  | cons g gs ih =>
    -- The run that starts here is one of zeros, and the longest one so far was found before.
    have hzeros : (g :: gs).takeWhile (· = 0) =
        List.replicate ((g :: gs).takeWhile (· = 0)).length 0 := by
      rw [List.eq_replicate_iff]
      exact ⟨rfl, fun z hz => by simpa using List.mem_takeWhile_imp hz⟩
    have hrun : IsRun (front ++ g :: gs)
        (front.length, ((g :: gs).takeWhile (· = 0)).length) := by
      rw [IsRun, List.drop_left, ← hzeros]
      exact (List.prefix_iff_eq_take.mp (List.takeWhile_prefix _)).symm
    have hnext := @ih (front ++ [g])
    rw [List.append_assoc, List.singleton_append, List.length_append] at hnext
    rw [longestZeros]
    refine hnext ?_
    split
    · exact hrun
    · exact h

/-- Where `::` stands, the groups are zero. -/
theorem exists_gap (gs : List UInt16) :
    ∃ start length, longestZeros (0, 0) 0 gs = (start, length) ∧
      gs = gs.take start ++ List.replicate length 0 ++ gs.drop (start + length) := by
  have hrun : IsRun gs (longestZeros (0, 0) 0 gs) :=
    @isRun_longestZeros [] gs (0, 0) rfl
  refine ⟨_, _, rfl, ?_⟩
  rw [← hrun, List.append_assoc, ← List.drop_drop, List.take_append_drop, List.take_append_drop]

/-- An address without a dotted quad is read back. -/
theorem parseChars?_toGroupText (a : Ipv6) : parseChars? a.toGroupText.toList = some a := by
  obtain ⟨start, length, hzeros, hgroups⟩ := exists_gap a.groups.toList
  unfold toGroupText
  dsimp only
  rw [hzeros]
  dsimp only
  split
  · -- No run is long enough to be left out.
    have hnone : cutAtGap (writeGroups a.groups.toList).toList = none := by
      rw [toList_writeGroups]
      exact cutAtGap_eq_none of_mem_digits
    rw [parseChars?, hnone]
    dsimp only
    rw [side?_writeGroups]
    exact a.ofGroups?_groups
  · -- Only the groups of the gap are not written, and there are at least two of them.
    have hlength := congrArg List.length hgroups
    rw [a.groups.length_toList, List.length_append, List.length_append,
      List.length_replicate] at hlength
    generalize hhigh : a.groups.toList.take start = high at hgroups hlength ⊢
    generalize hlow : a.groups.toList.drop (start + length) = low at hgroups hlength ⊢
    have htext : (writeGroups high ++ "::" ++ writeGroups low).toList =
        (writeGroups high).toList ++ ':' :: ':' :: (writeGroups low).toList := by
      rw [String.toList_append, String.toList_append, List.append_assoc]
      rfl
    have hcut : cutAtGap ((writeGroups high).toList ++ ':' :: ':' :: (writeGroups low).toList) =
        some ((writeGroups high).toList, (writeGroups low).toList) := by
      rw [toList_writeGroups high]
      exact cutAtGap_between of_mem_digits _
    have hknown : high.length + low.length ≤ 7 := by omega
    have hgap : 8 - (high.length + low.length) = length := by omega
    rw [htext, parseChars?, hcut]
    dsimp only
    rw [side?_writeGroups, side?_writeGroups]
    show (if high.length + low.length ≤ 7 then ofGroups? (high ++
      List.replicate (8 - (high.length + low.length)) 0 ++ low) else none) = some a
    rw [if_pos hknown, hgap, ← hgroups]
    exact a.ofGroups?_groups

/-! #### Mapped addresses -/

/-- A group is made up of its two octets. -/
theorem group_eq_octets (g : UInt16) :
    (g >>> 8).toUInt8.toUInt16 * (256 : UInt16) + g.toUInt8.toUInt16 = g := by
  apply UInt16.toNat_inj.mp
  have hlt := g.toNat_lt
  simp only [UInt16.toNat_add, UInt16.toNat_mul, UInt8.toNat_toUInt16, UInt16.toNat_toUInt8,
    UInt16.toNat_shiftRight, Nat.shiftRight_eq_div_pow]
  have h8 : (8 : UInt16).toNat % 16 = 8 := rfl
  have h256 : (256 : UInt16).toNat = 256 := rfl
  rw [h8, h256]
  omega

/-- An address that maps an IPv4 address is given by it. -/
theorem groups_of_mapped? {a : Ipv6} {v4 : Ipv4} (h : a.mapped? = some v4) :
    a.groups.toList = List.replicate 5 (0 : UInt16) ++ 0xFFFF :: quadGroups v4 := by
  unfold mapped? at h
  split at h
  · rename_i hfront
    rw [← Option.some.inj h]
    obtain ⟨⟨⟨groups⟩, hsize⟩⟩ := a
    match groups, hsize with
    | [g₀, g₁, g₂, g₃, g₄, g₅, high, low], _ =>
      have hsix : [g₀, g₁, g₂, g₃, g₄, g₅] = [0, 0, 0, 0, 0, 0xFFFF] := hfront
      show [g₀, g₁, g₂, g₃, g₄, g₅] ++ [high, low] = [(0 : UInt16), 0, 0, 0, 0, 0xFFFF] ++
        [(high >>> 8).toUInt8.toUInt16 * (256 : UInt16) + high.toUInt8.toUInt16,
          (low >>> 8).toUInt8.toUInt16 * (256 : UInt16) + low.toUInt8.toUInt16]
      rw [group_eq_octets, group_eq_octets, hsix]
  · exact absurd h.symm (Option.some_ne_none v4)

/-- A dotted quad is read behind the group in front of it. -/
theorem groupsOf?_mapped (v4 : Ipv4) :
    groupsOf? true ["ffff".toList, v4.toString.toList] = some (0xFFFF :: quadGroups v4) := by
  have hgroup : group? v4.toString.toList = none := by
    rw [← Option.not_isSome_iff_eq_none, group?_isSome_iff]
    exact not_isGroup_of_isQuad v4.isQuad_toString
  have hlast : groupsOf? true [v4.toString.toList] = some (quadGroups v4) := by
    rw [groupsOf?, hgroup]
    dsimp only
    rw [if_pos rfl, v4.parseChars?_toString]
    rfl
  have hstep : groupsOf? true ["ffff".toList, v4.toString.toList] =
      (group? "ffff".toList).bind fun g =>
        (groupsOf? true [v4.toString.toList]).bind fun gs => some (g :: gs) := rfl
  have hffff : group? "ffff".toList = some 0xFFFF := by decide
  rw [hstep, hlast, hffff]
  rfl

/-- An address with a dotted quad is read back. -/
theorem parseChars?_mapped {a : Ipv6} {v4 : Ipv4} (h : a.mapped? = some v4) :
    parseChars? ("::ffff:" ++ v4.toString).toList = some a := by
  have hpieces : ∀ cs ∈ ["ffff".toList, v4.toString.toList], cs ≠ [] ∧ ':' ∉ cs := by
    have hquad := of_isQuad v4.isQuad_toString
    simp only [List.forall_mem_cons]
    exact ⟨by decide, ⟨List.ne_nil_of_mem hquad.1, hquad.2⟩, List.forall_mem_nil _⟩
  have htext : ("::ffff:" ++ v4.toString).toList =
      ':' :: ':' :: [':'].intercalate ["ffff".toList, v4.toString.toList] := by
    rw [String.toList_append, List.intercalate_cons_cons, List.intercalate_singleton]
    rfl
  have hcut (after : List Char) : cutAtGap (':' :: ':' :: after) = some ([], after) := rfl
  rw [htext, parseChars?, hcut]
  dsimp only
  rw [side?_intercalate hpieces, groupsOf?_mapped]
  show ofGroups? (List.replicate 5 0 ++ 0xFFFF :: quadGroups v4) = some a
  rw [← groups_of_mapped? h]
  exact a.ofGroups?_groups

/-- There is a colon in every IPv6 address. -/
theorem colon_mem_of_isIpv6Literal {cs : List Char} (h : IsIpv6Literal cs) : ':' ∈ cs := by
  rcases h with ⟨pieces, hside, rfl⟩ | ⟨m, n, high, low, _, _, _, rfl⟩
  · have htwo : 2 ≤ pieces.length := by
      rcases hside with ⟨hlength, _⟩ | ⟨_, groups, last, rfl, hlength, _⟩
      · omega
      · rw [List.length_append, List.length_singleton]
        omega
    match pieces, htwo with
    | piece :: next :: rest, _ =>
      rw [List.intercalate_cons_cons]
      simp
  · simp

theorem parseChars?_toString (a : Ipv6) : parseChars? a.toString.toList = some a := by
  unfold toString
  split
  · rename_i hmapped
    exact parseChars?_mapped hmapped
  · exact a.parseChars?_toGroupText

end Ipv6

/-! ### Either family -/

namespace Ip

/-- **Texts of addresses are read back.** -/
theorem parse?_toString (a : Ip) : parse? a.toString = some a := by
  cases a with
  | v4 a =>
    have hquad : Ipv4.parse? a.toString = some a := a.parseChars?_toString
    show parse? a.toString = _
    rw [parse?, hquad]
  | v6 a =>
    have hliteral : Ipv6.parse? a.toString = some a := a.parseChars?_toString
    have hcolon : ':' ∈ a.toString.toList := Ipv6.colon_mem_of_isIpv6Literal
      (Ipv6.parse?_isSome_iff.mp (Option.isSome_of_eq_some hliteral))
    have hquad : Ipv4.parse? a.toString = none := by
      rw [← Option.not_isSome_iff_eq_none, Ipv4.parse?_isSome_iff]
      exact fun h => (Ipv6.of_isQuad h).2 hcolon
    show parse? a.toString = _
    rw [parse?, hquad]
    dsimp only
    rw [hliteral]
    rfl

/-- Different addresses have different texts. -/
theorem toString_injective : Function.Injective Ip.toString := by
  intro a b h
  have hread := congrArg parse? h
  rw [parse?_toString, parse?_toString] at hread
  exact Option.some.inj hread

end Ip

end ZoneSync
