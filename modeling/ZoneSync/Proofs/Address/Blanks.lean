import Mathlib.Data.List.Basic
import ZoneSync.Address.Ipv6
import ZoneSync.Proofs.Text.Ends
import ZoneSync.Proofs.Text.Numbers

namespace ZoneSync

open Text

/-!
# Addresses have no white space

A text that is read as an address holds digits, colons and dots only, so that nothing is lost when
it is trimmed.

* `IsSolid` — texts without white space;
* `isSolid_of_splitOn` — a text is one when its pieces are;
* `Ipv4.isSolid_of_parseChars?`, `Ipv6.isSolid_of_parseChars?` — addresses;
* `Ipv6.trim_eq_self` — an address is trimmed already.
-/

/-- Whether none of some characters is white space. -/
def IsSolid (cs : List Char) : Prop := ∀ c ∈ cs, isBlank c = false

theorem isSolid_nil : IsSolid [] := fun _ hc => absurd hc List.not_mem_nil

theorem isSolid_cons {c : Char} {cs : List Char} (hc : isBlank c = false) (hcs : IsSolid cs) :
    IsSolid (c :: cs) :=
  List.forall_mem_cons.mpr ⟨hc, hcs⟩

theorem IsSolid.append {xs ys : List Char} (hxs : IsSolid xs) (hys : IsSolid ys) :
    IsSolid (xs ++ ys) :=
  List.forall_mem_append.mpr ⟨hxs, hys⟩

theorem IsSolid.trim_eq_self {text : String} (h : IsSolid text.toList) : trim text = text := by
  have hstrip : strip isBlank text.toList = text.toList :=
    strip_eq_self_iff.mpr ⟨fun c hc => h c (List.mem_of_mem_head? hc),
      fun c hc => h c (List.mem_of_getLast? hc)⟩
  rw [trim, hstrip, String.ofList_toList]

/-! ### Digits and pieces -/

theorem isBlank_of_digitValue? {base d : Nat} {c : Char} (h : digitValue? base c = some d) :
    isBlank c = false := by
  unfold digitValue? at h
  dsimp only at h
  have hsome := (Option.filter_eq_some_iff.mp h).1
  split at hsome
  · apply isBlank_eq_false <;> omega
  · split at hsome
    · apply isBlank_eq_false <;> omega
    · split at hsome
      · apply isBlank_eq_false <;> omega
      · exact nomatch hsome

theorem isSolid_of_foldlM {base n m : Nat} {cs : List Char}
    (h : cs.foldlM (fun n c => (digitValue? base c).map (base * n + ·)) n = some m) :
    IsSolid cs := by
  induction cs generalizing n with
  | nil => exact isSolid_nil
  | cons c cs ih =>
    rw [List.foldlM_cons] at h
    obtain ⟨k, hk, hrest⟩ := Option.bind_eq_some_iff.mp h
    obtain ⟨d, hd, _⟩ := Option.map_eq_some_iff.mp hk
    exact isSolid_cons (isBlank_of_digitValue? hd) (ih hrest)

theorem isSolid_of_readDigits? {base n : Nat} {cs : List Char}
    (h : readDigits? base cs = some n) : IsSolid cs :=
  isSolid_of_foldlM h

/-- A text is solid when its pieces are, and what stands between them. -/
theorem isSolid_of_splitOn {sep : Char} (hsep : isBlank sep = false) {cs : List Char}
    (h : ∀ piece ∈ splitOn sep cs, IsSolid piece) : IsSolid cs := by
  induction cs with
  | nil => exact isSolid_nil
  | cons c cs ih =>
    unfold splitOn at h
    by_cases hc : c = sep
    · rw [if_pos hc] at h
      exact isSolid_cons (hc ▸ hsep) (ih fun piece hp => h piece (List.mem_cons_of_mem _ hp))
    · rw [if_neg hc] at h
      -- The first piece of the rest is continued by the character.
      cases hsplit : splitOn sep cs with
      | nil => exact absurd hsplit (splitOn_ne_nil sep cs)
      | cons piece pieces =>
        rw [hsplit] at h ih
        have hfirst : IsSolid (c :: piece) := h _ List.mem_cons_self
        refine isSolid_cons (hfirst c List.mem_cons_self) (ih fun p hp => ?_)
        rcases List.mem_cons.mp hp with rfl | hp
        · exact fun c' hc' => hfirst c' (List.mem_cons_of_mem _ hc')
        · exact h p (List.mem_cons_of_mem _ hp)

/-- So it is when it is put together of them. -/
theorem isSolid_intercalate {sep : Char} (hsep : isBlank sep = false) {pieces : List (List Char)}
    (h : ∀ piece ∈ pieces, IsSolid piece) : IsSolid ([sep].intercalate pieces) := by
  induction pieces with
  | nil => exact isSolid_nil
  | cons piece rest ih =>
    obtain ⟨hpiece, hrest⟩ := List.forall_mem_cons.mp h
    cases rest with
    | nil =>
      rw [List.intercalate_singleton]
      exact hpiece
    | cons next rest =>
      rw [List.intercalate_cons_cons]
      exact (hpiece.append (isSolid_cons hsep isSolid_nil)).append (ih hrest)

/-! ### Addresses -/

namespace Ipv4

theorem isSolid_of_octet? {cs : List Char} {o : UInt8} (h : octet? cs = some o) : IsSolid cs := by
  unfold octet? at h
  split at h
  · exact isSolid_nil
  · split at h
    · exact nomatch h
    · split at h
      · rename_i hread
        exact isSolid_of_readDigits? hread
      · exact nomatch h

theorem isSolid_of_mapM {pieces : List (List Char)} {os : List UInt8}
    (h : pieces.mapM octet? = some os) : ∀ piece ∈ pieces, IsSolid piece := by
  induction pieces generalizing os with
  | nil => exact fun _ hp => absurd hp List.not_mem_nil
  | cons piece pieces ih =>
    rw [List.mapM_cons] at h
    obtain ⟨o, ho, hrest⟩ := Option.bind_eq_some_iff.mp h
    obtain ⟨os', hos, _⟩ := Option.bind_eq_some_iff.mp hrest
    exact List.forall_mem_cons.mpr ⟨isSolid_of_octet? ho, ih hos⟩

theorem isSolid_of_parseChars? {cs : List Char} {a : Ipv4} (h : parseChars? cs = some a) :
    IsSolid cs := by
  unfold parseChars? at h
  split at h
  · rename_i hpieces
    exact isSolid_of_splitOn (by decide) (isSolid_of_mapM hpieces)
  · exact nomatch h

end Ipv4

namespace Ipv6

theorem isSolid_of_group? {cs : List Char} {g : UInt16} (h : group? cs = some g) :
    IsSolid cs := by
  unfold group? at h
  split at h
  · exact nomatch h
  · obtain ⟨n, hn, _⟩ := Option.map_eq_some_iff.mp h
    exact isSolid_of_readDigits? hn

theorem isSolid_of_groupsOf? {quad : Bool} {pieces : List (List Char)} {gs : List UInt16}
    (h : groupsOf? quad pieces = some gs) : ∀ piece ∈ pieces, IsSolid piece := by
  induction pieces generalizing gs with
  | nil => exact fun _ hp => absurd hp List.not_mem_nil
  | cons piece pieces ih =>
    cases pieces with
    | nil =>
      rw [List.forall_mem_singleton]
      unfold groupsOf? at h
      split at h
      · rename_i hgroup
        exact isSolid_of_group? hgroup
      · split at h
        · obtain ⟨a, ha, _⟩ := Option.map_eq_some_iff.mp h
          exact Ipv4.isSolid_of_parseChars? ha
        · exact nomatch h
    | cons next rest =>
      unfold groupsOf? at h
      obtain ⟨g, hg, hrest⟩ := Option.bind_eq_some_iff.mp h
      obtain ⟨gs', hgs, _⟩ := Option.bind_eq_some_iff.mp hrest
      exact List.forall_mem_cons.mpr ⟨isSolid_of_group? hg, ih hgs⟩

theorem isSolid_of_side? {quad : Bool} {cs : List Char} {gs : List UInt16}
    (h : side? quad cs = some gs) : IsSolid cs := by
  unfold side? at h
  split at h
  · rename_i hempty
    rw [List.isEmpty_iff.mp hempty]
    exact isSolid_nil
  · exact isSolid_of_splitOn (by decide) (isSolid_of_groupsOf? h)

/-- A text is solid when the parts around its gap are. -/
theorem isSolid_of_cutAtGap {cs before after : List Char} (h : cutAtGap cs = some (before, after))
    (hbefore : IsSolid before) (hafter : IsSolid after) : IsSolid cs := by
  induction cs generalizing before with
  | nil => exact isSolid_nil
  | cons c cs ih =>
    -- The gap is here, or the character belongs to what stands before it.
    unfold cutAtGap at h
    split at h
    · rename_i rest heq
      rw [heq]
      obtain ⟨_, rfl⟩ := Prod.mk.inj (Option.some.inj h)
      exact isSolid_cons (by decide) (isSolid_cons (by decide) hafter)
    · rename_i heq
      obtain ⟨hc, hcs⟩ := List.cons.inj heq
      obtain ⟨⟨before', after'⟩, hcut, hpair⟩ := Option.map_eq_some_iff.mp h
      obtain ⟨rfl, rfl⟩ := Prod.mk.inj hpair
      rw [← hc] at hbefore
      refine isSolid_cons (hbefore c List.mem_cons_self) (ih (hcs ▸ hcut) ?_)
      exact fun c' hc' => hbefore c' (List.mem_cons_of_mem _ hc')
    · rename_i heq
      exact nomatch heq

theorem isSolid_of_parseChars? {cs : List Char} {a : Ipv6} (h : parseChars? cs = some a) :
    IsSolid cs := by
  unfold parseChars? at h
  split at h
  · obtain ⟨gs, hgs, _⟩ := Option.bind_eq_some_iff.mp h
    exact isSolid_of_side? hgs
  · rename_i before after hcut
    obtain ⟨high, hhigh, hrest⟩ := Option.bind_eq_some_iff.mp h
    obtain ⟨low, hlow, _⟩ := Option.bind_eq_some_iff.mp hrest
    exact isSolid_of_cutAtGap hcut (isSolid_of_side? hhigh) (isSolid_of_side? hlow)

/-- An address is trimmed already. -/
theorem trim_eq_self {text : String} {a : Ipv6} (h : parse? text = some a) : trim text = text :=
  (isSolid_of_parseChars? h).trim_eq_self

end Ipv6

end ZoneSync
