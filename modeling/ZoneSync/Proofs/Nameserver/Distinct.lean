import Mathlib.Data.List.Destutter
import Mathlib.Data.List.Lex
import Mathlib.Data.List.Sort
import ZoneSync.Proofs.Nameserver.Queries

namespace ZoneSync

/-!
# How many nameservers are different

A configuration counts its addresses and a verifier counts the names of its resolvers. Both count
what is different, so that they find the same configurations too short.

* `Ip.arranged`, `Ip.length_arranged` — addresses in order, each once, are as many as are different;
* `tooFewAddresses`, `VerifierConfig.check_eq_tooFewAddresses_iff` — the configurations whose
  addresses are too few;
* `Verifier.of_eq_error_iff` — the resolvers that have no verifier;
* `Nameserver.counted_alike` — both are found together, with one number.
-/

/-! ### Addresses in order -/

namespace Ip

/-- What addresses are ordered by: the version of the protocol, then the octets or the groups. -/
def sortKey : Ip → List Nat
  | .v4 a => 4 :: a.octets.toList.map UInt8.toNat
  | .v6 a => 6 :: a.groups.toList.map UInt16.toNat

/-- Addresses in order, with those left out that stand behind an equal one. -/
def arranged (as : List Ip) : List Ip :=
  (as.mergeSort fun a b => a.sortKey ≤ b.sortKey).destutter (· ≠ ·)

theorem sortKey_injective : Function.Injective sortKey := by
  have hoctets : Function.Injective (List.map UInt8.toNat) :=
    List.map_injective_iff.mpr fun _ _ => UInt8.toNat_inj.mp
  have hgroups : Function.Injective (List.map UInt16.toNat) :=
    List.map_injective_iff.mpr fun _ _ => UInt16.toNat_inj.mp
  rintro (a | a) (b | b) h
  · have hsame : a.octets = b.octets := Vector.toList_inj.mp (hoctets (List.cons.inj h).2)
    exact congrArg (fun octets => Ip.v4 ⟨octets⟩) hsame
  -- An address of one family is no address of the other, even if it maps it.
  · exact absurd (List.cons.inj h).1 (by decide)
  · exact absurd (List.cons.inj h).1 (by decide)
  · have hsame : a.groups = b.groups := Vector.toList_inj.mp (hgroups (List.cons.inj h).2)
    exact congrArg (fun groups => Ip.v6 ⟨groups⟩) hsame

theorem pairwise_mergeSort_sortKey (as : List Ip) :
    (as.mergeSort fun a b => a.sortKey ≤ b.sortKey).Pairwise
      fun a b => a.sortKey ≤ b.sortKey := by
  have hsorted := @List.pairwise_mergeSort Ip (fun a b => decide (a.sortKey ≤ b.sortKey))
    (fun a b c hab hbc => by
      rw [decide_eq_true_eq] at hab hbc ⊢
      exact le_trans hab hbc)
    (fun a b => by
      rw [Bool.or_eq_true, decide_eq_true_eq, decide_eq_true_eq]
      exact le_total _ _)
    as
  exact hsorted.imp of_decide_eq_true

/-- Addresses in order, each once, are as many as are different. -/
theorem length_arranged (as : List Ip) : (arranged as).length = as.toFinset.card := by
  -- In order, equal addresses stand side by side.
  have hantisymm : Std.Antisymm fun a b : Ip => a.sortKey ≤ b.sortKey :=
    ⟨fun _ _ hab hba => sortKey_injective (le_antisymm hab hba)⟩
  rw [arranged, (pairwise_mergeSort_sortKey as).destutter_eq_dedup,
    (List.mergeSort_perm as _).dedup.length_eq, List.card_toFinset]

end Ip

/-! ### Too few of them -/

/-- The fault of a configuration with too few addresses. -/
def tooFewAddresses (n : Nat) : Error :=
  .config ("At least " ++ Nat.repr minResolvers ++ " distinct resolvers are required, got " ++
    Nat.repr n)

theorem tooFewAddresses_injective : Function.Injective tooFewAddresses := fun _ _ h =>
  Text.repr_injective ((String.append_right_inj _).mp (Error.config.inj h))

theorem VerifierConfig.check_eq_tooFewAddresses_iff {c : VerifierConfig} {n : Nat} :
    c.check = .error (tooFewAddresses n) ↔
      c.distinctResolvers < minResolvers ∧ n = c.distinctResolvers := by
  unfold check
  split
  · rename_i hfew
    constructor
    · intro h
      exact ⟨hfew, (tooFewAddresses_injective (Except.error.inj h)).symm⟩
    · rintro ⟨_, rfl⟩
      rfl
  · rename_i henough
    refine iff_of_false (fun h => ?_) (fun h => henough h.1)
    split at h
    · -- The fault of the time limit has another text.
      have htext := Error.config.inj (Except.error.inj h)
      have hfirst := congrArg (·.toList.head?) htext
      simp at hfirst
    · exact nomatch h

/-- Resolvers have no verifier when their names are too few. -/
theorem Verifier.of_eq_error_iff {m : Type → Type} {rs : List (Resolver m)} {delay : Nat}
    {pause : Nat → m Unit} {e : Error} :
    Verifier.of rs delay pause = .error e ↔
      distinctNames rs < minResolvers ∧ e = tooFewResolvers (distinctNames rs) := by
  unfold Verifier.of
  split
  · rename_i henough
    exact iff_of_false (by simp) fun h => absurd h.1 (Nat.not_lt.mpr henough)
  · rename_i hfew
    constructor
    · intro h
      exact ⟨Nat.lt_of_not_le hfew, (Except.error.inj h).symm⟩
    · rintro ⟨_, rfl⟩
      rfl

namespace Nameserver

variable {m : Type → Type} [Monad m]

/-- **A configuration and its verifier count alike.** There is one resolver for each address, in
    order, whose name is the text of the address. There are as many different names as different
    addresses, which is what is left of the addresses in order when each is kept once. A
    configuration that is in order has a verifier of its resolvers, and there is none exactly when
    the addresses of the configuration are found too few, with the same number. -/
theorem counted_alike (c : VerifierConfig) (network : Network m) (delay : Nat)
    (pause : Nat → m Unit) :
    (resolvers c network).map (fun r => Ip.parse? r.name) = c.resolvers.map some ∧
      c.distinctResolvers = (Ip.arranged c.resolvers).length ∧
      distinctNames (resolvers c network) = (Ip.arranged c.resolvers).length ∧
      (c.check = .ok () → ∃ v, Verifier.of (resolvers c network) delay pause = .ok v ∧
        v.resolvers = resolvers c network) ∧
      ∀ e, Verifier.of (resolvers c network) delay pause = .error e ↔
        ∃ n, e = tooFewResolvers n ∧ c.check = .error (tooFewAddresses n) := by
  have hnames := distinctNames_resolvers c network
  refine ⟨?_, ?_, ?_, ?_, ?_⟩
  · have hmap := congrArg (List.map Ip.parse?) (map_name_resolvers c network)
    rw [List.map_map, List.map_map] at hmap
    exact hmap.trans (List.map_congr_left fun a _ => a.parse?_toString)
  · rw [distinctResolvers_eq, Ip.length_arranged]
  · rw [hnames, distinctResolvers_eq, Ip.length_arranged]
  · intro hcheck
    obtain ⟨v, hv⟩ := exists_verifier c network hcheck delay pause
    exact ⟨v, hv, Verifier.resolvers_of hv⟩
  · intro e
    rw [Verifier.of_eq_error_iff, hnames]
    constructor
    · rintro ⟨hfew, rfl⟩
      exact ⟨_, rfl, VerifierConfig.check_eq_tooFewAddresses_iff.mpr ⟨hfew, rfl⟩⟩
    · rintro ⟨n, rfl, hcheck⟩
      obtain ⟨hfew, rfl⟩ := VerifierConfig.check_eq_tooFewAddresses_iff.mp hcheck
      exact ⟨hfew, rfl⟩

/-- One IPv4 address, the two IPv6 addresses that write it at their end, and one of them again. -/
def mappedConfig : VerifierConfig where
  resolvers :=
    let mapped : Ip := .v6 ⟨#v[0, 0, 0, 0, 0, 0xFFFF, 0x0102, 0x0304]⟩
    [mapped, .v4 ⟨#v[1, 2, 3, 4]⟩, .v6 ⟨#v[0, 0, 0, 0, 0, 0, 0x0102, 0x0304]⟩, mapped]

/-- The three of them are different nameservers. -/
theorem counted_alike_mappedConfig :
    mappedConfig.check = .ok () ∧
      ∃ v, Verifier.of (m := Id) (resolvers mappedConfig fun _ _ _ => .ok []) 0 (fun _ => ())
          = .ok v ∧
        v.names = ["::ffff:1.2.3.4", "1.2.3.4", "::102:304", "::ffff:1.2.3.4"] := by
  have hcheck : mappedConfig.check = .ok () := by decide +kernel
  obtain ⟨v, hv, hresolvers⟩ :=
    (counted_alike (m := Id) mappedConfig (fun _ _ _ => .ok []) 0 fun _ => ()).2.2.2.1 hcheck
  refine ⟨hcheck, v, hv, ?_⟩
  rw [Verifier.names, hresolvers]
  decide +kernel

end Nameserver

end ZoneSync
