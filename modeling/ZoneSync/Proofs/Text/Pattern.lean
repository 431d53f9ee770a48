import Mathlib.Computability.Language

namespace ZoneSync

open Computability

/-!
# Patterns of characters

A pattern is the language of the texts that have a form, put together from the languages of single
characters.

* `Pattern.char`, `Pattern.range`, `Pattern.many`, `Pattern.upTo` — a character, a range of them,
  one or more of a kind, and up to a number of them;
* `Pattern.IsClass` — the patterns of one character from a class, and what repeating one gives.
-/

namespace Pattern

/-- The given character. -/
def char (c : Char) : Language Char := {cs | cs = [c]}

/-- A character within bounds. -/
def range (first last : Char) : Language Char := {cs | ∃ c, (first ≤ c ∧ c ≤ last) ∧ cs = [c]}

/-- One or more texts of a form. -/
def many (L : Language Char) : Language Char := L * L∗

/-- At most `n` texts of a form. -/
def upTo (n : Nat) (L : Language Char) : Language Char := (1 + L) ^ n

/-- A pattern of one character from a class. -/
def IsClass (L : Language Char) (p : Char → Bool) : Prop :=
  ∀ cs, cs ∈ L ↔ ∃ c, p c = true ∧ cs = [c]

/-! ### Classes -/

theorem isClass_char (c : Char) : IsClass (char c) (· = c) := by
  intro cs
  constructor
  · exact fun h => ⟨c, decide_eq_true rfl, h⟩
  · rintro ⟨c', hc, rfl⟩
    exact congrArg (fun x => [x]) (of_decide_eq_true hc)

theorem isClass_range (first last : Char) :
    IsClass (range first last) (fun c => first ≤ c && c ≤ last) := by
  intro cs
  refine exists_congr fun c => and_congr_left fun _ => ?_
  rw [Bool.and_eq_true, decide_eq_true_eq, decide_eq_true_eq]

variable {L M : Language Char} {p q : Char → Bool}

theorem IsClass.add (hL : IsClass L p) (hM : IsClass M q) :
    IsClass (L + M) (fun c => p c || q c) := by
  intro cs
  rw [Language.mem_add, hL cs, hM cs, ← exists_or]
  refine exists_congr fun c => ?_
  rw [← or_and_right, Bool.or_eq_true]

/-- A class may be given by other conditions on its characters. -/
theorem IsClass.congr (hL : IsClass L p) (h : ∀ c, p c = q c) : IsClass L q :=
  (funext h : p = q) ▸ hL

theorem IsClass.singleton_mem_iff (hL : IsClass L p) {c : Char} : [c] ∈ L ↔ p c = true := by
  rw [hL [c]]
  constructor
  · rintro ⟨c', hc, heq⟩
    rw [(List.cons.inj heq).1]
    exact hc
  · exact fun hc => ⟨c, hc, rfl⟩

/-! ### Repetition -/

/-- Any number of characters from a class. -/
theorem IsClass.mem_kstar_iff (hL : IsClass L p) {cs : List Char} :
    cs ∈ L∗ ↔ ∀ c ∈ cs, p c = true := by
  rw [Language.mem_kstar]
  constructor
  · rintro ⟨pieces, rfl, hpieces⟩ c hc
    obtain ⟨piece, hpiece, hcp⟩ := List.mem_flatten.mp hc
    obtain ⟨c', hc', rfl⟩ := (hL piece).mp (hpieces piece hpiece)
    rw [List.mem_singleton.mp hcp]
    exact hc'
  · intro h
    refine ⟨cs.map fun c => [c], (List.flatMap_singleton' cs).symm, fun piece hpiece => ?_⟩
    obtain ⟨c, hc, rfl⟩ := List.mem_map.mp hpiece
    exact hL.singleton_mem_iff.mpr (h c hc)

/-- One or more characters from a class. -/
theorem IsClass.mem_many_iff (hL : IsClass L p) {cs : List Char} :
    cs ∈ many L ↔ cs ≠ [] ∧ ∀ c ∈ cs, p c = true := by
  rw [many, Language.mem_mul]
  constructor
  · rintro ⟨first, hfirst, rest, hrest, rfl⟩
    obtain ⟨c, hc, rfl⟩ := (hL first).mp hfirst
    exact ⟨List.cons_ne_nil c rest, List.forall_mem_cons.mpr ⟨hc, hL.mem_kstar_iff.mp hrest⟩⟩
  · rintro ⟨hne, hall⟩
    obtain ⟨c, rest, rfl⟩ := List.exists_cons_of_ne_nil hne
    obtain ⟨hc, hrest⟩ := List.forall_mem_cons.mp hall
    exact ⟨[c], hL.singleton_mem_iff.mpr hc, rest, hL.mem_kstar_iff.mpr hrest, rfl⟩

/-- At most `n` characters from a class. -/
theorem IsClass.mem_upTo_iff (hL : IsClass L p) {n : Nat} {cs : List Char} :
    cs ∈ upTo n L ↔ cs.length ≤ n ∧ ∀ c ∈ cs, p c = true := by
  induction n generalizing cs with
  | zero =>
    rw [upTo, pow_zero, Language.mem_one, Nat.le_zero, List.length_eq_zero_iff]
    constructor
    · rintro rfl
      exact ⟨rfl, fun c hc => absurd hc List.not_mem_nil⟩
    · exact fun h => h.1
  | succ n ih =>
    rw [upTo, pow_succ', ← upTo, Language.mem_mul]
    constructor
    · rintro ⟨first, hfirst, rest, hrest, rfl⟩
      obtain ⟨hlength, hall⟩ := ih.mp hrest
      rcases (Language.mem_add 1 L first).mp hfirst with hnone | hone
      · rw [(Language.mem_one first).mp hnone]
        exact ⟨Nat.le_succ_of_le hlength, hall⟩
      · obtain ⟨c, hc, rfl⟩ := (hL first).mp hone
        exact ⟨Nat.succ_le_succ hlength, List.forall_mem_cons.mpr ⟨hc, hall⟩⟩
    · rintro ⟨hlength, hall⟩
      -- The first place takes the first character, or nothing when there is none.
      cases cs with
      | nil =>
        exact ⟨[], .inl rfl, [], ih.mpr ⟨Nat.zero_le n, fun c hc => absurd hc List.not_mem_nil⟩,
          rfl⟩
      | cons c rest =>
        obtain ⟨hc, hrest⟩ := List.forall_mem_cons.mp hall
        exact ⟨[c], .inr (hL.singleton_mem_iff.mpr hc), rest,
          ih.mpr ⟨Nat.le_of_succ_le_succ hlength, hrest⟩, rfl⟩

end Pattern

end ZoneSync
