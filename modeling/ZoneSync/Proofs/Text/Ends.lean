import Mathlib.Data.List.DropRight
import Mathlib.Data.List.TakeWhile
import ZoneSync.Text.Strip

namespace ZoneSync.Text

/-!
# Laws of stripped texts

What is left of a text when the characters of a class are taken off its ends.

* `stripEnd_append_of_all`, `stripEnd_append_of_exists` — the end of two joined texts is that of the
  second, unless nothing of the second is left;
* `stripEnd_eq_self_iff`, `strip_eq_self_iff` — a text keeps all of its characters when the ones at
  its ends are not of the class;
* `strip_strip`, `length_strip_le` — stripping twice is stripping once, and never adds anything;
* `dropWhile_append_cons`, `takeWhile_append_cons`, `exists_stripEnd_append_cons` — a character that
  is not of the class keeps its two sides apart.
-/

variable {p : Char → Bool}

/-! ### The end -/

theorem stripEnd_eq_rdropWhile (p : Char → Bool) (cs : List Char) :
    stripEnd p cs = cs.rdropWhile p := rfl

/-- A second text of the class is stripped whole. -/
theorem stripEnd_append_of_all {xs ys : List Char} (h : ∀ c ∈ ys, p c = true) :
    stripEnd p (xs ++ ys) = stripEnd p xs := by
  have hrev : ∀ c ∈ ys.reverse, p c = true := fun c hc => h c (List.mem_reverse.mp hc)
  rw [stripEnd, stripEnd, List.reverse_append, List.dropWhile_append_of_pos hrev]

/-- A second text that is not all of the class stops the stripping. -/
theorem stripEnd_append_of_exists {xs ys : List Char} (h : ∃ c ∈ ys, p c = false) :
    stripEnd p (xs ++ ys) = xs ++ stripEnd p ys := by
  have hne : ¬ (ys.reverse.dropWhile p).isEmpty = true := by
    rw [List.isEmpty_iff, List.dropWhile_eq_nil_iff]
    intro hall
    obtain ⟨c, hc, hpc⟩ := h
    have := hall c (List.mem_reverse.mpr hc)
    rw [hpc] at this
    exact Bool.false_ne_true this
  rw [stripEnd, stripEnd, List.reverse_append, List.dropWhile_append, if_neg hne,
    List.reverse_append, List.reverse_reverse]

theorem stripEnd_eq_nil_iff {cs : List Char} : stripEnd p cs = [] ↔ ∀ c ∈ cs, p c = true :=
  List.rdropWhile_eq_nil_iff

/-- Nothing is stripped when the last character is not of the class. -/
theorem stripEnd_eq_self_iff {cs : List Char} :
    stripEnd p cs = cs ↔ ∀ c ∈ cs.getLast?, p c = false := by
  rw [stripEnd_eq_rdropWhile, List.rdropWhile_eq_self_iff]
  constructor
  · intro h c hc
    obtain ⟨hne, rfl⟩ := List.mem_getLast?_eq_getLast hc
    exact Bool.eq_false_iff.mpr (h hne)
  · intro h hne hp
    have := h _ (List.getLast?_eq_some_getLast hne)
    rw [this] at hp
    exact Bool.false_ne_true hp

/-- The last character that is left is not of the class. -/
theorem not_of_mem_getLast?_stripEnd {cs : List Char} {c : Char}
    (h : c ∈ (stripEnd p cs).getLast?) : p c = false :=
  stripEnd_eq_self_iff.mp (List.rdropWhile_idempotent p cs) c h

/-- A text is what is left of it, and characters of the class. -/
theorem exists_stripEnd_append (p : Char → Bool) (cs : List Char) :
    ∃ tail, cs = stripEnd p cs ++ tail ∧ ∀ c ∈ tail, p c = true := by
  refine ⟨(cs.reverse.takeWhile p).reverse, (stripEnd_append_takeWhile p cs).symm, ?_⟩
  intro c hc
  exact List.mem_takeWhile_imp (List.mem_reverse.mp hc)

/-! ### Both ends -/

theorem dropWhile_eq_self_iff {cs : List Char} :
    cs.dropWhile p = cs ↔ ∀ c ∈ cs.head?, p c = false := by
  cases cs with
  | nil => simp
  | cons c cs =>
    rw [List.dropWhile_eq_self_iff]
    simp

theorem length_stripEnd_le (p : Char → Bool) (cs : List Char) :
    (stripEnd p cs).length ≤ cs.length :=
  (List.rdropWhile_prefix p cs).length_le

/-- A text that gets no shorter keeps all of its characters. -/
theorem stripEnd_eq_self_of_length_le {cs : List Char} (h : cs.length ≤ (stripEnd p cs).length) :
    stripEnd p cs = cs :=
  (List.rdropWhile_prefix p cs).eq_of_length_le h

theorem length_strip_le (p : Char → Bool) (cs : List Char) : (strip p cs).length ≤ cs.length :=
  le_trans (length_stripEnd_le p _) (List.dropWhile_suffix p).length_le

/-- A text that gets no shorter keeps its start and its end. -/
theorem eq_self_of_length_strip {cs : List Char} (h : cs.length ≤ (strip p cs).length) :
    cs.dropWhile p = cs ∧ stripEnd p cs = cs := by
  have hle : (strip p cs).length ≤ (cs.dropWhile p).length := length_stripEnd_le p _
  have hfront : cs.dropWhile p = cs :=
    (List.dropWhile_suffix p).eq_of_length_le (by omega)
  rw [strip, hfront] at h
  exact ⟨hfront, stripEnd_eq_self_of_length_le h⟩

/-- Nothing is stripped when the first and the last character are not of the class. -/
theorem strip_eq_self_iff {cs : List Char} :
    strip p cs = cs ↔ (∀ c ∈ cs.head?, p c = false) ∧ ∀ c ∈ cs.getLast?, p c = false := by
  constructor
  · intro h
    obtain ⟨hfront, hback⟩ := eq_self_of_length_strip (Nat.le_of_eq (congrArg List.length h.symm))
    exact ⟨dropWhile_eq_self_iff.mp hfront, stripEnd_eq_self_iff.mp hback⟩
  · rintro ⟨hhead, hlast⟩
    rw [strip, dropWhile_eq_self_iff.mpr hhead, stripEnd_eq_self_iff.mpr hlast]

/-- The first character that is left is not of the class. -/
theorem not_of_mem_head?_strip {cs : List Char} {c : Char} (h : c ∈ (strip p cs).head?) :
    p c = false := by
  have hprefix : strip p cs <+: cs.dropWhile p := List.rdropWhile_prefix p _
  obtain ⟨tail, htail⟩ := hprefix
  have hc : c ∈ (cs.dropWhile p).head? := by
    rw [← htail, List.head?_append, Option.mem_def.mp h]
    rfl
  exact dropWhile_eq_self_iff.mp (List.dropWhile_idempotent p cs) c hc

/-- Stripping twice is stripping once. -/
theorem strip_strip (p : Char → Bool) (cs : List Char) : strip p (strip p cs) = strip p cs :=
  strip_eq_self_iff.mpr
    ⟨fun _ => not_of_mem_head?_strip, fun _ => not_of_mem_getLast?_stripEnd⟩

/-- The last character stays the last, as long as anything is left. -/
theorem getLast?_dropWhile {cs : List Char} (h : ∃ c ∈ cs, p c = false) :
    (cs.dropWhile p).getLast? = cs.getLast? := by
  have hne : cs.dropWhile p ≠ [] := by
    rw [Ne, List.dropWhile_eq_nil_iff]
    intro hall
    obtain ⟨c, hc, hpc⟩ := h
    exact Bool.false_ne_true (hpc.symm.trans (hall c hc))
  obtain ⟨front, hfront⟩ := List.dropWhile_suffix (l := cs) p
  conv_rhs => rw [← hfront]
  rw [List.getLast?_append_of_ne_nil _ hne]

/-- Of two joined texts only the start of the first is lost, when the end stops the stripping. -/
theorem strip_append {xs ys : List Char} (h : ∃ c ∈ xs, p c = false)
    (hlast : ∀ c ∈ (xs ++ ys).getLast?, p c = false) :
    strip p (xs ++ ys) = xs.dropWhile p ++ ys := by
  have hmem : ∃ c ∈ xs ++ ys, p c = false := by
    obtain ⟨c, hc, hpc⟩ := h
    exact ⟨c, List.mem_append_left _ hc, hpc⟩
  have hne : ¬ (xs.dropWhile p).isEmpty = true := by
    rw [List.isEmpty_iff, List.dropWhile_eq_nil_iff]
    intro hall
    obtain ⟨c, hc, hpc⟩ := h
    exact Bool.false_ne_true (hpc.symm.trans (hall c hc))
  have hdrop : (xs ++ ys).dropWhile p = xs.dropWhile p ++ ys := by
    rw [List.dropWhile_append, if_neg hne]
  rw [strip, stripEnd_eq_self_iff.mpr, hdrop]
  rw [getLast?_dropWhile hmem]
  exact hlast

/-- A second text of the class is stripped whole. -/
theorem strip_append_of_all {xs ys : List Char} (h : ∀ c ∈ ys, p c = true) :
    strip p (xs ++ ys) = strip p xs := by
  rw [strip, strip, List.dropWhile_append]
  by_cases hempty : (xs.dropWhile p).isEmpty = true
  · rw [if_pos hempty, List.isEmpty_iff.mp hempty, List.dropWhile_eq_nil_iff.mpr h]
  · rw [if_neg hempty, stripEnd_append_of_all h]

/-- What is stripped at the end first is no loss. -/
theorem strip_stripEnd (p : Char → Bool) (cs : List Char) :
    strip p (stripEnd p cs) = strip p cs := by
  obtain ⟨tail, hcs, htail⟩ := exists_stripEnd_append p cs
  conv_rhs => rw [hcs]
  rw [strip_append_of_all htail]

/-- A first character that is not of the class stays the first. -/
theorem mem_head?_strip {cs : List Char} {c : Char} (h : c ∈ cs.head?) (hc : p c = false) :
    c ∈ (strip p cs).head? := by
  obtain ⟨rest, rfl⟩ := List.head?_eq_some_iff.mp h
  have hfront : (c :: rest).dropWhile p = [c] ++ rest := by
    rw [List.dropWhile_cons_of_neg (by simp [hc])]
    rfl
  rw [strip, hfront]
  -- The rest may be stripped whole, but the first character stops the stripping.
  by_cases hrest : ∀ x ∈ rest, p x = true
  · have hself : stripEnd p [c] = [c] := by
      rw [stripEnd_eq_self_iff]
      intro x hx
      rw [← Option.some.inj hx]
      exact hc
    rw [stripEnd_append_of_all hrest, hself]
    rfl
  · simp only [not_forall, Bool.not_eq_true] at hrest
    obtain ⟨x, hx, hpx⟩ := hrest
    rw [stripEnd_append_of_exists ⟨x, hx, hpx⟩]
    rfl

/-- A last character that is not of the class stays the last. -/
theorem mem_getLast?_strip {cs : List Char} {c : Char} (h : c ∈ cs.getLast?) (hc : p c = false) :
    c ∈ (strip p cs).getLast? := by
  have hlast : (cs.dropWhile p).getLast? = cs.getLast? :=
    getLast?_dropWhile ⟨c, List.mem_of_getLast? h, hc⟩
  rw [strip, stripEnd_eq_self_iff.mpr, hlast]
  · exact h
  · intro x hx
    rw [hlast] at hx
    rw [Option.mem_unique hx h]
    exact hc

/-! ### A character between two texts -/

section Between

variable {c : Char} (hc : p c = false) (xs ys : List Char)
include hc

theorem dropWhile_append_cons : (xs ++ c :: ys).dropWhile p = xs.dropWhile p ++ c :: ys := by
  rw [List.dropWhile_append]
  split
  · rename_i hnil
    rw [List.isEmpty_iff.mp hnil, List.dropWhile_cons_of_neg (by simp [hc])]
    rfl
  · rfl

theorem takeWhile_append_cons : (xs ++ c :: ys).takeWhile p = xs.takeWhile p := by
  rw [List.takeWhile_append]
  split
  · rename_i hall
    rw [List.takeWhile_cons_of_neg (by simp [hc]), List.append_nil]
    exact ((List.takeWhile_prefix p).eq_of_length hall).symm
  · rfl

theorem exists_stripEnd_append_cons : ∃ zs, stripEnd p (xs ++ c :: ys) = xs ++ c :: zs := by
  have hkept : ∃ zs, stripEnd p ([c] ++ ys) = [c] ++ zs := by
    by_cases hys : ∃ y ∈ ys, p y = false
    · exact ⟨_, stripEnd_append_of_exists hys⟩
    · have hall : ∀ y ∈ ys, p y = true := by
        intro y hy
        rw [← Bool.not_eq_false]
        exact fun hpy => hys ⟨y, hy, hpy⟩
      exact ⟨[], (stripEnd_append_of_all hall).trans (stripEnd_eq_self_iff.mpr (by simpa using hc))⟩
  obtain ⟨zs, hzs⟩ := hkept
  exact ⟨zs, (stripEnd_append_of_exists ⟨c, List.mem_cons_self, hc⟩).trans (congrArg _ hzs)⟩

end Between

end ZoneSync.Text
