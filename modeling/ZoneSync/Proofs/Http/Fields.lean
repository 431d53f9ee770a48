import Mathlib.Data.List.Intervals
import ZoneSync.Proofs.Http.Sendable

namespace ZoneSync.Http

/-!
# Fields of queries

The fields that are put into an address stand behind its own query. In a form neither their keys nor
their values hold a separator, so that the last one can be read off.

* `isSeparator_of_mem_formEncode` — a form holds no separators;
* `Url.lastKey?`, `Request.lastKey?_url` — the key of the last field of a query.
-/

/-- The separators of fields, and of keys and values. -/
def isSeparator (c : Char) : Bool := c = '&' || c = '='

/-- No hexadecimal digit is a separator. -/
theorem isSeparator_upperHexDigit (n : UInt8) : isSeparator (upperHexDigit n) = false := by
  have hall : ∀ k : Fin 256, isSeparator (upperHexDigit (UInt8.ofNat k)) = false := by
    decide +kernel
  simpa using hall ⟨n.toNat, n.toNat_lt⟩

/-- A form holds no separators. -/
theorem isSeparator_of_mem_formEncode {cs : List Char} {c : Char} (h : c ∈ formEncode cs) :
    isSeparator c = false := by
  obtain ⟨d, _, hc⟩ := List.mem_flatMap.mp h
  split at hc
  · rename_i hplain
    rw [List.mem_singleton.mp hc]
    by_contra hsep
    rw [Bool.not_eq_false, isSeparator, Bool.or_eq_true, decide_eq_true_eq, decide_eq_true_eq]
      at hsep
    rcases hsep with rfl | rfl <;> exact absurd hplain (by decide)
  · split at hc
    · rw [List.mem_singleton.mp hc]
      decide
    · obtain ⟨o, _, ho⟩ := List.mem_flatMap.mp hc
      simp only [percentOctet, List.mem_cons, List.not_mem_nil, or_false] at ho
      rcases ho with rfl | rfl | rfl
      · decide
      · exact isSeparator_upperHexDigit _
      · exact isSeparator_upperHexDigit _

/-- What stands behind the last separator of joined texts is the last of them. -/
theorem exists_intercalate_concat (sep : Char) (parts : List (List Char)) (last : List Char) :
    ∃ before, [sep].intercalate (parts ++ [last]) = before ++ last ∧
      (before = [] ∨ before.getLast? = some sep) := by
  induction parts with
  | nil => exact ⟨[], List.intercalate_singleton, .inl rfl⟩
  | cons part parts ih =>
    obtain ⟨before, hbefore, hend⟩ := ih
    refine ⟨part ++ [sep] ++ before, ?_, .inr ?_⟩
    · obtain ⟨next, rest, hrest⟩ := List.exists_cons_of_ne_nil
        (List.append_ne_nil_of_right_ne_nil parts (List.cons_ne_nil last []))
      rw [List.cons_append, hrest, List.intercalate_cons_cons, ← hrest, hbefore,
        ← List.append_assoc]
    · rcases hend with rfl | hend
      · simp
      · rw [List.getLast?_append, hend]
        rfl

namespace Url

/-- The key of the last field of a query. -/
def lastKey? (u : Url) : Option (List Char) :=
  u.query.map fun cs => ((cs.reverse.takeWhile (· ≠ '&')).reverse).takeWhile (· ≠ '=')

/-- The last field that is put into an address stands at the end of its query. -/
theorem exists_query_addQuery (u : Url) (fields : List (String × String)) (key value : String) :
    ∃ before, (u.addQuery (fields ++ [(key, value)])).query =
        some (before ++ (formEncode key.toList ++ '=' :: formEncode value.toList)) ∧
      (before = [] ∨ before.getLast? = some '&') := by
  unfold addQuery
  dsimp only
  rw [List.map_append, ← List.append_assoc]
  obtain ⟨before, hbefore, hend⟩ := exists_intercalate_concat '&' _ _
  refine ⟨before, ?_, hend⟩
  split
  · rename_i hnil
    exact absurd hnil (List.append_ne_nil_of_right_ne_nil _ (List.cons_ne_nil _ _))
  · rw [← hbefore]
    rfl

/-- The last field that is put into an address is the last one of its query. -/
theorem lastKey?_addQuery (u : Url) (fields : List (String × String)) (key value : String) :
    (u.addQuery (fields ++ [(key, value)])).lastKey? = some (formEncode key.toList) := by
  obtain ⟨before, hquery, hbefore⟩ := exists_query_addQuery u fields key value
  have hkey : ∀ c ∈ formEncode key.toList, decide (c ≠ '=') = true := by
    rintro c hc
    refine decide_eq_true fun heq => ?_
    exact absurd (heq ▸ isSeparator_of_mem_formEncode hc) (by decide)
  -- Behind the last separator of fields stands the whole of the last field.
  have hfield : ∀ c ∈ (formEncode key.toList ++ '=' :: formEncode value.toList).reverse,
      decide (c ≠ '&') = true := by
    intro c hc
    refine decide_eq_true fun heq => ?_
    subst heq
    rcases List.mem_append.mp (List.mem_reverse.mp hc) with hc | hc
    · exact absurd (isSeparator_of_mem_formEncode hc) (by decide)
    · rcases List.mem_cons.mp hc with heq | hc
      · exact absurd heq (by decide)
      · exact absurd (isSeparator_of_mem_formEncode hc) (by decide)
  have hfront : before.reverse.takeWhile (· ≠ '&') = [] := by
    rcases hbefore with rfl | hlast
    · rfl
    · rw [← List.head?_reverse] at hlast
      obtain ⟨rest, hrest⟩ := List.head?_eq_some_iff.mp hlast
      rw [hrest]
      rfl
  rw [lastKey?, hquery, Option.map_some, List.reverse_append,
    List.takeWhile_append_of_pos hfield, hfront, List.append_nil, List.reverse_reverse,
    List.takeWhile_append_of_pos hkey]
  simp

end Url

/-- The last field that is put into a request can be told by its key. -/
theorem Request.lastKey?_url {method : Method} {address key value token : String}
    (fields : List (String × String)) {body : Option Json} {q : Request}
    (h : Request.of method address (fields ++ [(key, value)]) token body = .ok q) :
    q.url.lastKey? = some (formEncode key.toList) := by
  obtain ⟨url, _, _, _, rfl⟩ := Request.of_eq_ok_iff.mp h
  exact url.lastKey?_addQuery fields key value

end ZoneSync.Http
