import ZoneSync.Text.Strip

namespace ZoneSync.Text

/-!
# Pieces of texts

* `splitOn_eq` — texts are split as core splits lists;
* `intercalate_splitOn`, `splitOn_intercalate` — a text is its pieces with separators between them,
  and pieces without separators are found again;
* `splitOn_append_cons`, `intercalate_append` — pieces before and behind a separator;
* `splitOn_suffix_iff` — the last pieces of a text.
-/

theorem splitOn_eq (sep : Char) (cs : List Char) : splitOn sep cs = cs.splitOn sep := by
  induction cs with
  | nil => rw [splitOn_nil, List.splitOn_nil]
  | cons c rest ih =>
    rw [splitOn, List.splitOn_cons_eq_if_modifyHead, ih]
    by_cases hc : c = sep
    · rw [if_pos hc, if_pos (beq_iff_eq.mpr hc)]
    · rw [if_neg hc, if_neg (fun h => hc (beq_iff_eq.mp h))]
      cases hrest : rest.splitOn sep with
      | nil => exact absurd hrest (List.splitOn_ne_nil sep rest)
      | cons piece pieces => rfl

/-- A text is its pieces with separators between them. -/
theorem intercalate_splitOn (sep : Char) (cs : List Char) :
    [sep].intercalate (splitOn sep cs) = cs := by
  rw [splitOn_eq, List.intercalate_splitOn]

/-- Pieces without separators are found again. -/
theorem splitOn_intercalate {sep : Char} {pieces : List (List Char)}
    (h : ∀ piece ∈ pieces, sep ∉ piece) (hne : pieces ≠ []) :
    splitOn sep ([sep].intercalate pieces) = pieces := by
  rw [splitOn_eq, List.splitOn_intercalate sep h hne]

/-- The pieces on the two sides of a separator. -/
theorem splitOn_append_cons (sep : Char) (xs ys : List Char) :
    splitOn sep (xs ++ sep :: ys) = splitOn sep xs ++ splitOn sep ys := by
  simp only [splitOn_eq, List.splitOn_append_cons_self]

/-- Between the pieces of two texts stands one more separator. -/
theorem intercalate_append (sep : Char) {ps qs : List (List Char)} (hp : ps ≠ []) (hq : qs ≠ []) :
    [sep].intercalate (ps ++ qs) = [sep].intercalate ps ++ sep :: [sep].intercalate qs := by
  induction ps with
  | nil => exact absurd rfl hp
  | cons p rest ih =>
    by_cases hrest : rest = []
    · subst hrest
      rw [List.singleton_append, List.intercalate_cons_of_ne_nil hq, List.intercalate_singleton,
        List.append_assoc, List.singleton_append]
    · have hboth : rest ++ qs ≠ [] := List.append_ne_nil_of_left_ne_nil hrest qs
      rw [List.cons_append, List.intercalate_cons_of_ne_nil hboth,
        List.intercalate_cons_of_ne_nil hrest, ih hrest]
      simp only [List.append_assoc]

/-- The pieces of a text are the last ones of another exactly if it is the other text or stands
    behind a separator at its end. -/
theorem splitOn_suffix_iff {sep : Char} {cs ds : List Char} :
    splitOn sep ds <:+ splitOn sep cs ↔ cs = ds ∨ sep :: ds <:+ cs := by
  constructor
  · rintro ⟨front, hfront⟩
    have hcs := intercalate_splitOn sep cs
    rw [← hfront] at hcs
    by_cases hnil : front = []
    · left
      rw [hnil, List.nil_append, intercalate_splitOn] at hcs
      exact hcs.symm
    · right
      rw [intercalate_append sep hnil (splitOn_ne_nil sep ds), intercalate_splitOn] at hcs
      exact ⟨_, hcs⟩
  · rintro (rfl | ⟨front, rfl⟩)
    · exact List.suffix_rfl
    · rw [splitOn_append_cons]
      exact List.suffix_append _ _

end ZoneSync.Text
