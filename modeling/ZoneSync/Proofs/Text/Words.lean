import ZoneSync.Text.Blank

namespace ZoneSync.Text

/-!
# Words of texts

* `HasWords` — a text has certain words, in order, with white space around them;
* `wordsFrom_append_blank`, `wordsFrom_append_solid`, `wordsFrom_of_ne_nil` — what is done with the
  white space in front of a word, with the word, and at its end;
* `words_eq_iff` — the words that are read from a text are those that it has, and no others.
-/

/-- A text has these words: it is white space without any; or white space, a word, and a text with
    the others, which is empty or starts with white space. -/
inductive HasWords : List Char → List (List Char) → Prop
  | blank {cs : List Char} (blank : ∀ c ∈ cs, isBlank c = true) : HasWords cs []
  | word {gap word rest : List Char} {words : List (List Char)}
      (gap_blank : ∀ c ∈ gap, isBlank c = true) (ne_nil : word ≠ [])
      (solid : ∀ c ∈ word, isBlank c = false) (apart : ∀ c ∈ rest.head?, isBlank c = true)
      (next : HasWords rest words) : HasWords (gap ++ (word ++ rest)) (word :: words)

/-! ### Reading words -/

/-- White space in front of a word is passed over. -/
theorem wordsFrom_append_blank {gap : List Char} (h : ∀ c ∈ gap, isBlank c = true)
    (cs : List Char) : wordsFrom [] (gap ++ cs) = wordsFrom [] cs := by
  induction gap with
  | nil => rfl
  | cons c gap ih =>
    obtain ⟨hc, hgap⟩ := List.forall_mem_cons.mp h
    rw [List.cons_append, wordsFrom, if_pos hc, if_pos List.isEmpty_nil]
    exact ih hgap

/-- Other characters go on with the word under way. -/
theorem wordsFrom_append_solid {xs : List Char} (h : ∀ c ∈ xs, isBlank c = false)
    (word cs : List Char) : wordsFrom word (xs ++ cs) = wordsFrom (word ++ xs) cs := by
  induction xs generalizing word with
  | nil => rw [List.nil_append, List.append_nil]
  | cons x xs ih =>
    obtain ⟨hx, hxs⟩ := List.forall_mem_cons.mp h
    rw [List.cons_append, wordsFrom, if_neg (by rw [hx]; exact Bool.false_ne_true), ih hxs,
      List.append_assoc, List.singleton_append]

/-- A word ends with the text, or with white space. -/
theorem wordsFrom_of_ne_nil {word cs : List Char} (hne : word ≠ [])
    (hend : ∀ c ∈ cs.head?, isBlank c = true) :
    wordsFrom word cs = word :: wordsFrom [] cs := by
  have hempty : ¬ word.isEmpty = true := fun h => hne (List.isEmpty_iff.mp h)
  cases cs with
  | nil => rw [wordsFrom, if_neg hempty, wordsFrom, if_pos List.isEmpty_nil]
  | cons c cs =>
    have hc : isBlank c = true := hend c rfl
    rw [wordsFrom, if_pos hc, if_neg hempty, wordsFrom, if_pos hc, if_pos List.isEmpty_nil]

namespace HasWords

variable {cs : List Char} {words words' : List (List Char)}

/-- A word may be the first of a text. -/
theorem word_append {word rest : List Char} (hne : word ≠ [])
    (hsolid : ∀ c ∈ word, isBlank c = false) (hapart : ∀ c ∈ rest.head?, isBlank c = true)
    (h : HasWords rest words) :
    HasWords (word ++ rest) (word :: words) :=
  @HasWords.word [] word rest words (fun _ hc => absurd hc List.not_mem_nil) hne hsolid hapart h

/-- More white space in front changes no word. -/
theorem cons_blank {c : Char} (hc : isBlank c = true) (h : HasWords cs words) :
    HasWords (c :: cs) words := by
  cases h with
  | blank hcs => exact .blank (List.forall_mem_cons.mpr ⟨hc, hcs⟩)
  | word hgap hne hsolid hapart hnext =>
    exact .word (List.forall_mem_cons.mpr ⟨hc, hgap⟩) hne hsolid hapart hnext

theorem wordsFrom_eq (h : HasWords cs words) : wordsFrom [] cs = words := by
  induction h with
  | blank hcs =>
    have hread := wordsFrom_append_blank hcs []
    rwa [List.append_nil] at hread
  | word hgap hne hsolid hapart _ ih =>
    rw [wordsFrom_append_blank hgap, wordsFrom_append_solid hsolid, List.nil_append,
      wordsFrom_of_ne_nil hne hapart, ih]

/-- A text has one list of words. -/
theorem unique (h : HasWords cs words) (h' : HasWords cs words') : words = words' :=
  h.wordsFrom_eq.symm.trans h'.wordsFrom_eq

end HasWords

/-- What is read is what the word under way and the rest of the text have. -/
theorem hasWords_wordsFrom {word : List Char} (hsolid : ∀ c ∈ word, isBlank c = false)
    (cs : List Char) : HasWords (word ++ cs) (wordsFrom word cs) := by
  induction cs generalizing word with
  | nil =>
    rw [wordsFrom]
    split
    · rename_i hempty
      rw [List.isEmpty_iff.mp hempty]
      exact .blank fun c hc => absurd hc List.not_mem_nil
    · rename_i hne
      exact .word_append (fun h => hne (List.isEmpty_iff.mpr h)) hsolid (fun c hc => nomatch hc)
        (.blank fun c hc => absurd hc List.not_mem_nil)
  | cons c rest ih =>
    rw [wordsFrom]
    split
    · rename_i hc
      have hrest : HasWords (c :: rest) (wordsFrom [] rest) :=
        (@ih [] fun c hc => absurd hc List.not_mem_nil).cons_blank hc
      split
      · rename_i hempty
        rwa [List.isEmpty_iff.mp hempty]
      · rename_i hne
        refine .word_append (fun h => hne (List.isEmpty_iff.mpr h)) hsolid (fun x hx => ?_) hrest
        rwa [← Option.some.inj hx]
    · rename_i hc
      have hword : ∀ x ∈ word ++ [c], isBlank x = false :=
        List.forall_mem_append.mpr
          ⟨hsolid, List.forall_mem_singleton.mpr (Bool.not_eq_true _ ▸ hc)⟩
      have hread := ih hword
      rwa [List.append_assoc, List.singleton_append] at hread

/-- The words that are read from a text are those that it has. -/
theorem words_eq_iff {s : String} {words : List String} :
    Text.words s = words ↔ HasWords s.toList (words.map String.toList) := by
  have hread : HasWords s.toList (wordsFrom [] s.toList) :=
    hasWords_wordsFrom (fun c hc => absurd hc List.not_mem_nil) s.toList
  have hchars : ∀ ws : List (List Char), (ws.map String.ofList).map String.toList = ws := by
    intro ws
    rw [List.map_map]
    exact List.map_id'' (fun w => String.toList_ofList) ws
  constructor
  · rintro rfl
    rw [Text.words, hchars]
    exact hread
  · intro h
    rw [Text.words, hread.unique h, List.map_map]
    exact List.map_id'' (fun w => String.ofList_toList) words

end ZoneSync.Text
