import Mathlib.Data.List.TakeWhile
import ZoneSync.Document.Grammar
import ZoneSync.Proofs.Text.Pattern
import ZoneSync.Proofs.Text.Pieces

namespace ZoneSync

open Computability Text

/-!
# The forms of names

The recognisers of names accept exactly the texts of their patterns.

* `Pattern.domain`, `Pattern.host`, `Pattern.serviceName`, `Pattern.label` — the forms of domains,
  host names, names of services, and labels;
* `isDomainText_iff`, `isHostText_iff`, `isServiceName_iff`, `isLabel_iff_mem` — the recognisers;
* `IsLabel`, `IsRelativeName`, `isRecordName_iff` — the same for names of other records, by the
  characters of their labels.
-/

namespace Pattern

/-! ### Classes of characters -/

/-- `[a-z]` -/
def lower : Language Char := range 'a' 'z'

/-- `[a-zA-Z]` -/
def letter : Language Char := range 'a' 'z' + range 'A' 'Z'

/-- `[a-zA-Z0-9]` -/
def alphanumeric : Language Char := letter + range '0' '9'

/-- `[a-zA-Z0-9.-]` -/
def hostChar : Language Char := alphanumeric + char '.' + char '-'

/-- `[a-zA-Z0-9_]` -/
def word : Language Char := alphanumeric + char '_'

/-- `[a-zA-Z0-9_-]` -/
def labelChar : Language Char := word + char '-'

theorem isClass_lower : IsClass lower Char.isLower :=
  (isClass_range 'a' 'z').congr fun _ => rfl

theorem isClass_upper : IsClass (range 'A' 'Z') Char.isUpper :=
  (isClass_range 'A' 'Z').congr fun _ => (Bool.decide_and _ _).symm

theorem isClass_letter : IsClass letter isLetter :=
  (isClass_lower.add isClass_upper).congr fun _ => Bool.or_comm _ _

theorem isClass_alphanumeric : IsClass alphanumeric Char.isAlphanum :=
  (isClass_letter.add (isClass_range '0' '9')).congr fun _ => rfl

theorem isClass_hostChar : IsClass hostChar isHostChar :=
  (isClass_alphanumeric.add (isClass_char '.')).add (isClass_char '-')

theorem isClass_word : IsClass word (fun c => c.isAlphanum || c = '_') :=
  isClass_alphanumeric.add (isClass_char '_')

theorem isClass_labelChar : IsClass labelChar isLabelChar :=
  isClass_word.add (isClass_char '-')

/-! ### Forms -/

/-- `[a-zA-Z0-9.-]+\.[a-zA-Z]{2,}` -/
def domain : Language Char := many hostChar * char '.' * (letter * letter * letter∗)

/-- `[a-zA-Z0-9.-]+` -/
def host : Language Char := many hostChar

/-- `_[a-z]+\._[a-z]+` -/
def serviceName : Language Char := char '_' * many lower * char '.' * (char '_' * many lower)

/-- `\*|[a-zA-Z0-9_]([a-zA-Z0-9_-]{0,61}[a-zA-Z0-9_])?` -/
def label : Language Char := char '*' + word * (1 + upTo 61 labelChar * word)

end Pattern

open Pattern

/-! ### Host names and domains -/

theorem isHostText_iff {s : String} : isHostText s = true ↔ s.toList ∈ host := by
  rw [host, isClass_hostChar.mem_many_iff, isHostText, Bool.and_eq_true, Bool.not_eq_true',
    List.isEmpty_eq_false_iff, List.all_eq_true]

/-- Two letters or more. -/
theorem mem_letters_iff {cs : List Char} :
    cs ∈ letter * letter * letter∗ ↔ 2 ≤ cs.length ∧ ∀ c ∈ cs, isLetter c = true := by
  constructor
  · intro h
    obtain ⟨front, hfront, rest, hrest, rfl⟩ := Language.mem_mul.mp h
    obtain ⟨first, hfirst, second, hsecond, rfl⟩ := Language.mem_mul.mp hfront
    obtain ⟨c, hc, rfl⟩ := (isClass_letter first).mp hfirst
    obtain ⟨d, hd, rfl⟩ := (isClass_letter second).mp hsecond
    exact ⟨by simp, List.forall_mem_cons.mpr ⟨hc, List.forall_mem_cons.mpr
      ⟨hd, isClass_letter.mem_kstar_iff.mp hrest⟩⟩⟩
  · rintro ⟨hlength, hall⟩
    match cs, hlength, hall with
    | c :: d :: rest, _, hall =>
      obtain ⟨hc, hrest⟩ := List.forall_mem_cons.mp hall
      obtain ⟨hd, hrest⟩ := List.forall_mem_cons.mp hrest
      exact Language.append_mem_mul (Language.append_mem_mul
        (isClass_letter.singleton_mem_iff.mpr hc) (isClass_letter.singleton_mem_iff.mpr hd))
        (isClass_letter.mem_kstar_iff.mpr hrest)

/-- A domain has host characters before its last dot, and two letters or more behind it. -/
theorem mem_domain_iff {cs : List Char} :
    cs ∈ domain ↔ ∃ before last, cs = before ++ '.' :: last ∧
      (before ≠ [] ∧ ∀ c ∈ before, isHostChar c = true) ∧
      2 ≤ last.length ∧ ∀ c ∈ last, isLetter c = true := by
  rw [domain, Language.mem_mul]
  constructor
  · rintro ⟨front, hfront, last, hlast, rfl⟩
    obtain ⟨before, hbefore, dot, hdot, rfl⟩ := Language.mem_mul.mp hfront
    obtain rfl : dot = ['.'] := hdot
    exact ⟨before, last, by simp, isClass_hostChar.mem_many_iff.mp hbefore,
      mem_letters_iff.mp hlast⟩
  · rintro ⟨before, last, rfl, hbefore, hlast⟩
    exact ⟨before ++ ['.'], Language.append_mem_mul (isClass_hostChar.mem_many_iff.mpr hbefore) rfl,
      last, mem_letters_iff.mpr hlast, by simp⟩

theorem isDomainText_iff {s : String} : isDomainText s = true ↔ s.toList ∈ domain := by
  rw [mem_domain_iff, isDomainText, Bool.and_eq_true, decide_eq_true_eq]
  -- The text is read from its end: the letters there, the dot, and what stands before it.
  constructor
  · rintro ⟨hlength, hrest⟩
    have hsplit := List.takeWhile_append_dropWhile (p := isLetter) (l := s.toList.reverse)
    split at hrest
    · rename_i before hdrop
      rw [Bool.and_eq_true, Bool.not_eq_true', List.isEmpty_eq_false_iff, List.all_eq_true] at hrest
      rw [hdrop] at hsplit
      refine ⟨before.reverse, (s.toList.reverse.takeWhile isLetter).reverse, ?_, ⟨?_, ?_⟩, ?_, ?_⟩
      · have hs := congrArg List.reverse hsplit
        rw [List.reverse_reverse] at hs
        exact hs.symm.trans (by simp)
      · exact fun h => hrest.1 (List.reverse_eq_nil_iff.mp h)
      · exact fun c hc => hrest.2 c (List.mem_reverse.mp hc)
      · rw [List.length_reverse]
        exact hlength
      · exact fun c hc => List.mem_takeWhile_imp (List.mem_reverse.mp hc)
    · exact nomatch hrest
  · rintro ⟨before, last, hs, ⟨hne, hbefore⟩, hlength, hlast⟩
    have hreverse : s.toList.reverse = last.reverse ++ '.' :: before.reverse := by
      rw [hs]
      simp
    have hletters : ∀ c ∈ last.reverse, isLetter c = true :=
      fun c hc => hlast c (List.mem_reverse.mp hc)
    have hdot : isLetter '.' = false := by decide
    have htake : s.toList.reverse.takeWhile isLetter = last.reverse := by
      rw [hreverse, List.takeWhile_append_of_pos hletters,
        List.takeWhile_cons_of_neg (by rw [hdot]; exact Bool.false_ne_true), List.append_nil]
    have hdrop : s.toList.reverse.dropWhile isLetter = '.' :: before.reverse := by
      rw [hreverse, List.dropWhile_append_of_pos hletters,
        List.dropWhile_cons_of_neg (by rw [hdot]; exact Bool.false_ne_true)]
    rw [htake, hdrop]
    refine ⟨by rw [List.length_reverse]; exact hlength, ?_⟩
    show (!before.reverse.isEmpty && before.reverse.all isHostChar) = true
    rw [List.isEmpty_reverse, List.all_reverse, Bool.and_eq_true, Bool.not_eq_true',
      List.isEmpty_eq_false_iff, List.all_eq_true]
    exact ⟨hne, hbefore⟩

/-! ### Names of services -/

theorem isServiceLabel_iff {cs : List Char} :
    isServiceLabel cs = true ↔ cs ∈ char '_' * many lower := by
  rw [Language.mem_mul]
  constructor
  · intro h
    unfold isServiceLabel at h
    split at h
    · rename_i letters
      rw [Bool.and_eq_true, Bool.not_eq_true', List.isEmpty_eq_false_iff, List.all_eq_true] at h
      exact ⟨['_'], rfl, letters, isClass_lower.mem_many_iff.mpr h, rfl⟩
    · exact nomatch h
  · rintro ⟨under, hunder, letters, hletters, rfl⟩
    obtain rfl : under = ['_'] := hunder
    obtain ⟨hne, hall⟩ := isClass_lower.mem_many_iff.mp hletters
    show (!letters.isEmpty && letters.all Char.isLower) = true
    rw [Bool.and_eq_true, Bool.not_eq_true', List.isEmpty_eq_false_iff, List.all_eq_true]
    exact ⟨hne, hall⟩

/-- No dot stands within the label of a service. -/
theorem dot_not_mem_of_isServiceLabel {cs : List Char} (h : isServiceLabel cs = true) :
    '.' ∉ cs := by
  unfold isServiceLabel at h
  split at h
  · rw [Bool.and_eq_true, List.all_eq_true] at h
    intro hmem
    rcases List.mem_cons.mp hmem with hdot | hdot
    · exact absurd hdot (by decide)
    · exact absurd (h.2 '.' hdot) (by decide)
  · exact nomatch h

theorem isServiceName_iff {s : String} : isServiceName s = true ↔ s.toList ∈ serviceName := by
  rw [serviceName, Language.mem_mul]
  constructor
  · intro h
    unfold isServiceName at h
    split at h
    · rename_i service protocol hsplit
      rw [Bool.and_eq_true, isServiceLabel_iff, isServiceLabel_iff] at h
      refine ⟨service ++ ['.'], Language.append_mem_mul h.1 rfl, protocol, h.2, ?_⟩
      rw [← intercalate_splitOn '.' s.toList, hsplit]
      simp
    · exact nomatch h
  · rintro ⟨front, hfront, protocol, hprotocol, hs⟩
    obtain ⟨service, hservice, dot, hdot, rfl⟩ := Language.mem_mul.mp hfront
    obtain rfl : dot = ['.'] := hdot
    rw [← isServiceLabel_iff] at hservice hprotocol
    have hpieces : splitOn '.' s.toList = [service, protocol] := by
      have hname : s.toList = ['.'].intercalate [service, protocol] := by
        rw [← hs]
        simp
      rw [hname]
      refine splitOn_intercalate ?_ (List.cons_ne_nil _ _)
      rw [List.forall_mem_cons, List.forall_mem_singleton]
      exact ⟨dot_not_mem_of_isServiceLabel hservice, dot_not_mem_of_isServiceLabel hprotocol⟩
    rw [isServiceName, hpieces]
    show (isServiceLabel service && isServiceLabel protocol) = true
    rw [hservice, hprotocol]
    rfl

/-! ### Labels -/

/-- A label is an asterisk, or 1 to 63 letters, digits, underscores and hyphens without a hyphen at
    either end. -/
def IsLabel (cs : List Char) : Prop :=
  cs = ['*'] ∨
    (1 ≤ cs.length ∧ cs.length ≤ 63 ∧
      (∀ c ∈ cs, c.isAlphanum = true ∨ c = '_' ∨ c = '-') ∧
      cs.head? ≠ some '-' ∧ cs.getLast? ≠ some '-')

theorem isLabelChar_iff {c : Char} :
    isLabelChar c = true ↔ c.isAlphanum = true ∨ c = '_' ∨ c = '-' := by
  rw [isLabelChar, Bool.or_eq_true, Bool.or_eq_true, decide_eq_true_eq, decide_eq_true_eq, or_assoc]

theorem isLabel_iff {cs : List Char} : isLabel cs = true ↔ IsLabel cs := by
  rw [isLabel, IsLabel, Bool.or_eq_true, decide_eq_true_eq]
  refine or_congr_right ?_
  simp only [Bool.and_eq_true, Bool.not_eq_true', List.isEmpty_eq_false_iff, decide_eq_true_eq,
    List.all_eq_true, isLabelChar_iff, ← List.length_pos_iff, and_assoc]
  rfl

theorem dot_not_mem_of_isLabel {cs : List Char} (h : IsLabel cs) : '.' ∉ cs := by
  intro hmem
  rcases h with rfl | ⟨_, _, hall, _⟩
  · exact absurd hmem (by decide)
  · exact absurd (hall '.' hmem) (by decide)

/-- A character of a label other than the hyphen. -/
theorem isWord_iff {c : Char} :
    (c.isAlphanum || c = '_') = true ↔ isLabelChar c = true ∧ c ≠ '-' := by
  rw [isLabelChar, Bool.or_eq_true, Bool.or_eq_true, Bool.or_eq_true, decide_eq_true_eq,
    decide_eq_true_eq]
  constructor
  · intro h
    refine ⟨.inl h, ?_⟩
    rintro rfl
    rcases h with h | h
    · exact absurd h (by decide)
    · exact absurd h (by decide)
  · rintro ⟨h, hne⟩
    exact h.resolve_right hne

/-- Labels are those of the pattern: the characters at the two ends are no hyphens, and up to 61
    stand between them. -/
theorem isLabel_iff_mem {cs : List Char} : IsLabel cs ↔ cs ∈ label := by
  have hall : ∀ {cs : List Char}, (∀ c ∈ cs, c.isAlphanum = true ∨ c = '_' ∨ c = '-') ↔
      ∀ c ∈ cs, isLabelChar c = true :=
    forall₂_congr fun _ _ => isLabelChar_iff.symm
  rw [label, Language.mem_add, Language.mem_mul, IsLabel, hall]
  refine or_congr Iff.rfl ?_
  constructor
  · rintro ⟨hpos, hlength, hchars, hhead, hlast⟩
    obtain ⟨c, rest, rfl⟩ := List.exists_cons_of_length_pos hpos
    obtain ⟨hc, hrest⟩ := List.forall_mem_cons.mp hchars
    have hfirst : [c] ∈ word :=
      isClass_word.singleton_mem_iff.mpr (isWord_iff.mpr ⟨hc, fun h => hhead (congrArg some h)⟩)
    rcases List.eq_nil_or_concat rest with rfl | ⟨middle, d, rfl⟩
    · exact ⟨[c], hfirst, [], .inl rfl, rfl⟩
    · rw [List.concat_eq_append] at hlength hlast hrest ⊢
      obtain ⟨hmiddle, hd⟩ := List.forall_mem_append.mp hrest
      have hne : d ≠ '-' := by
        rintro rfl
        exact hlast (List.getLast?_concat (l := c :: middle))
      refine ⟨[c], hfirst, middle ++ [d], .inr (Language.append_mem_mul ?_ ?_), rfl⟩
      · refine isClass_labelChar.mem_upTo_iff.mpr ⟨?_, hmiddle⟩
        rw [List.length_cons, List.length_append, List.length_singleton] at hlength
        omega
      · exact isClass_word.singleton_mem_iff.mpr
          (isWord_iff.mpr ⟨hd d (List.mem_singleton.mpr rfl), hne⟩)
  · rintro ⟨first, hfirst, rest, hrest, rfl⟩
    obtain ⟨c, hc, rfl⟩ := (isClass_word first).mp hfirst
    obtain ⟨hlabel, hne⟩ := isWord_iff.mp hc
    have hhead : some c ≠ some '-' := fun h => hne (Option.some.inj h)
    rcases hrest with rfl | hrest
    · exact ⟨le_refl 1, Nat.succ_le_succ (Nat.zero_le 62),
        List.forall_mem_singleton.mpr hlabel, hhead, hhead⟩
    · obtain ⟨middle, hmiddle, last, hlast, rfl⟩ := Language.mem_mul.mp hrest
      obtain ⟨d, hd, rfl⟩ := (isClass_word last).mp hlast
      obtain ⟨hlength, hchars⟩ := isClass_labelChar.mem_upTo_iff.mp hmiddle
      obtain ⟨hdlabel, hdne⟩ := isWord_iff.mp hd
      refine ⟨by simp, ?_, ?_, hhead, ?_⟩
      · simp only [List.length_append, List.length_singleton]
        omega
      · show ∀ x ∈ c :: (middle ++ [d]), isLabelChar x = true
        have hend : ∀ x ∈ [d], isLabelChar x = true := List.forall_mem_singleton.mpr hdlabel
        exact List.forall_mem_cons.mpr ⟨hlabel, List.forall_mem_append.mpr ⟨hchars, hend⟩⟩
      · rw [← List.append_assoc, List.getLast?_append, List.getLast?_singleton]
        exact fun h => hdne (Option.some.inj h)

/-- A relative name is the apex, or labels with dots between them. -/
def IsRelativeName (s : String) : Prop :=
  s = Name.apex ∨ ∃ labels, labels ≠ [] ∧ s.toList = ['.'].intercalate labels ∧
    ∀ cs ∈ labels, IsLabel cs

theorem isRecordName_iff {s : String} : isRecordName s = true ↔ IsRelativeName s := by
  rw [isRecordName, IsRelativeName, Bool.or_eq_true, decide_eq_true_eq, List.all_eq_true]
  refine or_congr_right ?_
  constructor
  · intro h
    exact ⟨splitOn '.' s.toList, splitOn_ne_nil _ _, (intercalate_splitOn '.' s.toList).symm,
      fun cs hcs => isLabel_iff.mp (h cs hcs)⟩
  · rintro ⟨labels, hne, hs, hlabels⟩ cs hcs
    rw [hs, splitOn_intercalate (fun cs hcs => dot_not_mem_of_isLabel (hlabels cs hcs)) hne] at hcs
    exact isLabel_iff.mpr (hlabels cs hcs)

end ZoneSync
