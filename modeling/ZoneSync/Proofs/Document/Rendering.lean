import ZoneSync.Proofs.Document.Problems
import ZoneSync.Proofs.Text.Ends
import ZoneSync.Proofs.Text.Numbers

namespace ZoneSync

open Text

/-!
# The text of the report on a document

The lines on problems are written in one pass, which remembers the entry of the last fault, and
forgets it at a problem of another kind. A line for an entry is written when it is not the one that
is remembered. The lines fall into one group for each entry only because of how the problems of a
document stand: those of an entry are together, the faults come first, and no place comes twice.

* `Location.toString_injective`, `Location.blank_not_mem_toString` — places are told apart by their
  texts, which are words;
* `Problem.line`, `Report.heading`, `Report.isHeading` — the line of a problem, that of an entry,
  and what tells the lines of entries from all others;
* `Document.Written` — the lines on entries, one group for each;
* `Report.linesFrom_faults` — what the pass writes for the faults of one entry, and remembers;
* `Report.filter_linesFrom` — every problem has one line, in their order, wherever they stand;
* `Document.written_linesFrom` — what the pass writes for all entries of a document;
* `Document.report_grouped` — the text of the report, line by line.
-/

/-! ### Places as words -/

namespace Location

theorem toList_toString (l : Location) :
    l.toString.toList = l.part.name.toList ++ '[' :: (Nat.toDigits 10 l.index ++ [']']) := by
  rw [toString, String.toList_append, String.toList_append, String.toList_append, Nat.toList_repr,
    List.append_assoc, List.append_assoc]
  rfl

/-- What is in the text of a place behind the name of its section. -/
theorem eq_of_mem_index {n : Nat} {c : Char} (h : c ∈ Nat.toDigits 10 n ++ [']']) :
    c.isDigit = true ∨ c = ']' :=
  (List.mem_append.mp h).imp (Nat.isDigit_of_mem_toDigits (by decide) (by decide))
    List.mem_singleton.mp

/-- Places are told apart by their texts. -/
theorem toString_injective : Function.Injective toString := by
  intro l l' h
  have hbracket : ∀ n, '[' ∉ Nat.toDigits 10 n ++ [']'] := fun n hmem =>
    (eq_of_mem_index hmem).elim (by decide) (by decide)
  have hchars := congrArg String.toList h
  rw [toList_toString, toList_toString] at hchars
  obtain ⟨hpart, hindex⟩ := append_cons_inj hchars (hbracket _) (hbracket _)
  have hname : ∀ s s' : Section, s.name = s'.name → s = s' := by
    intro s s'
    cases s <;> cases s' <;> decide
  obtain ⟨part, index⟩ := l
  obtain ⟨part', index'⟩ := l'
  rw [mk.injEq]
  refine ⟨hname _ _ (String.toList_injective hpart), repr_injective (String.toList_injective ?_)⟩
  rw [Nat.toList_repr, Nat.toList_repr]
  exact List.append_cancel_right hindex

theorem blank_not_mem_toString (l : Location) : ' ' ∉ l.toString.toList := by
  have hname : ∀ s : Section, ' ' ∉ s.name.toList := by rintro (_ | _ | _ | _) <;> decide
  rw [toList_toString, List.mem_append, List.mem_cons]
  rintro (hpart | hbracket | hindex)
  · exact hname _ hpart
  · exact absurd hbracket (by decide)
  · exact (eq_of_mem_index hindex).elim (by decide) (by decide)

theorem getLast?_toString (l : Location) : l.toString.toList.getLast? = some ']' := by
  rw [toList_toString, ← List.cons_append, ← List.append_assoc, List.getLast?_concat]

end Location

/-! ### Lines of problems and of entries -/

namespace Problem

/-- Whether a problem is a fault that an entry has alone. -/
def isFault : Problem → Bool
  | entry _ _ _ => true
  | _ => false

/-- The line of a problem. A fault stands below the line of its entry and does not name it again. -/
def line : Problem → String
  | entry _ _ fault => "  - " ++ fault.message
  | problem => problem.message

theorem line_eq_message {p : Problem} (h : p.isFault = false) : p.line = p.message := by
  cases p with
  | entry => exact nomatch h
  | _ => rfl

end Problem

namespace Report

variable {current : Option Location} {location : Location} {label : String}
  {faults : List EntryFault} {problems : List Problem}

/-- The line of an entry that has faults. -/
def heading (location : Location) (label : String) : String := location.toString ++ " " ++ label

/-- A line is that of an entry when its first word ends as the text of a place does. -/
def isHeading (line : String) : Bool := (line.toList.takeWhile (· ≠ ' ')).getLast? = some ']'

/-- The lines on the faults of an entry: its own with one for each fault below, or none at all. -/
def block (location : Location) (label : String) : List EntryFault → List String
  | [] => []
  | faults => heading location label :: faults.map ("  - " ++ ·.message)

/-- The two lines before those on problems. -/
def opening (r : Report) : List String :=
  ["Validated " ++ Nat.repr r.checked ++ " records",
    if r.isValid then "All DNS records are valid"
    else "Found " ++ Nat.repr r.problems.length ++ " error(s):"]

/-! ### Which lines are those of entries -/

theorem takeWhile_word {word : String} (h : ' ' ∉ word.toList) (rest : String) :
    (word ++ " " ++ rest).toList.takeWhile (· ≠ ' ') = word.toList := by
  have hchars : (word ++ " " ++ rest).toList = word.toList ++ ' ' :: rest.toList := by
    rw [String.toList_append, String.toList_append, List.append_assoc]
    rfl
  rw [hchars, takeWhile_append_cons (by decide), List.takeWhile_eq_self_iff]
  exact fun c hc => decide_eq_true fun heq => h (heq ▸ hc)

theorem isHeading_word {word : String} (h : ' ' ∉ word.toList) (rest : String) :
    isHeading (word ++ " " ++ rest) = decide (word.toList.getLast? = some ']') := by
  rw [isHeading, takeWhile_word h]

@[simp] theorem isHeading_heading (location : Location) (label : String) :
    isHeading (heading location label) = true := by
  rw [heading, isHeading_word location.blank_not_mem_toString, location.getLast?_toString]
  rfl

/-- The lines of two entries differ, whatever their labels. -/
theorem heading_ne {location location' : Location} (h : location ≠ location')
    (label label' : String) : heading location label ≠ heading location' label' := by
  intro heq
  have hword := congrArg (fun line => line.toList.takeWhile (· ≠ ' ')) heq
  simp only [heading, takeWhile_word location.blank_not_mem_toString,
    takeWhile_word location'.blank_not_mem_toString] at hword
  exact h (Location.toString_injective (String.toList_injective hword))

/-- No problem has a line that could be that of an entry. -/
@[simp] theorem isHeading_line (p : Problem) : isHeading p.line = false := by
  cases p with
  | missingDomain => rfl
  | invalidDomain value =>
    have hline : (Problem.invalidDomain value).line =
        "Invalid" ++ " " ++ ("domain: " ++ value) := by
      rw [← String.append_assoc]
      rfl
    rw [hline, isHeading_word (by decide)]
    rfl
  | entry location label fault =>
    have hline : (Problem.entry location label fault).line =
        "" ++ " " ++ (" - " ++ fault.message) := by
      rw [← String.append_assoc]
      rfl
    rw [hline, isHeading_word (by decide)]
    rfl
  | duplicate key location first =>
    have hline : (Problem.duplicate key location first).line =
        (location.toString ++ ":") ++ " " ++
          ("Duplicate record " ++ key ++ " (first declared at " ++ first.toString ++ ")") := by
      have hcut : location.toString ++ ": Duplicate record " =
          location.toString ++ ":" ++ " " ++ "Duplicate record " := by
        rw [String.append_assoc, String.append_assoc]
        rfl
      show location.toString ++ ": Duplicate record " ++ key ++ " (first declared at " ++
        first.toString ++ ")" = _
      rw [hcut]
      simp only [String.append_assoc]
    have hword : ' ' ∉ (location.toString ++ ":").toList := by
      rw [String.toList_append, List.mem_append, not_or]
      exact ⟨location.blank_not_mem_toString, by decide⟩
    have hcolon : ":".toList = [':'] := rfl
    rw [hline, isHeading_word hword, String.toList_append, hcolon, List.getLast?_concat]
    rfl

/-! ### The pass over problems -/

theorem linesFrom_entry (current : Option Location) (location : Location) (label : String)
    (fault : EntryFault) (rest : List Problem) :
    linesFrom current (.entry location label fault :: rest) =
      (if current = some location then [] else [heading location label]) ++
        (Problem.entry location label fault).line :: linesFrom (some location) rest := by
  rw [linesFrom]
  split
  · rename_i h
    rw [h]
    rfl
  · rfl

/-- A problem that is no fault has a line that stands alone, and the entry is forgotten. -/
theorem linesFrom_other {p : Problem} (h : p.isFault = false) (current : Option Location)
    (rest : List Problem) : linesFrom current (p :: rest) = p.line :: linesFrom none rest := by
  cases p with
  | entry => exact nomatch h
  | _ => rfl

/-- Every problem has one line, and they come in the order of the problems. All other lines are
    those of entries. -/
theorem filter_linesFrom (current : Option Location) (problems : List Problem) :
    (linesFrom current problems).filter (!isHeading ·) = problems.map Problem.line := by
  induction problems generalizing current with
  | nil => rfl
  | cons p rest ih =>
    cases p with
    | entry location label fault =>
      rw [linesFrom_entry]
      split <;> simp [ih]
    | _ =>
      rw [linesFrom_other rfl]
      simp [ih]

/-- Faults of the entry that is remembered stand below its line already. -/
theorem linesFrom_below (location : Location) (label : String) (faults : List EntryFault)
    (rest : List Problem) :
    linesFrom (some location) (faults.map (.entry location label) ++ rest) =
      faults.map ("  - " ++ ·.message) ++ linesFrom (some location) rest := by
  induction faults with
  | nil => rfl
  | cons fault faults ih =>
    rw [List.map_cons, List.cons_append, linesFrom_entry, if_pos rfl, ih]
    rfl

/-- Faults of another entry than the one that is remembered get a line for it, and it is remembered
    when there are any. -/
theorem linesFrom_faults (h : current ≠ some location) (label : String) (faults : List EntryFault)
    (rest : List Problem) :
    linesFrom current (faults.map (.entry location label) ++ rest) =
      block location label faults ++
        linesFrom (if faults = [] then current else some location) rest := by
  cases faults with
  | nil => rfl
  | cons fault faults =>
    rw [List.map_cons, List.cons_append, linesFrom_entry, if_neg h, linesFrom_below]
    rfl

/-- Problems that are no faults have the lines that they have alone, whatever is remembered, and
    nothing is remembered behind them. -/
theorem linesFrom_others (h : ∀ p ∈ problems, p.isFault = false) (current : Option Location)
    (rest : List Problem) :
    linesFrom current (problems ++ rest) =
      problems.map Problem.message ++ linesFrom (if problems = [] then current else none) rest := by
  induction problems generalizing current with
  | nil => rfl
  | cons p problems ih =>
    obtain ⟨hp, hrest⟩ := List.forall_mem_cons.mp h
    rw [List.cons_append, linesFrom_other hp, ih hrest, Problem.line_eq_message hp, ite_self,
      if_neg (List.cons_ne_nil p problems)]
    rfl

/-! ### The lines of entries among others -/

theorem filter_message (h : ∀ p ∈ problems, p.isFault = false) :
    (problems.map Problem.message).filter isHeading = [] := by
  rw [List.filter_eq_nil_iff]
  intro line hline
  obtain ⟨p, hp, rfl⟩ := List.mem_map.mp hline
  rw [← Problem.line_eq_message (h p hp), isHeading_line]
  exact Bool.false_ne_true

theorem filter_block (location : Location) (label : String) (faults : List EntryFault) :
    (block location label faults).filter isHeading =
      if faults = [] then [] else [heading location label] := by
  have hbelow : (faults.map ("  - " ++ ·.message)).filter isHeading = [] := by
    rw [List.filter_map, List.map_eq_nil_iff, List.filter_eq_nil_iff]
    intro fault _ hheading
    exact Bool.false_ne_true ((isHeading_line (.entry location label fault)).symm.trans hheading)
  cases faults with
  | nil => rfl
  | cons fault faults =>
    rw [block, List.filter_cons_of_pos (isHeading_heading location label), hbelow,
      if_neg (List.cons_ne_nil fault faults)]
    exact fun h => nomatch h

theorem lines_eq (r : Report) : r.lines = r.opening ++ linesFrom none r.problems := by
  obtain ⟨problems, checked⟩ := r
  cases problems <;> rfl

end Report

namespace Document

open Report

variable {domain : Option String} {before entries : List (Location × Entry)} {p : Location × Entry}
  {d : Document}

/-! ### The lines on entries -/

/-- The lines of the entries that have faults. -/
def headings (domain : Option String) (entries : List (Location × Entry)) : List String :=
  (entries.filter fun p => p.2.faults (domain.getD "") ≠ []).map fun p => heading p.1 p.2.label

/-- The lines on entries that stand after others: for each in order, its line with those of its
    faults below, if it has faults, then that it is a duplicate, if it is one. -/
inductive Written (domain : Option String) :
    List (Location × Entry) → List (Location × Entry) → List String → Prop
  | nil (before : List (Location × Entry)) : Written domain before [] []
  | cons {before rest : List (Location × Entry)} {p : Location × Entry} {repeated : List Problem}
      {lines : List String} (here : Repeats domain before p repeated)
      (next : Written domain (before ++ [p]) rest lines) :
      Written domain before (p :: rest)
        (block p.1 p.2.label (p.2.faults (domain.getD "")) ++ repeated.map Problem.message ++ lines)

theorem Repeats.isFault_eq_false {repeated : List Problem}
    (h : Repeats domain before p repeated) : ∀ q ∈ repeated, q.isFault = false := by
  cases h with
  | never => exact List.forall_mem_nil _
  | again => exact List.forall_mem_singleton.mpr rfl

theorem DomainVerdict.isFault_eq_false {head : List Problem} (h : d.DomainVerdict domain head) :
    ∀ q ∈ head, q.isFault = false := by
  cases h with
  | valid => exact List.forall_mem_nil _
  | invalid | missing => exact List.forall_mem_singleton.mpr rfl

/-- The pass writes a group for each of some entries at different places, as long as none of them is
    the one that is remembered before. -/
theorem written_linesFrom {problems : List Problem} {current : Option Location}
    (h : Reviewed domain before entries problems) (hnodup : (entries.map (·.1)).Nodup)
    (hcurrent : ∀ p ∈ entries, current ≠ some p.1) :
    Written domain before entries (linesFrom current problems) := by
  induction h generalizing current with
  | nil before => exact .nil before
  | @cons before rest p repeated problems here next ih =>
    rw [List.map_cons, List.nodup_cons] at hnodup
    rw [List.append_assoc, linesFrom_faults (hcurrent p List.mem_cons_self),
      linesFrom_others here.isFault_eq_false, ← List.append_assoc]
    refine .cons here (ih hnodup.2 fun q hq => ?_)
    -- What is remembered is nothing, what it was before, or this entry, which does not come again.
    have hother : p.1 ≠ q.1 := fun heq => hnodup.1 (heq ▸ List.mem_map_of_mem hq)
    have hbefore := hcurrent q (List.mem_cons_of_mem p hq)
    split
    · split
      · exact hbefore
      · exact fun heq => hother (Option.some.inj heq)
    · exact fun heq => nomatch heq

/-- Among the lines on entries, those of entries are one for each entry with faults. -/
theorem Written.filter_isHeading {lines : List String} (h : Written domain before entries lines) :
    lines.filter isHeading = headings domain entries := by
  induction h with
  | nil => rfl
  | @cons before rest p repeated lines here next ih =>
    rw [List.filter_append, List.filter_append, filter_block,
      filter_message here.isFault_eq_false, ih, List.append_nil, headings, headings,
      List.filter_cons]
    by_cases hfaults : p.2.faults (domain.getD "") = [] <;> simp [hfaults]

/-- Entries at different places have different lines. -/
theorem nodup_headings (h : (entries.map (·.1)).Nodup) (domain : Option String) :
    (headings domain entries).Nodup := by
  rw [List.Nodup, List.pairwise_map] at h
  exact List.pairwise_map.mpr ((h.filter _).imp fun hne => heading_ne hne _ _)

/-! ### The whole text -/

theorem nodup_placesIn (part : Section) (entries : List Entry) : (placesIn part entries).Nodup :=
  List.nodup_range.map fun _ _ h => (Location.mk.inj h).2

theorem part_of_mem_placesIn {part : Section} {entries : List Entry} {l : Location}
    (h : l ∈ placesIn part entries) : l.part = part := by
  obtain ⟨_, _, rfl⟩ := List.mem_map.mp h
  rfl

/-- No place comes twice: in a section they are numbered. -/
theorem nodup_map_fst_entries (d : Document) : (d.entries.map (·.1)).Nodup := by
  have hsections : Section.all.Nodup := by decide
  rw [entries, List.map_flatMap, List.nodup_flatMap]
  simp only [map_fst_locatedIn]
  refine ⟨fun part _ => nodup_placesIn part _, hsections.imp fun hne l hl hl' => hne ?_⟩
  rw [← part_of_mem_placesIn hl, part_of_mem_placesIn hl']

/-- **The text of the report on a document groups its problems by entries.** Behind the two lines
    that open it there is at first that of the domain, if there is a problem of it; then, for each
    entry in the order of the places, its own line with those of its faults below, if it has faults,
    and behind them that it is a duplicate, if it is one. By their first words one can tell the
    lines of entries from the others. They are those of the entries with faults, one for each, and
    no two of them are equal. The others are those of the problems, one for each, in their order. -/
theorem report_grouped (d : Document) :
    d.entries.map (·.1) = d.places ∧
      ∃ domain head lines, d.DomainVerdict domain head ∧ Written domain [] d.entries lines ∧
        d.report.render = String.join
          ((d.report.opening ++ (head.map Problem.message ++ lines)).map (· ++ "\n")) ∧
        ((head.map Problem.message ++ lines).filter isHeading = headings domain d.entries ∧
          (headings domain d.entries).Nodup) ∧
        (head.map Problem.message ++ lines).filter (!isHeading ·) =
          d.report.problems.map Problem.line ∧
        ((head.map Problem.message ++ lines).filter (!isHeading ·)).length =
          d.report.problems.length := by
  have hverdict := domainVerdict d
  have hnodup := nodup_map_fst_entries d
  have hreviewed : Reviewed d.validDomain? [] d.entries
      (entryProblems d.validDomain? [] d.entries) :=
    reviewed_entryProblems (.nil _)
  have hwritten : Written d.validDomain? [] d.entries
      (linesFrom none (entryProblems d.validDomain? [] d.entries)) :=
    written_linesFrom hreviewed hnodup fun p _ h => nomatch h
  have hbody : linesFrom none d.report.problems = d.domainProblems.map Problem.message ++
      linesFrom none (entryProblems d.validDomain? [] d.entries) := by
    rw [report, linesFrom_others hverdict.isFault_eq_false, ite_self]
  have hproblems := filter_linesFrom none d.report.problems
  rw [hbody] at hproblems
  refine ⟨map_fst_entries d, d.validDomain?, d.domainProblems, _, hverdict, hwritten, ?_,
    ⟨?_, nodup_headings hnodup _⟩, hproblems, ?_⟩
  · rw [render, lines_eq, hbody]
  · rw [List.filter_append, filter_message hverdict.isFault_eq_false, List.nil_append,
      hwritten.filter_isHeading]
  · rw [hproblems, List.length_map]

/-- One address without content, declared in two sections of a document that names no domain. -/
example :
    let e : Entry := { name := some (.string "www"), type := some (.string "A") }
    ({ frontend := [e], backend := [e] } : Document).report.lines =
      ["Validated 2 records", "Found 4 error(s):", "Missing 'domain' field in configuration",
        "frontend[0] www (A)", "  - Missing 'content' field",
        "backend[0] www (A)", "  - Missing 'content' field",
        "backend[0]: Duplicate record www:A (first declared at frontend[0])"] := by
  decide +kernel

end Document

end ZoneSync
