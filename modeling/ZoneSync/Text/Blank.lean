import ZoneSync.Text.Strip

namespace ZoneSync.Text

/-!
# White space

White space is the Unicode property of that name: the ASCII blanks and line ends, the next-line
character, the no-break and the typographic spaces, and the line and paragraph separators.

* `isBlank` — the property;
* `trim` — a text without the white space at its two ends;
* `words` — the non-empty pieces of a text between its white space;
* `cutAtBlank` — what stands before and after the first white space character;
* `nonempty` — an optional text, with the empty text as nothing.
-/

/-- The characters with the Unicode property `White_Space`. -/
def isBlank (c : Char) : Bool :=
  let n := c.toNat
  (9 ≤ n && n ≤ 13) || n == 0x20 || n == 0x85 || n == 0xA0 || n == 0x1680 ||
    (0x2000 ≤ n && n ≤ 0x200A) || n == 0x2028 || n == 0x2029 || n == 0x202F ||
    n == 0x205F || n == 0x3000

/-- Every character that core counts as white space is one. -/
theorem isBlank_of_isWhitespace {c : Char} (h : c.isWhitespace = true) : isBlank c = true := by
  simp only [Char.isWhitespace, Bool.or_eq_true, decide_eq_true_eq] at h
  rcases h with ((h | h) | h) | h <;> subst h <;> decide

/-- The text without the white space at its ends. -/
def trim (s : String) : String :=
  String.ofList (strip isBlank s.toList)

/-- Whether a text holds nothing but white space. -/
def isBlankText (s : String) : Bool :=
  s.toList.all isBlank

/-- The words of a text, with the word under way in front (`word`, in reading order). -/
def wordsFrom (word : List Char) : List Char → List (List Char)
  | [] => if word.isEmpty then [] else [word]
  | c :: rest =>
    if isBlank c then
      if word.isEmpty then wordsFrom [] rest else word :: wordsFrom [] rest
    else wordsFrom (word ++ [c]) rest

/-- The non-empty runs of characters other than white space, in order. -/
def words (s : String) : List String :=
  (wordsFrom [] s.toList).map String.ofList

/-- The parts before and after the first white space character, if there is one. -/
def cutAtBlank : List Char → Option (List Char × List Char)
  | [] => none
  | c :: rest =>
    if isBlank c then some ([], rest)
    else (cutAtBlank rest).map fun (before, after) => (c :: before, after)

/-- An optional text that is not the empty one. -/
def nonempty (text : Option String) : Option String :=
  text.filter (· ≠ "")

end ZoneSync.Text
