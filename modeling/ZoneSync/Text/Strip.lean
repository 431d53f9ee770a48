namespace ZoneSync.Text

/-!
# Removing characters from the ends of a text

Texts are taken as lists of characters here, so that the laws follow the list.

* `stripEnd p cs` — `cs` without its longest run of trailing characters with `p`;
* `strip p cs` — the same at both ends;
* `lowerAscii s` — the ASCII capitals of `s` in lower case, everything else kept;
* `splitOn c cs` — the pieces of `cs` between the occurrences of `c`;
* `dottedLabels s` — the labels of `s` between its dots.
-/

/-! ### Both ends -/

/-- Drop the longest run of trailing characters that satisfy `p`. -/
def stripEnd (p : Char → Bool) (cs : List Char) : List Char :=
  (cs.reverse.dropWhile p).reverse

/-- Drop the longest runs of leading and of trailing characters that satisfy `p`. -/
def strip (p : Char → Bool) (cs : List Char) : List Char :=
  stripEnd p (cs.dropWhile p)

@[simp] theorem stripEnd_nil (p : Char → Bool) : stripEnd p [] = [] := rfl

@[simp] theorem strip_nil (p : Char → Bool) : strip p [] = [] := rfl

/-- Only characters at the end are lost. -/
theorem stripEnd_append_takeWhile (p : Char → Bool) (cs : List Char) :
    stripEnd p cs ++ (cs.reverse.takeWhile p).reverse = cs := by
  rw [stripEnd, ← List.reverse_append, List.takeWhile_append_dropWhile, List.reverse_reverse]

/-! ### Case -/

/-- The text with the capitals `A` to `Z` in lower case. -/
def lowerAscii (s : String) : String :=
  String.ofList (s.toList.map Char.toLower)

@[simp] theorem toList_lowerAscii (s : String) :
    (lowerAscii s).toList = s.toList.map Char.toLower := by
  simp [lowerAscii]

/-! ### Pieces -/

/-- The pieces of a text between the occurrences of `sep`; there is always at least one. -/
def splitOn (sep : Char) : List Char → List (List Char)
  | [] => [[]]
  | c :: rest =>
    if c = sep then [] :: splitOn sep rest
    else
      match splitOn sep rest with
      | [] => [[c]]
      | piece :: pieces => (c :: piece) :: pieces

@[simp] theorem splitOn_nil (sep : Char) : splitOn sep [] = [[]] := rfl

theorem splitOn_ne_nil (sep : Char) (cs : List Char) : splitOn sep cs ≠ [] := by
  cases cs with
  | nil => simp
  | cons c rest =>
    unfold splitOn
    split
    · simp
    · split <;> simp

/-- The labels of a name: what stands between its dots. -/
def dottedLabels (s : String) : List String :=
  (splitOn '.' s.toList).map String.ofList

end ZoneSync.Text
