import ZoneSync.Yaml.Fault

namespace ZoneSync.Yaml

/-!
# Places in a YAML text

* `isText` — the characters that a text may hold;
* `isBreak`, `isBlank` — line breaks, and the blanks within a line;
* `Cursor` — what is left of a text, with the line and the column where it begins;
* `Cursor.skip`, `Cursor.skipBreak`, `Cursor.takeWhile` — steps over it;
* `Cursor.atMarker` — whether a document marker begins there.
-/

/-! ### Characters -/

/-- The characters that a text may hold: tabs, line ends, and all that can be printed. -/
def isText (c : Char) : Bool :=
  let n := c.toNat
  n == 9 || n == 0xA || n == 0xD || (0x20 ≤ n && n ≤ 0x7E) || n == 0x85 ||
    (0xA0 ≤ n && n ≤ 0xD7FF) || (0xE000 ≤ n && n ≤ 0xFFFD) || 0x10000 ≤ n

/-- Line feed, carriage return, next line, and the line and paragraph separators. -/
def isBreak (c : Char) : Bool :=
  c = '\n' || c = '\r' || c = '\x85' || c = '\u2028' || c = '\u2029'

/-- A space or a tab. -/
def isBlank (c : Char) : Bool :=
  c = ' ' || c = '\t'

/-- The characters of anchors, tag handles and directive names. -/
def isWordChar (c : Char) : Bool :=
  c.isAlphanum || c = '_' || c = '-'

/-- The brackets, braces and the comma of flow collections. -/
def isFlowIndicator (c : Char) : Bool :=
  c = ',' || c = '[' || c = ']' || c = '\x7b' || c = '\x7d'

/-! ### Places -/

/-- What is left of a text, and where it begins. -/
structure Cursor where
  rest : List Char
  /-- The characters before. -/
  index : Nat := 0
  line : Nat := 0
  column : Nat := 0
  deriving Repr

namespace Cursor

/-- The next character. -/
def peek? (c : Cursor) : Option Char := c.rest.head?

/-- Whether the next character has a property; at the end it has none. -/
def sees (c : Cursor) (p : Char → Bool) : Bool := c.peek?.any p

/-- Whether the text ends here or with the line. -/
def atLineEnd (c : Cursor) : Bool := c.peek?.all isBreak

/-- Whether a blank, a line break or the end stands after `n` characters. -/
def isSpaceAt (c : Cursor) (n : Nat) : Bool :=
  match c.rest[n]? with
  | some ch => isBlank ch || isBreak ch
  | none => true

/-- Step over characters of one line. -/
def skip (c : Cursor) (n : Nat := 1) : Cursor :=
  { c with
    rest := c.rest.drop n
    index := c.index + n
    column := c.column + n }

/-- The character that a line break stands for, and the place after it. -/
def skipBreak? (c : Cursor) : Option (Char × Cursor) :=
  let next (n : Nat) : Cursor :=
    { rest := c.rest.drop n, index := c.index + n, line := c.line + 1, column := 0 }
  match c.rest with
  | '\r' :: '\n' :: _ => some ('\n', next 2)
  | '\r' :: _ | '\n' :: _ | '\x85' :: _ => some ('\n', next 1)
  | '\u2028' :: _ => some ('\u2028', next 1)
  | '\u2029' :: _ => some ('\u2029', next 1)
  | _ => none

/-- The place after a line break, if there is one. -/
def skipBreak (c : Cursor) : Cursor :=
  match c.skipBreak? with
  | some (_, next) => next
  | none => c

/-- The longest run of characters with a property that holds of no line break. -/
def takeWhile (c : Cursor) (p : Char → Bool) : List Char × Cursor :=
  let run := c.rest.takeWhile p
  (run, c.skip run.length)

/-- The place after the longest run of characters with a property. -/
def skipWhile (c : Cursor) (p : Char → Bool) : Cursor :=
  (c.takeWhile p).2

/-- The characters to the end of the line. -/
def takeLine (c : Cursor) : List Char × Cursor :=
  c.takeWhile (!isBreak ·)

/-- Step over the blanks and the comment that may end a line; nothing else may stand there. -/
def skipLineTail? (c : Cursor) : Option Cursor :=
  let c := c.skipWhile isBlank
  let c := if c.sees (· = '#') then c.takeLine.2 else c
  if c.atLineEnd then some c.skipBreak else none

/-- Whether one of the markers of documents stands at the beginning of a line. -/
def atMarker (c : Cursor) (mark : Char) : Bool :=
  c.column = 0 && [mark, mark, mark].isPrefixOf c.rest && c.isSpaceAt 3

/-- Whether a document begins or ends here. -/
def atAnyMarker (c : Cursor) : Bool :=
  c.atMarker '-' || c.atMarker '.'

end Cursor

end ZoneSync.Yaml
