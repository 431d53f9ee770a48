import ZoneSync.Text.Digits
import ZoneSync.Yaml.Cursor
import ZoneSync.Yaml.Scalar

namespace ZoneSync.Yaml

open Text

/-!
# How strings are written

A string is written plain if that reads back as the same string, as a literal block if it has line
feeds, and else between quotes: single ones if they show it, double ones if it needs escapes.

* `ScalarShape` — what of a string decides how it can be written;
* `scalarStyle` — the style that a string gets;
* `writeScalar` — its text in that style.
-/

/-- The ways to write a string. -/
inductive ScalarStyle where
  | plain
  | singleQuoted
  | doubleQuoted
  | literal
  deriving DecidableEq, Repr

/-- The characters that are written as they are. -/
def isShown (c : Char) : Bool :=
  let n := c.toNat
  n == 0xA || (0x20 ≤ n && n ≤ 0x7E) || (0xA0 ≤ n && n ≤ 0xD7FF) ||
    (0xE000 ≤ n && n ≤ 0xFFFD && n ≠ 0xFEFF) || 0x10000 ≤ n

/-! ### Shape -/

/-- What of a string decides how it can be written. -/
structure ScalarShape where
  /-- An indicator keeps it from being plain. -/
  indicator : Bool := false
  /-- A character has to be escaped. -/
  special : Bool := false
  /-- It has more than one line. -/
  multiline : Bool := false
  /-- It begins or ends with a space or a line break. -/
  padded : Bool := false
  /-- It ends with a space. -/
  spaceAtEnd : Bool := false
  /-- A space stands behind a line break. -/
  breakSpace : Bool := false
  /-- A space stands in front of a line break. -/
  spaceBreak : Bool := false
  deriving Repr

/-- Whether an indicator keeps the characters of a string from being plain; `before` is the one in
    front of them. -/
def hasIndicator (before : Option Char) : List Char → Bool
  | [] => false
  | c :: rest =>
    let spaced := rest.head?.all fun n => isBlank n || isBreak n
    let here :=
      match before with
      | none =>
        "#,[]\x7b\x7d&*!|>'\x22%@`".toList.contains c ||
          ((c = '?' || c = ':' || c = '-') && spaced)
      | some b => (c = ':' && spaced) || (c = '#' && (isBlank b || isBreak b))
    here || hasIndicator (some c) rest

/-- Whether two characters with the properties `p` and `q` stand side by side. -/
def hasPair (p q : Char → Bool) : List Char → Bool
  | a :: b :: rest => (p a && q b) || hasPair p q (b :: rest)
  | _ => false

/-- Whether a string begins with the three characters of a document marker. -/
def startsMarker (cs : List Char) : Bool :=
  ['-', '-', '-'].isPrefixOf cs || ['.', '.', '.'].isPrefixOf cs

/-- The shape of a string. -/
def ScalarShape.of (cs : List Char) : ScalarShape :=
  let isSpace (c : Char) : Bool := c = ' '
  let isEdge (c : Char) : Bool := c = ' ' || isBreak c
  { indicator := startsMarker cs || hasIndicator none cs
    special := cs.any fun c => !isShown c
    multiline := cs.any isBreak
    padded := cs.head?.any isEdge || cs.getLast?.any isEdge
    spaceAtEnd := cs.getLast?.any isSpace
    breakSpace := hasPair isBreak isSpace cs
    spaceBreak := hasPair isSpace isBreak cs }

namespace ScalarShape

/-- Whether a string of the shape can be plain. -/
def allowsPlain (s : ScalarShape) : Bool :=
  !(s.indicator || s.special || s.multiline || s.padded || s.breakSpace || s.spaceBreak)

/-- Whether a string of the shape can stand between single quotes. -/
def allowsSingle (s : ScalarShape) : Bool :=
  !(s.special || s.breakSpace || s.spaceBreak)

/-- Whether a string of the shape can be a literal block. -/
def allowsLiteral (s : ScalarShape) : Bool :=
  !(s.special || s.spaceAtEnd || s.spaceBreak)

end ScalarShape

/-! ### Style -/

/-- Whether a plain scalar with this text would be read as something else, or looks like it. -/
def needsQuotes (s : String) : Bool :=
  match Value.ofPlain s with
  | .ok (.string _) => hasLeadingZero s.toList
  | _ => true

/-- The style of a string; the key of an entry on one line is no block. -/
def scalarStyle (isKey : Bool) (s : String) : ScalarStyle :=
  let cs := s.toList
  let shape := ScalarShape.of cs
  let single := if shape.allowsSingle then ScalarStyle.singleQuoted else .doubleQuoted
  if cs.contains '\n' then
    if shape.allowsLiteral && !isKey then .literal else .doubleQuoted
  else if isKey && shape.multiline then .doubleQuoted
  else if needsQuotes s then single
  else if shape.allowsPlain then .plain
  else single

/-! ### Text -/

/-- So many spaces. -/
def spaces (n : Nat) : List Char := List.replicate n ' '

/-- A string between single quotes; the lines after breaks are indented. -/
def writeSingle (indent : Nat) : Bool → List Char → List Char
  | broken, [] => (if broken then spaces indent else []) ++ ['\'']
  | broken, c :: rest =>
    if isBreak c then c :: writeSingle indent true rest
    else
      (if broken then spaces indent else []) ++ (if c = '\'' then ['\'', '\''] else [c]) ++
        writeSingle indent false rest

/-- The letter of an escape, for the characters that have one. -/
def escapeLetter? : Char → Option Char
  | '\x00' => some '0'
  | '\x07' => some 'a'
  | '\x08' => some 'b'
  | '\t' => some 't'
  | '\n' => some 'n'
  | '\x0b' => some 'v'
  | '\x0c' => some 'f'
  | '\r' => some 'r'
  | '\x1b' => some 'e'
  | '\x22' => some '\x22'
  | '\\' => some '\\'
  | '\x85' => some 'N'
  | '\u2028' => some 'L'
  | '\u2029' => some 'P'
  | _ => none

/-- A number as hexadecimal digits in capitals, `width` of them at least. -/
def hexCapitals (width n : Nat) : List Char :=
  let ds := (digitsOf 16 n).map Char.toUpper
  List.replicate (width - ds.length) '0' ++ ds

/-- The escape of a character. -/
def writeEscape (c : Char) : List Char :=
  match escapeLetter? c with
  | some letter => ['\\', letter]
  | none =>
    let n := c.toNat
    if n ≤ 0xFF then '\\' :: 'x' :: hexCapitals 2 n
    else if n ≤ 0xFFFF then '\\' :: 'u' :: hexCapitals 4 n
    else '\\' :: 'U' :: hexCapitals 8 n

/-- A character between double quotes. -/
def writeDoubleChar (c : Char) : List Char :=
  if !isShown c || isBreak c || c = '\x22' || c = '\\' then writeEscape c else [c]

/-- The lines of a literal block, each behind its indentation. -/
def writeLines (indent : Nat) : Bool → List Char → List Char
  | _, [] => []
  | atStart, c :: rest =>
    if isBreak c then c :: writeLines indent true rest
    else (if atStart then spaces indent else []) ++ c :: writeLines indent false rest

/-- What stands behind the bar of a literal block: a digit if it begins with a blank line or a
    space, and what becomes of the breaks at its end. -/
def literalHints (cs : List Char) : List Char :=
  let indent := if cs.head?.any fun c => c = ' ' || isBreak c then ['2'] else []
  let chomp :=
    match cs.reverse with
    | [] => ['-']
    | [c] => if isBreak c then ['+'] else ['-']
    | c :: d :: _ => if !isBreak c then ['-'] else if isBreak d then ['+'] else []
  indent ++ chomp

/-- A string in a style; further lines are indented by `indent`. -/
def writeScalar (indent : Nat) (style : ScalarStyle) (cs : List Char) : List Char :=
  match style with
  | .plain => cs
  | .singleQuoted => '\'' :: writeSingle indent false cs
  | .doubleQuoted => '\x22' :: cs.flatMap writeDoubleChar ++ ['\x22']
  | .literal => '|' :: literalHints cs ++ '\n' :: writeLines indent true cs

end ZoneSync.Yaml
