import ZoneSync.Text.Digits
import ZoneSync.Yaml.Cursor

namespace ZoneSync.Yaml

open Text

/-!
# The text of scalars

Scalars are written plain, quoted, or as indented blocks. Line breaks within plain and quoted
scalars are folded: one break becomes a space, of several the first is dropped.

* `foldBreaks` — the text that a run of line breaks stands for;
* `Cursor.plain`, `Cursor.quoted`, `Cursor.block` — the scalar that begins at a place.
-/

/-- The text that line breaks between two words stand for. -/
def foldBreaks : List Char → List Char
  | ['\n'] => [' ']
  | '\n' :: more => more
  | breaks => breaks

/-- What stands between two words of a scalar. -/
structure Gap where
  /-- Blanks before the first line break. -/
  blanks : List Char := []
  breaks : List Char := []

/-- The text of a gap: its blanks as they are, or its folded breaks. -/
def Gap.text (g : Gap) : List Char :=
  if g.breaks.isEmpty then g.blanks else foldBreaks g.breaks

namespace Cursor

/-- Step over blanks and line breaks, noting them after those of `gap`. Once a line has ended, a
    tab in a column below `limit` is a fault. Every step takes a character, and `fuel` counts the
    steps. -/
def gap (limit : Nat) : Nat → Bool → Gap → Cursor → Except Fault (Gap × Cursor)
  | 0, _, g, c => .ok (g, c)
  | fuel + 1, broken, g, c =>
    match c.skipBreak? with
    | some (ch, next) => gap limit fuel true { g with breaks := g.breaks ++ [ch] } next
    | none =>
      match c.peek? with
      | some ' ' =>
        gap limit fuel broken (if broken then g else { g with blanks := g.blanks ++ [' '] }) c.skip
      | some '\t' =>
        if broken ∧ c.column < limit then .error .tabIndent
        else
          gap limit fuel broken (if broken then g else { g with blanks := g.blanks ++ ['\t'] })
            c.skip
      | _ => .ok (g, c)

/-! ### Plain scalars -/

/-- The characters of a plain scalar up to a blank, a line break or an indicator that ends it. -/
def plainWord (flow : Bool) (c : Cursor) : List Char → Except Fault Nat
  | [] => .ok 0
  | ch :: rest =>
    let next := rest.head?
    if isBlank ch || isBreak ch then .ok 0
    else if flow && ch = ':' && next.any (fun n => isFlowIndicator n || n = '?') then
      .error .badColon
    else if ch = ':' && next.all (fun n => isBlank n || isBreak n) then .ok 0
    else if flow && isFlowIndicator ch then .ok 0
    else (plainWord flow c rest).map (· + 1)

/-- The rest of a plain scalar after `text` and a gap, in lines of at least `indent` columns; also
    whether the scalar ends after a line break. -/
def plainFrom (flow : Bool) (indent : Nat) :
    Nat → List Char → Gap → Cursor → Except Fault (List Char × Bool × Cursor)
  | 0, text, g, c => .ok (text, !g.breaks.isEmpty, c)
  | fuel + 1, text, g, c => do
    if c.atAnyMarker || c.sees (· = '#') then return (text, !g.breaks.isEmpty, c)
    let length ← plainWord flow c c.rest
    let (text, g) :=
      if length = 0 then (text, g) else (text ++ g.text ++ c.rest.take length, ({} : Gap))
    let c := c.skip length
    if !c.sees fun ch => isBlank ch || isBreak ch then return (text, !g.breaks.isEmpty, c)
    let (g, c) ← c.gap indent (c.rest.length + 1) (!g.breaks.isEmpty) g
    if !flow && c.column < indent then return (text, !g.breaks.isEmpty, c)
    plainFrom flow indent fuel text g c

/-- A plain scalar. -/
def plain (flow : Bool) (indent : Nat) (c : Cursor) : Except Fault (List Char × Bool × Cursor) :=
  plainFrom flow indent (c.rest.length + 1) [] {} c

/-! ### Quoted scalars -/

/-- The character of an escape without a code. -/
def namedEscape? : Char → Option Char
  | '0' => some '\x00'
  | 'a' => some '\x07'
  | 'b' => some '\x08'
  | 't' | '\t' => some '\t'
  | 'n' => some '\n'
  | 'v' => some '\x0b'
  | 'f' => some '\x0c'
  | 'r' => some '\r'
  | 'e' => some '\x1b'
  | ' ' => some ' '
  | '\x22' => some '\x22'
  | '/' => some '/'
  | '\\' => some '\\'
  | 'N' => some '\x85'
  | '_' => some '\xa0'
  | 'L' => some '\u2028'
  | 'P' => some '\u2029'
  | _ => none

/-- The number of digits of an escape with a code. -/
def codeLength? : Char → Option Nat
  | 'x' => some 2
  | 'u' => some 4
  | 'U' => some 8
  | _ => none

/-- The character of an escape, given what follows the backslash, and how many characters that
    takes. -/
def escape? : List Char → Option (Char × Nat)
  | [] => none
  | ch :: rest =>
    match codeLength? ch with
    | some n => do
      if rest.length < n then none
      let code ← readDigits? 16 (rest.take n)
      if code.isValidChar then some (Char.ofNat code, n + 1) else none
    | none => (namedEscape? ch).map (·, 1)

/-- What ends a word of a quoted scalar. -/
inductive WordEnd where
  /-- A blank, a line break, the closing quote, or the end of the text. -/
  | plain
  /-- A line break behind a backslash. -/
  | escapedBreak

/-- A word of a quoted scalar, with the characters before it. -/
def quotedWord (single : Bool) :
    Nat → List Char → Cursor → Except Fault (List Char × WordEnd × Cursor)
  | 0, text, c => .ok (text, .plain, c)
  | fuel + 1, text, c =>
    match c.rest with
    | [] => .ok (text, .plain, c)
    | '\'' :: rest =>
      if single then
        if rest.head? = some '\'' then quotedWord single fuel (text ++ ['\'']) (c.skip 2)
        else .ok (text, .plain, c)
      else quotedWord single fuel (text ++ ['\'']) c.skip
    | '\x22' :: _ =>
      if single then quotedWord single fuel (text ++ ['\x22']) c.skip else .ok (text, .plain, c)
    | '\\' :: rest =>
      if single then quotedWord single fuel (text ++ ['\\']) c.skip
      else if rest.head?.any isBreak then .ok (text, .escapedBreak, c.skip.skipBreak)
      else
        match escape? rest with
        | some (ch, n) => quotedWord single fuel (text ++ [ch]) (c.skip (n + 1))
        | none => .error .badEscape
    | ch :: _ =>
      if isBlank ch || isBreak ch then .ok (text, .plain, c)
      else quotedWord single fuel (text ++ [ch]) c.skip

/-- The rest of a quoted scalar after `text`, up to and with the closing quote. -/
def quotedFrom (single : Bool) : Nat → List Char → Cursor → Except Fault (List Char × Cursor)
  | 0, _, _ => .error .openQuote
  | fuel + 1, text, c => do
    if c.atAnyMarker || c.rest.isEmpty then throw .openQuote
    let (text, ending, c) ← quotedWord single (c.rest.length + 1) text c
    if c.sees (· = if single then '\'' else '\x22') then return (text, c.skip)
    match ending with
    | .plain =>
      let (g, c) ← c.gap 0 (c.rest.length + 1) false {}
      quotedFrom single fuel (text ++ g.text) c
    | .escapedBreak =>
      let (g, c) ← c.gap 0 (c.rest.length + 1) true {}
      quotedFrom single fuel (text ++ g.breaks) c

/-- A quoted scalar, at its opening quote. -/
def quoted (single : Bool) (c : Cursor) : Except Fault (List Char × Cursor) :=
  quotedFrom single (c.rest.length + 1) [] c.skip

/-! ### Block scalars -/

/-- What becomes of the line breaks at the end of a block. -/
inductive Chomp where
  /-- None is kept. -/
  | strip
  /-- The last one of the text is kept. -/
  | clip
  /-- All are kept. -/
  | keep
  deriving DecidableEq

/-- The head of a block scalar after its indicator: the chomping, and the columns of its lines
    beyond those around it. -/
def blockHead (c : Cursor) : Except Fault (Chomp × Option Nat × Cursor) :=
  let chomp? : Char → Option Chomp
    | '+' => some .keep
    | '-' => some .strip
    | _ => none
  let width (chomp : Chomp) (ch : Char) (after : Cursor) :
      Except Fault (Chomp × Option Nat × Cursor) :=
    if ch = '0' then .error .badBlockHead else .ok (chomp, digitValue? 10 ch, after)
  match c.rest with
  | a :: rest =>
    match chomp? a with
    | some chomp =>
      match rest with
      | b :: _ => if isDigit b then width chomp b (c.skip 2) else .ok (chomp, none, c.skip)
      | [] => .ok (chomp, none, c.skip)
    | none =>
      if isDigit a then
        match rest.head?.bind chomp? with
        | some chomp => width chomp a (c.skip 2)
        | none => width .clip a c.skip
      else .ok (.clip, none, c)
  | [] => .ok (.clip, none, c)

/-- The empty lines in front of a line of a block, as their breaks, with the width of the widest
    indentation among them. Without a known indentation every space counts as one. -/
def blockBreaks (indent : Option Nat) :
    Nat → List Char → Nat → Cursor → Except Fault (List Char × Nat × Cursor)
  | 0, breaks, widest, c => .ok (breaks, widest, c)
  | fuel + 1, breaks, widest, c =>
    let spaces := (c.rest.takeWhile (· = ' ')).length
    let c :=
      match indent with
      | some n => c.skip (min spaces (n - c.column))
      | none => c.skip spaces
    let widest := max widest c.column
    if indent.all (c.column < ·) && c.sees (· = '\t') then .error .tabIndent
    else
      match c.skipBreak? with
      | some (ch, next) => blockBreaks indent fuel (breaks ++ [ch]) widest next
      | none => .ok (breaks, widest, c)

/-- The state between two lines of a block. -/
structure BlockLines where
  text : List Char := []
  /-- The break after the last line. -/
  leading : List Char := []
  /-- The breaks of the empty lines after that. -/
  trailing : List Char := []
  /-- Whether the last line begins with a blank. -/
  blank : Bool := false

/-- The lines of a block at `indent` columns. -/
def blockLines (literal : Bool) (indent : Nat) :
    Nat → BlockLines → Cursor → Except Fault (BlockLines × Cursor)
  | 0, b, c => .ok (b, c)
  | fuel + 1, b, c => do
    if c.column ≠ indent ∨ c.rest.isEmpty then return (b, c)
    let startsBlank := c.sees isBlank
    let join :=
      if !literal && b.leading = ['\n'] && !b.blank && !startsBlank then
        if b.trailing.isEmpty then [' '] else b.trailing
      else b.leading ++ b.trailing
    let (line, c) := c.takeLine
    let (leading, c) :=
      match c.skipBreak? with
      | some (ch, next) => ([ch], next)
      | none => ([], c)
    let (trailing, _, c) ← blockBreaks (some indent) (c.rest.length + 1) [] 0 c
    blockLines literal indent fuel
      { text := b.text ++ join ++ line, leading, trailing, blank := startsBlank } c

/-- A block scalar at its indicator, among lines of `around` columns (nothing outside of all
    collections). -/
def block (literal : Bool) (around : Option Nat) (c : Cursor) :
    Except Fault (List Char × Cursor) := do
  let (chomp, width, c) ← c.skip.blockHead
  let some c := c.skipLineTail? | throw .badBlockHead
  let given := width.map (around.getD 0 + ·)
  let (breaks, widest, c) ← blockBreaks given (c.rest.length + 1) [] 0 c
  let indent := given.getD (max (max widest (around.elim 0 (· + 1))) 1)
  let (b, c) ← blockLines literal indent (c.rest.length + 1) { trailing := breaks } c
  let text :=
    match chomp with
    | .strip => b.text
    | .clip => b.text ++ b.leading
    | .keep => b.text ++ b.leading ++ b.trailing
  return (text, c)

end Cursor

end ZoneSync.Yaml
