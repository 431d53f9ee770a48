import ZoneSync.Yaml.ScalarText
import ZoneSync.Yaml.Token

namespace ZoneSync.Yaml

/-!
# From a text to its tokens

Indentation opens and closes block collections. What turns out to be a key, because a colon follows
it on its line, gets its mark afterwards: the place of the last possible key of every open flow
collection is kept, and its mark is inserted there.

* `Lexer` — the tokens so far with what the rest of the text depends on;
* `Lexer.step` — reads one more token;
* `Token.ofText` — the tokens of a whole text.
-/

/-- A place where a key may have begun. -/
structure KeyPlace where
  /-- Nothing but a key may stand here. -/
  required : Bool
  /-- The number of tokens before it. -/
  tokens : Nat
  line : Nat
  index : Nat
  column : Nat
  deriving Repr

/-- The tokens of the beginning of a text, and what the rest depends on. -/
structure Lexer where
  here : Cursor
  /-- The tokens so far, the last one first. -/
  tokens : List Token := []
  /-- The column of the innermost block collection, unless there is none. -/
  indent : Option Nat := none
  /-- The columns of the block collections around it. -/
  outerIndents : List (Option Nat) := []
  /-- Whether a key may begin here. -/
  keyAllowed : Bool := true
  /-- The possible key of the innermost flow collection, or of the block around all of them. -/
  keyPlace : Option KeyPlace := none
  /-- The possible keys around the open flow collections. -/
  outerKeys : List (Option KeyPlace) := []
  deriving Repr

namespace Lexer

/-- Whether a flow collection is open. -/
def inFlow (s : Lexer) : Bool := !s.outerKeys.isEmpty

/-- Add a token at the end. -/
def emit (s : Lexer) (t : Token) : Lexer := { s with tokens := t :: s.tokens }

/-- Insert a token after the first `n` ones. -/
def insert (s : Lexer) (n : Nat) (t : Token) : Lexer :=
  let after := s.tokens.length - n
  { s with tokens := s.tokens.take after ++ t :: s.tokens.drop after }

/-- Add a token of `n` characters. -/
def emitHere (s : Lexer) (t : Token) (n : Nat := 1) : Lexer :=
  { s.emit t with here := s.here.skip n }

/-! ### Indentation -/

/-- Open a block collection at a column beyond the innermost one; its token goes to the end or after
    the first `place` tokens. -/
def openBlock (s : Lexer) (column : Nat) (t : Token) (place : Option Nat := none) : Lexer :=
  if s.inFlow || s.indent.any (column ≤ ·) then s
  else
    let s := { s with indent := some column, outerIndents := s.indent :: s.outerIndents }
    match place with
    | none => s.emit t
    | some n => s.insert n t

/-- Close the block collections of columns beyond `column`; without one, all of them. -/
def closeBlocksFrom (column : Option Nat) : List (Option Nat) → Lexer → Lexer
  | [], s => s
  | outer :: rest, s =>
    if s.indent.any fun n => column.all (· < n) then
      closeBlocksFrom column rest
        { s.emit .blockEnd with indent := outer, outerIndents := rest }
    else s

/-- Close the block collections of columns beyond `column`, outside of flow collections. -/
def closeBlocks (s : Lexer) (column : Option Nat) : Lexer :=
  if s.inFlow then s else closeBlocksFrom column s.outerIndents s

/-! ### Possible keys -/

/-- Whether a possible key is too far back: it began on another line, or over a thousand characters
    ago. -/
def isStale (s : Lexer) (k : KeyPlace) : Bool :=
  k.line < s.here.line || k.index + 1024 < s.here.index

/-- A possible key without the ones that are too far back. -/
def freshKey (s : Lexer) (k : Option KeyPlace) : Except Fault (Option KeyPlace) :=
  match k with
  | some place =>
    if !s.isStale place then .ok k
    else if place.required then .error .missingColon
    else .ok none
  | none => .ok none

/-- Forget the keys that are too far back. -/
def forgetStaleKeys (s : Lexer) : Except Fault Lexer := do
  let outerKeys ← s.outerKeys.mapM s.freshKey
  let keyPlace ← s.freshKey s.keyPlace
  return { s with keyPlace, outerKeys }

/-- Forget the possible key at hand. -/
def forgetKey (s : Lexer) : Except Fault Lexer :=
  if s.keyPlace.any (·.required) then .error .missingColon else .ok { s with keyPlace := none }

/-- Note that a key may begin here. -/
def noteKey (s : Lexer) : Except Fault Lexer := do
  if !s.keyAllowed then return s
  let s ← s.forgetKey
  return { s with
    keyPlace := some {
      required := !s.inFlow && s.indent = some s.here.column
      tokens := s.tokens.length
      line := s.here.line
      index := s.here.index
      column := s.here.column } }

/-! ### Between tokens -/

/-- Go to the next token, over blanks, comments and line breaks. After a line break in a block a key
    may begin. -/
def toNextToken : Nat → Lexer → Lexer
  | 0, s => s
  | fuel + 1, s =>
    let c := s.here
    let c := if c.column = 0 && c.sees (· = '\ufeff') then c.skip else c
    let tabs := s.inFlow || !s.keyAllowed
    let c := c.skipWhile fun ch => ch = ' ' || (tabs && ch = '\t')
    let c := if c.sees (· = '#') then c.takeLine.2 else c
    match c.skipBreak? with
    | some (_, next) =>
      toNextToken fuel { s with here := next, keyAllowed := s.keyAllowed || !s.inFlow }
    | none => { s with here := c }

/-! ### Tokens -/

/-- A directive. -/
def directive (s : Lexer) : Except Fault Lexer := do
  let s ← (s.closeBlocks none).forgetKey
  let (t, here) ← s.here.directive
  return { s.emit t with here, keyAllowed := false }

/-- The mark of the beginning or of the end of a document. -/
def marker (s : Lexer) (t : Token) : Except Fault Lexer := do
  let s ← (s.closeBlocks none).forgetKey
  return { s.emitHere t 3 with keyAllowed := false }

/-- The beginning of a flow collection. -/
def openFlow (s : Lexer) (t : Token) : Except Fault Lexer := do
  let s ← s.noteKey
  return { s.emitHere t with
    keyPlace := none
    outerKeys := s.keyPlace :: s.outerKeys
    keyAllowed := true }

/-- The end of a flow collection. -/
def closeFlow (s : Lexer) (t : Token) : Except Fault Lexer := do
  let s ← s.forgetKey
  let s :=
    match s.outerKeys with
    | outer :: rest => { s with keyPlace := outer, outerKeys := rest }
    | [] => s
  return { s.emitHere t with keyAllowed := false }

/-- The comma of a flow collection. -/
def flowEntry (s : Lexer) : Except Fault Lexer := do
  let s ← s.forgetKey
  return { s.emitHere .flowEntry with keyAllowed := true }

/-- The dash of a block sequence. -/
def blockEntry (s : Lexer) : Except Fault Lexer := do
  if !s.inFlow && !s.keyAllowed then throw .misplaced
  let s ← (s.openBlock s.here.column .blockSequence).forgetKey
  return { s.emitHere .blockEntry with keyAllowed := true }

/-- The question mark of a key. -/
def keyMark (s : Lexer) : Except Fault Lexer := do
  if !s.inFlow && !s.keyAllowed then throw .misplaced
  let s ← (s.openBlock s.here.column .blockMapping).forgetKey
  return { s.emitHere .key with keyAllowed := !s.inFlow }

/-- The colon of a value. -/
def valueMark (s : Lexer) : Except Fault Lexer :=
  match s.keyPlace with
  | some place =>
    let s := (s.insert place.tokens .key).openBlock place.column .blockMapping (some place.tokens)
    .ok { s.emitHere .value with keyPlace := none, keyAllowed := false }
  | none => do
    if !s.inFlow && !s.keyAllowed then throw .misplaced
    let s := s.openBlock s.here.column .blockMapping
    return { s.emitHere .value with keyAllowed := !s.inFlow }

/-- An alias or an anchor. -/
def anchor (s : Lexer) (token : String → Token) : Except Fault Lexer := do
  let s ← s.noteKey
  let (name, here) ← s.here.anchorName
  return { s.emit (token name) with here, keyAllowed := false }

/-- A tag. -/
def tag (s : Lexer) : Except Fault Lexer := do
  let s ← s.noteKey
  let (t, here) ← s.here.tag s.inFlow
  return { s.emit t with here, keyAllowed := false }

/-- A block scalar. -/
def blockScalar (s : Lexer) (literal : Bool) : Except Fault Lexer := do
  let s ← s.forgetKey
  let (text, here) ← s.here.block literal s.indent
  return { s.emit (.scalar (String.ofList text) false) with here, keyAllowed := true }

/-- A quoted scalar. -/
def quotedScalar (s : Lexer) (single : Bool) : Except Fault Lexer := do
  let s ← s.noteKey
  let (text, here) ← s.here.quoted single
  return { s.emit (.scalar (String.ofList text) false) with here, keyAllowed := false }

/-- A plain scalar. -/
def plainScalar (s : Lexer) : Except Fault Lexer := do
  let s ← s.noteKey
  let (text, atLineStart, here) ← s.here.plain s.inFlow (s.indent.elim 0 (· + 1))
  return { s.emit (.scalar (String.ofList text) true) with here, keyAllowed := atLineStart }

/-- Whether a plain scalar may begin with a character. -/
def startsPlain (s : Lexer) (ch : Char) : Bool :=
  if ch = '-' then !s.here.rest[1]?.any isBlank
  else if ch = '?' || ch = ':' then !s.inFlow && !s.here.isSpaceAt 1
  else !(isBlank ch || isBreak ch || isFlowIndicator ch || "#&*!|>'\x22%@`".toList.contains ch)

/-- The token that begins with a character. -/
def token (s : Lexer) (ch : Char) : Except Fault Lexer :=
  let spaced := s.here.isSpaceAt 1
  if s.here.column = 0 && ch = '%' then s.directive
  else if s.here.atMarker '-' then s.marker .documentStart
  else if s.here.atMarker '.' then s.marker .documentEnd
  else if ch = '[' then s.openFlow .flowSequence
  else if ch = '\x7b' then s.openFlow .flowMapping
  else if ch = ']' then s.closeFlow .flowSequenceEnd
  else if ch = '\x7d' then s.closeFlow .flowMappingEnd
  else if ch = ',' then s.flowEntry
  else if ch = '-' && spaced then s.blockEntry
  else if ch = '?' && (s.inFlow || spaced) then s.keyMark
  else if ch = ':' && (s.inFlow || spaced) then s.valueMark
  else if ch = '*' then s.anchor .alias
  else if ch = '&' then s.anchor .anchor
  else if ch = '!' then s.tag
  else if ch = '|' && !s.inFlow then s.blockScalar true
  else if ch = '>' && !s.inFlow then s.blockScalar false
  else if ch = '\'' then s.quotedScalar true
  else if ch = '\x22' then s.quotedScalar false
  else if s.startsPlain ch then s.plainScalar
  else .error .strayCharacter

/-- Read one more token; nothing is left once the text ends. -/
def step (s : Lexer) : Except Fault (Lexer × Bool) := do
  let s := toNextToken (s.here.rest.length + 1) s
  let s ← s.forgetStaleKeys
  let s := s.closeBlocks (some s.here.column)
  match s.here.peek? with
  | some ch => return (← s.token ch, true)
  | none =>
    let s ← (s.closeBlocks none).forgetKey
    return (s, false)

/-- Read all tokens. Every token takes a character, and `fuel` counts the tokens. -/
def run : Nat → Lexer → Except Fault Lexer
  | 0, s => .ok s
  | fuel + 1, s => do
    let (s, more) ← s.step
    if more then run fuel s else return s

end Lexer

/-- The tokens of a text. -/
def Token.ofText (text : List Char) : Except Fault (List Token) := do
  if !text.all isText then throw .forbiddenCharacter
  let s ← Lexer.run (text.length + 1) { here := { rest := text } }
  return s.tokens.reverse

end ZoneSync.Yaml
