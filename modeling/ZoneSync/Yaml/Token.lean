import ZoneSync.Text.Digits
import ZoneSync.Yaml.Cursor

namespace ZoneSync.Yaml

open Text

/-!
# Tokens of YAML

* `Token` — the tokens, among them the marks that indentation stands for;
* `Cursor.directive`, `Cursor.anchorName`, `Cursor.tag` — the tokens that have a form of their own.
-/

/-- A token of a YAML text. -/
inductive Token where
  | version (major minor : Nat)
  /-- A shorthand for the beginning of tags. -/
  | tagHandle (handle text : String)
  | documentStart
  | documentEnd
  | blockSequence
  | blockMapping
  | blockEnd
  | flowSequence
  | flowSequenceEnd
  | flowMapping
  | flowMappingEnd
  | blockEntry
  | flowEntry
  | key
  | value
  | alias (name : String)
  | anchor (name : String)
  /-- A tag; a handle that is empty stands for itself. -/
  | tag (handle suffix : String)
  | scalar (text : String) (isPlain : Bool)
  deriving DecidableEq, Repr

namespace Cursor

/-! ### Tags -/

/-- The characters that a tag may hold besides flow indicators. -/
def isTagChar (c : Char) : Bool :=
  isWordChar c || ";/?:@&=+$.%!~*'()".toList.contains c

/-- The octets of a character escaped as UTF-8, given the first one: how many follow, and what the
    first one adds. -/
def leadOctet? (n : Nat) : Option (Nat × Nat) :=
  if n < 0x80 then some (0, n)
  else if 0xC0 ≤ n ∧ n < 0xE0 then some (1, n - 0xC0)
  else if 0xE0 ≤ n ∧ n < 0xF0 then some (2, n - 0xE0)
  else if 0xF0 ≤ n ∧ n < 0xF8 then some (3, n - 0xF0)
  else none

/-- The octet after a percent sign. -/
def escapedOctet? : List Char → Option (Nat × List Char)
  | '%' :: a :: b :: rest => (readDigits? 16 [a, b]).map (·, rest)
  | _ => none

/-- The continuation octets of an escaped character. -/
def trailOctets? : Nat → Nat → List Char → Option (Nat × List Char)
  | 0, code, cs => some (code, cs)
  | n + 1, code, cs => do
    let (octet, rest) ← escapedOctet? cs
    if 0x80 ≤ octet ∧ octet < 0xC0 then trailOctets? n (code * 64 + (octet - 0x80)) rest else none

/-- The text of a tag: its characters, with escapes replaced, and how many characters it takes. -/
def tagText (verbatim : Bool) : Nat → Cursor → Except Fault (List Char × Cursor)
  | 0, c => .ok ([], c)
  | fuel + 1, c =>
    match c.rest with
    | '%' :: _ => do
      let some (octet, rest) := escapedOctet? c.rest | throw .badTag
      let some (more, code) := leadOctet? octet | throw .badTag
      let some (code, _) := trailOctets? more code rest | throw .badTag
      if code.isValidChar then
        let (text, c) ← tagText verbatim fuel (c.skip (3 * (more + 1)))
        return (Char.ofNat code :: text, c)
      else throw .badTag
    | ch :: _ =>
      if isTagChar ch || (verbatim && (ch = ',' || ch = '[' || ch = ']')) then
        (tagText verbatim fuel c.skip).map fun (text, c) => (ch :: text, c)
      else .ok ([], c)
    | [] => .ok ([], c)

/-- The handle at a place: an exclamation mark and word characters, closed by another exclamation
    mark if there is one. -/
def handle? (c : Cursor) : Option (List Char × Cursor) :=
  if c.sees (· = '!') then
    let (word, c) := c.skip.takeWhile isWordChar
    if c.sees (· = '!') then some ('!' :: word ++ ['!'], c.skip) else some ('!' :: word, c)
  else none

/-- A tag at its exclamation mark. -/
def tag (flow : Bool) (c : Cursor) : Except Fault (Token × Cursor) := do
  let (token, c) ←
    if c.rest[1]? = some '<' then do
      let (text, c) ← (c.skip 2).tagText true (c.rest.length + 1)
      if text.isEmpty || !c.sees (· = '>') then throw .badTag
      pure (Token.tag "" (String.ofList text), c.skip)
    else do
      let some (handle, after) := c.handle? | throw .badTag
      let (text, c) ← after.tagText false (c.rest.length + 1)
      if handle.length ≥ 2 && handle.getLast? = some '!' then
        if text.isEmpty then throw .badTag
        pure (Token.tag (String.ofList handle) (String.ofList text), c)
      else
        let suffix := handle.drop 1 ++ text
        if suffix.isEmpty then pure (Token.tag "" "!", c)
        else pure (Token.tag "!" (String.ofList suffix), c)
  if c.isSpaceAt 0 || (flow && c.sees (· = ',')) then return (token, c) else throw .badTag

/-! ### Anchors -/

/-- The name after the mark of an anchor or an alias. -/
def anchorName (c : Cursor) : Except Fault (String × Cursor) :=
  let (name, c) := c.skip.takeWhile isWordChar
  if name.isEmpty || !(c.isSpaceAt 0 || c.sees "?:,]\x7d%@`".toList.contains) then
    .error .badAnchor
  else .ok (String.ofList name, c)

/-! ### Directives -/

/-- A number of at most nine digits. -/
def versionNumber (c : Cursor) : Except Fault (Nat × Cursor) :=
  let (digits, c) := c.takeWhile isDigit
  match readDigits? 10 digits with
  | some n => if digits.isEmpty ∨ 9 < digits.length then .error .badDirective else .ok (n, c)
  | none => .error .badDirective

/-- A directive at its percent sign. -/
def directive (c : Cursor) : Except Fault (Token × Cursor) := do
  let (name, c) := c.skip.takeWhile isWordChar
  if name.isEmpty || !c.isSpaceAt 0 then throw .badDirective
  let c := c.skipWhile isBlank
  let (token, c) ←
    if name = "YAML".toList then do
      let (major, c) ← c.versionNumber
      if !c.sees (· = '.') then throw .badDirective
      let (minor, c) ← c.skip.versionNumber
      pure (Token.version major minor, c)
    else if name = "TAG".toList then do
      let some (handle, c) := c.handle? | throw .badTag
      if handle ≠ ['!'] ∧ handle.getLast? ≠ some '!' then throw .badTag
      if !c.sees isBlank then throw .badTag
      let c := c.skipWhile isBlank
      let (text, c) ← c.tagText true (c.rest.length + 1)
      if text.isEmpty || !c.isSpaceAt 0 then throw .badTag
      pure (Token.tagHandle (String.ofList handle) (String.ofList text), c)
    else throw .badDirective
  let some c := c.skipLineTail? | throw .badDirective
  return (token, c)

end Cursor

end ZoneSync.Yaml
