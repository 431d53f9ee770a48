import ZoneSync.Text.Blank
import ZoneSync.Text.Quoted
import ZoneSync.Yaml.ScalarStyle

namespace ZoneSync.Yaml

/-!
# Writing values

Values are written in block style: the items of a sequence behind dashes, the entries of a mapping a
line each, what lies deeper indented by two columns, except sequences below a key.

* `Value.write` — a value as block text;
* `Value.isWritable` — a mapping of one entry is taken for a tag if its key is tagged or is such a
  mapping itself, so that there is no text for it;
* `Value.outline` — the structure of any value on one line;
* `Value.render` — how a value is quoted in messages.
-/

namespace Value

/-! ### Tags -/

/-- The characters that a written tag keeps. -/
def isPlainTagChar (c : Char) : Bool :=
  isWordChar c || ";/?:@&=+$,.~*'()[]".toList.contains c

/-- A character of a tag, as it is or as its octets. -/
def writeTagChar (c : Char) : List Char :=
  if isPlainTagChar c then [c]
  else (String.singleton c).toUTF8.toList.flatMap fun o => '%' :: hexCapitals 2 o.toNat

/-- A tag in front of a value. -/
def writeTag (tag : String) : List Char :=
  if tag = "!" then "!<%21>".toList
  else
    let text := tag.toList
    let text := if text.head? = some '!' then text.drop 1 else text
    '!' :: text.flatMap writeTagChar

/-! ### Scalars -/

/-- The text of a value without parts, for the style that strings get; nothing for others. -/
def writeLeaf (indent : Nat) (isKey : Bool) : Value → Option (List Char)
  | null => some "null".toList
  | bool b => some (toString b).toList
  | number n => some n.toText.toList
  | string s => some (writeScalar indent (scalarStyle isKey s) s.toList)
  | sequence [] => some "[]".toList
  | mapping [] => some "\x7b\x7d".toList
  | _ => none

/-- The octets that a value without parts counts for as a key; nothing for others, and for strings
    of several lines. -/
def keySize? : Value → Option Nat
  | null => some 4
  | bool b => some (toString b).utf8ByteSize
  | number n => some n.toText.utf8ByteSize
  | string s => if s.toList.any isBreak then none else some s.utf8ByteSize
  | sequence [] => some 0
  | mapping [] => some 0
  | _ => none

/-- Whether a key stands on one line with its value: it has no parts, one line, and at most 128
    octets. -/
def isSimpleKey : Value → Bool
  | tagged tag v => (keySize? v).any (· + tag.utf8ByteSize + 1 ≤ 128)
  | v => (keySize? v).any (· ≤ 128)

/-! ### Blocks -/

/-- What stands in front of a value. -/
inductive Slot where
  /-- Nothing. -/
  | root
  /-- The dash of an item. -/
  | item
  /-- The question mark of a key, or the colon on a line of its own. -/
  | explicit
  /-- A key and its colon. -/
  | value
  deriving DecidableEq

/-- The column of the parts of a sequence; `indent` is the column of what stands around it. -/
def sequenceColumn (slot : Slot) (isTagged : Bool) (indent : Nat) : Nat :=
  match slot with
  | .root => 0
  | .item => indent + 2
  | .explicit => if isTagged then indent else indent + 2
  | .value => indent

/-- The column of the parts of a mapping. -/
def mappingColumn (slot : Slot) (indent : Nat) : Nat :=
  match slot with
  | .root => 0
  | _ => indent + 2

/-- A line break with the indentation of the next line. -/
def newLine (column : Nat) : List Char := '\n' :: spaces column

/-- What leads from a text to the next line: a block that ends with a break has begun it. -/
def nextLine (text : List Char) (column : Nat) : List Char :=
  if text.getLast?.any isBreak then spaces column else newLine column

/-- The space in front of a value. -/
def leadSpace (slot : Slot) : List Char :=
  if slot = .root then [] else [' ']

/-- The tag in front of a value, if there is one. -/
def leadTag (slot : Slot) : Option String → List Char
  | some tag => leadSpace slot ++ writeTag tag
  | none => []

/-- What stands in front of the first part of a collection in a column. -/
def leadPart (slot : Slot) (isTagged : Bool) (column : Nat) : List Char :=
  if isTagged ∨ slot = .value then newLine column else leadSpace slot

/-- The column of the further lines of a scalar. -/
def scalarColumn (slot : Slot) (indent : Nat) : Nat :=
  if slot = .root then 2 else indent + 2

/-- A value without parts, behind its tag. -/
def writeLeafIn (tag : Option String) (slot : Slot) (indent : Nat) (v : Value) : List Char :=
  leadTag slot tag ++ (if tag.isSome then [' '] else leadSpace slot) ++
    (writeLeaf (scalarColumn slot indent) false v).getD []

/-- A key on one line with its value. -/
def writeKey (column : Nat) : Value → List Char
  | tagged tag v => writeTag tag ++ ' ' :: (writeLeaf (column + 2) true v).getD []
  | v => (writeLeaf (column + 2) true v).getD []

mutual

/-- A value in its slot, behind its tag if it has one. -/
def writeIn (tag : Option String) (slot : Slot) (indent : Nat) : Value → List Char
  | tagged t v => writeIn (some t) slot indent v
  | sequence (x :: xs) =>
    let column := sequenceColumn slot tag.isSome indent
    leadTag slot tag ++ writeItems (leadPart slot tag.isSome column) column (x :: xs)
  | mapping (e :: es) =>
    let column := mappingColumn slot indent
    leadTag slot tag ++ writeEntries (leadPart slot tag.isSome column) column (e :: es)
  | null => writeLeafIn tag slot indent null
  | bool b => writeLeafIn tag slot indent (bool b)
  | number n => writeLeafIn tag slot indent (number n)
  | string s => writeLeafIn tag slot indent (string s)
  | sequence [] => writeLeafIn tag slot indent (sequence [])
  | mapping [] => writeLeafIn tag slot indent (mapping [])

/-- The items of a sequence; `lead` stands in front of the first one. -/
def writeItems (lead : List Char) (column : Nat) : List Value → List Char
  | [] => []
  | x :: xs =>
    let item := writeIn none .item column x
    lead ++ '-' :: item ++ writeItems (nextLine item column) column xs

/-- The entries of a mapping; `lead` stands in front of the first one. -/
def writeEntries (lead : List Char) (column : Nat) : List (Value × Value) → List Char
  | [] => []
  | (key, value) :: es =>
    let entry :=
      if isSimpleKey key then writeKey column key ++ ':' :: writeIn none .value column value
      else
        let name := writeIn none .explicit column key
        '?' :: name ++ nextLine name column ++ ':' :: writeIn none .explicit column value
    lead ++ entry ++ writeEntries (nextLine entry column) column es

end

/-- A value as block text. -/
def write (v : Value) : String :=
  String.ofList (writeIn none .root 0 v)

/-! ### What cannot be written -/

/-- Whether a value would be taken for a tag as the only key of a mapping. -/
def looksLikeTag : Value → Bool
  | tagged _ _ => true
  | mapping [_] => true
  | _ => false

mutual

/-- Whether a value has a text. -/
def isWritable (isTagged : Bool) : Value → Bool
  | tagged _ v => isWritable true v
  | sequence items => areWritable items
  | mapping entries =>
    (isTagged || entries.length ≠ 1 || !entries.any (looksLikeTag ·.1)) &&
      areWritableEntries entries
  | _ => true

/-- `isWritable` for the items of a sequence. -/
def areWritable : List Value → Bool
  | [] => true
  | x :: xs => isWritable false x && areWritable xs

/-- `isWritable` for the entries of a mapping. -/
def areWritableEntries : List (Value × Value) → Bool
  | [] => true
  | (k, v) :: es => isWritable false k && isWritable false v && areWritableEntries es

end

/-! ### Outlines -/

/-- The outline of a scalar as a key, where it needs no name. -/
def outlineKey? : Value → Option String
  | bool b => some (toString b)
  | number n => some n.toText
  | string s => some (Text.quote s)
  | _ => none

mutual

/-- The structure of a value on one line. -/
def outline : Value → String
  | null => "Null"
  | bool b => "Bool(" ++ toString b ++ ")"
  | number n => "Number(" ++ n.toText ++ ")"
  | string s => "String(" ++ Text.quote s ++ ")"
  | sequence items => "Sequence [" ++ ", ".intercalate (outlineItems items) ++ "]"
  | mapping entries =>
    "Mapping \x7b" ++ ", ".intercalate (outlineEntries entries) ++ "\x7d"
  | tagged tag v =>
    "TaggedValue \x7b tag: " ++ tagText tag ++ ", value: " ++ outline v ++ " \x7d"

/-- The outlines of items. -/
def outlineItems : List Value → List String
  | [] => []
  | x :: xs => outline x :: outlineItems xs

/-- The outlines of entries. -/
def outlineEntries : List (Value × Value) → List String
  | [] => []
  | (k, v) :: es =>
    ((outlineKey? k).getD (outline k) ++ ": " ++ outline v) :: outlineEntries es

end

/-! ### Messages -/

/-- A value in a message: scalars as they are, other values as block text. -/
def render : Value → String
  | null => "null"
  | bool b => toString b
  | number n => n.toText
  | string s => s
  | v => if isWritable false v then Text.trim v.write else outline v

end Value

end ZoneSync.Yaml
