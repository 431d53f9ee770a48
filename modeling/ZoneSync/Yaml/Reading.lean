import ZoneSync.Yaml.Document
import ZoneSync.Yaml.Scalar

namespace ZoneSync.Yaml

/-!
# Reading the nodes of a document

Readings follow aliases, of which a document allows a limited number, and enter collections to a
limited depth.

* `Reading` — a reading of a document, which counts the aliases that may still be followed;
* `readValue` — the value of a node;
* `readOptional` — the value of a node that may be null;
* `readFields`, `readItems` — the known fields of a mapping, and the items of a sequence.
-/

/-- A reading: it knows the nodes of aliases and counts the aliases that it may follow. -/
abbrev Reading := ReaderT (List (Nat × Node Nat)) (StateT Nat (Except Fault))

namespace Reading

/-- The reading of a whole document; `read` is given its root, if there is one. -/
def run {α : Type} (doc : Document) (read : Option (Node Nat) → Reading α) : Except Fault α :=
  ((ReaderT.run (read doc.root) doc.anchors).run doc.aliasLimit).map (·.1)

/-- The node that an alias stands for; any other node stands for itself. -/
def follow : Node Nat → Reading (Node Nat)
  | .alias n => do
    match ← get with
    | 0 => throw .tooManyAliases
    | left + 1 =>
      set left
      match (← read).find? (·.1 = n) with
      | some (_, node) => return node
      | none => throw .unknownAlias
  | node => return node

end Reading

/-- How deep collections may be nested. -/
def maxDepth : Nat := 128

/-! ### Tags -/

/-- The tags that decide how a scalar is read. -/
inductive ScalarTag where
  | bool
  | int
  | float
  | null
  deriving DecidableEq

/-- The tag that a text names, if it decides how a scalar is read. -/
def ScalarTag.ofText? (tag : String) : Option ScalarTag :=
  if tag = "tag:yaml.org,2002:bool" then some bool
  else if tag = "tag:yaml.org,2002:int" then some int
  else if tag = "tag:yaml.org,2002:float" then some float
  else if tag = "tag:yaml.org,2002:null" then some null
  else none

/-- The tag of its own that a node puts on its value: one with an exclamation mark in front, which
    is left out unless it is all. -/
def ownTag? (tag : Option String) : Option String :=
  match tag.map String.toList with
  | some ['!'] => some "!"
  | some ('!' :: rest) => some (String.ofList rest)
  | _ => none

/-- The value of a scalar with one of the tags that decide how it is read. -/
def Value.ofTagged (tag : ScalarTag) (s : String) : Except Fault Value :=
  match tag with
  | .bool => ((boolWord? s).map Value.bool).elim (.error (.wrongKind "a boolean")) .ok
  | .int => (integerValue? s).getD (.error (.wrongKind "an integer"))
  | .float =>
    ((floatValue? s).map fun x => Value.number (.float x)).elim
      (.error (.wrongKind "a float")) .ok
  | .null => if isNullWord s then .ok .null else .error (.wrongKind "null")

/-! ### Values -/

/-- Add an entry to a mapping of which no key may repeat. -/
def addEntry (entries : List (Value × Value)) (key value : Value) :
    Except Fault (List (Value × Value)) :=
  if entries.any fun entry => key.sameKey entry.1 then .error .duplicateKey
  else .ok (entries ++ [(key, value)])

/-- The value of a node without its own tag; `child?` reads the nodes within, unless they are too
    deep. -/
def readContent (child? : Option (Node Nat → Reading Value)) : Node Nat → Reading Value
  | .alias _ => throw .unknownAlias
  | .scalar _ text isPlain => if isPlain then Value.ofPlain text else return .string text
  | .sequence _ items => do
    let some child := child? | throw .tooDeep
    return .sequence (← items.mapM child)
  | .mapping _ entries => do
    let some child := child? | throw .tooDeep
    let entries ← entries.foldlM (fun done (key, value) => do
      let key ← child key
      let value ← child value
      addEntry done key value) []
    return .mapping entries

/-- The tag of a node. -/
def Node.tag? : Node Nat → Option String
  | .alias _ => none
  | .scalar props _ _ => props.tag
  | .sequence props _ => props.tag
  | .mapping props _ => props.tag

/-- The value of a node that is no alias. -/
def readHere (child? : Option (Node Nat → Reading Value)) (node : Node Nat) : Reading Value :=
  match ownTag? node.tag? with
  | some tag => return .tagged tag (← readContent child? node)
  | none =>
    match node with
    | .scalar ⟨_, some tag⟩ text _ =>
      match ScalarTag.ofText? tag with
      | some tag => Value.ofTagged tag text
      | none => return .string text
    | node => readContent child? node

/-- The value of a node, with `room` levels of collections left. -/
def readValue : Nat → Node Nat → Reading Value
  | 0, node => do readHere none (← Reading.follow node)
  | room + 1, node => do readHere (some (readValue room)) (← Reading.follow node)

/-! ### Optional values and collections -/

/-- Whether a node that is no alias says that there is nothing. -/
def isAbsent : Node Nat → Except Fault Bool
  | .scalar props text true =>
    match props.tag with
    | some tag =>
      if ScalarTag.ofText? tag = some .null then
        if isNullWord text then .ok true else .error (.wrongKind "null")
      else .ok false
    | none => .ok (text.isEmpty || isNullWord text)
  | _ => .ok false

/-- A reading of a node that may be null; `read` is given a node that is no alias. -/
def readOptional {α : Type} (read : Node Nat → Reading α) (node : Node Nat) :
    Reading (Option α) := do
  let node ← Reading.follow node
  if ← isAbsent node then return none else return some (← read node)

/-- Whether a node counts as an empty collection. -/
def isEmptyScalar : Node Nat → Bool
  | .scalar _ text isPlain => text.isEmpty && isPlain
  | _ => false

/-- The text of a key. -/
def readKey (node : Node Nat) : Reading String := do
  match ← Reading.follow node with
  | .scalar _ text _ => return text
  | _ => throw (.wrongKind "a field name")

/-- The known fields among entries. None may be there twice. -/
def readEntries (known : List String) :
    List (Node Nat × Node Nat) → List (String × Node Nat) → Reading (List (String × Node Nat))
  | [], found => return found
  | (key, value) :: entries, found => do
    let name ← readKey key
    if name ∉ known then readEntries known entries found
    else if found.any (·.1 = name) then throw .duplicateKey
    else readEntries known entries (found ++ [(name, value)])

/-- The known fields of a mapping; nothing at all is a mapping without fields. -/
def readFields (known : List String) (node : Option (Node Nat)) :
    Reading (List (String × Node Nat)) := do
  match node with
  | none => return []
  | some node =>
    match ← Reading.follow node with
    | .mapping _ entries => readEntries known entries []
    | node => if isEmptyScalar node then return [] else throw (.wrongKind "a mapping")

/-- The items of a sequence, each one read by `read`. -/
def readItems {α : Type} (read : Node Nat → Reading α) (node : Node Nat) :
    Reading (List α) := do
  match ← Reading.follow node with
  | .sequence _ items => items.mapM read
  | node => if isEmptyScalar node then return [] else throw (.wrongKind "a sequence")

/-- An optional field among those found. -/
def readField {α : Type} (fields : List (String × Node Nat)) (name : String)
    (read : Node Nat → Reading α) : Reading (Option α) :=
  match fields.find? (·.1 = name) with
  | some (_, node) => readOptional read node
  | none => return none

end ZoneSync.Yaml
