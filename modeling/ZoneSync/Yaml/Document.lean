import ZoneSync.Yaml.Node
import ZoneSync.Yaml.Token.Lexer

namespace ZoneSync.Yaml

/-!
# Documents with resolved aliases

An alias stands for a node with its anchor. An anchor is numbered by how many different names came
before it, or by how many there are if its name came before; an alias takes the number that its name
has at that place, and stands for the last node of that number in the document.

* `Document` — the root of a text, the nodes with anchors, and the number of alias steps allowed;
* `Document.ofText` — the document of a text.
-/

/-- The numbers of the names of anchors. -/
abbrev AnchorNumbers := List (String × Nat)

namespace AnchorNumbers

/-- The number of a name. -/
def get? (names : AnchorNumbers) (name : String) : Option Nat :=
  (names.find? (·.1 = name)).map (·.2)

/-- Number a name anew. -/
def put (names : AnchorNumbers) (name : String) : AnchorNumbers × Nat :=
  let n := names.length
  if names.any (·.1 = name) then
    (names.map fun entry => if entry.1 = name then (name, n) else entry, n)
  else (names ++ [(name, n)], n)

/-- Number the anchor of properties. -/
def numberProps (names : AnchorNumbers) (props : Properties String) :
    AnchorNumbers × Properties Nat :=
  match props.anchor with
  | some name =>
    let (names, n) := names.put name
    (names, ⟨some n, props.tag⟩)
  | none => (names, ⟨none, props.tag⟩)

mutual

/-- Number the anchors and the aliases of a node, in reading order. -/
def number (names : AnchorNumbers) :
    Node String → Except Fault (Node Nat × AnchorNumbers)
  | .alias name =>
    match names.get? name with
    | some n => .ok (.alias n, names)
    | none => .error .unknownAlias
  | .scalar props text isPlain =>
    let (names, props) := names.numberProps props
    .ok (.scalar props text isPlain, names)
  | .sequence props items => do
    let (names, props) := names.numberProps props
    let (items, names) ← numberItems names items
    return (.sequence props items, names)
  | .mapping props entries => do
    let (names, props) := names.numberProps props
    let (entries, names) ← numberEntries names entries
    return (.mapping props entries, names)

/-- `number` for the items of a sequence. -/
def numberItems (names : AnchorNumbers) :
    List (Node String) → Except Fault (List (Node Nat) × AnchorNumbers)
  | [] => .ok ([], names)
  | item :: items => do
    let (item, names) ← number names item
    let (items, names) ← numberItems names items
    return (item :: items, names)

/-- `number` for the entries of a mapping. -/
def numberEntries (names : AnchorNumbers) :
    List (Node String × Node String) →
      Except Fault (List (Node Nat × Node Nat) × AnchorNumbers)
  | [] => .ok ([], names)
  | (key, value) :: entries => do
    let (key, names) ← number names key
    let (value, names) ← number names value
    let (entries, names) ← numberEntries names entries
    return ((key, value) :: entries, names)

end

end AnchorNumbers

namespace Node

/-- A node under its number, if it has an anchor. -/
def anchoredHere (props : Properties Nat) (node : Node Nat) : List (Nat × Node Nat) :=
  match props.anchor with
  | some n => [(n, node)]
  | none => []

mutual

/-- The nodes with an anchor, in reading order. -/
def anchored : Node Nat → List (Nat × Node Nat)
  | .alias _ => []
  | .scalar props text isPlain => anchoredHere props (.scalar props text isPlain)
  | .sequence props items =>
    anchoredHere props (.sequence props items) ++ anchoredItems items
  | .mapping props entries =>
    anchoredHere props (.mapping props entries) ++ anchoredEntries entries

/-- `anchored` for the items of a sequence. -/
def anchoredItems : List (Node Nat) → List (Nat × Node Nat)
  | [] => []
  | item :: items => anchored item ++ anchoredItems items

/-- `anchored` for the entries of a mapping. -/
def anchoredEntries : List (Node Nat × Node Nat) → List (Nat × Node Nat)
  | [] => []
  | (key, value) :: entries => anchored key ++ anchored value ++ anchoredEntries entries

end

end Node

/-- A document that can be read. -/
structure Document where
  /-- The whole content; nothing if the text holds no document. -/
  root : Option (Node Nat)
  /-- The nodes that aliases may stand for, the last one first. -/
  anchors : List (Nat × Node Nat)
  /-- How many aliases may be followed while the document is read. -/
  aliasLimit : Nat

/-- The document of a text. -/
def Document.ofText (text : String) : Except Fault Document := do
  let tokens ← Token.ofText text.toList
  match ← Node.ofTokens tokens with
  | none => return ⟨none, [], 0⟩
  | some node =>
    let (root, _) ← AnchorNumbers.number [] node
    return ⟨some root, root.anchored.reverse, 100 * root.events⟩

end ZoneSync.Yaml
