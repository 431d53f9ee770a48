import ZoneSync.Yaml.Token

namespace ZoneSync.Yaml

/-!
# Nodes of YAML documents

* `Node` — a scalar, a sequence, a mapping or an alias, before it is known what its scalars mean;
* `Node.ofTokens` — the only document of a text, or nothing if the text holds none;
* `Node.events` — how much there is to read in a node.
-/

/-- The anchor and the tag of a node. -/
structure Properties (ρ : Type) where
  anchor : Option ρ := none
  tag : Option String := none
  deriving Repr

/-- A node; anchors and aliases are named by `ρ`. -/
inductive Node (ρ : Type) where
  | alias (target : ρ)
  | scalar (props : Properties ρ) (text : String) (isPlain : Bool)
  | sequence (props : Properties ρ) (items : List (Node ρ))
  | mapping (props : Properties ρ) (entries : List (Node ρ × Node ρ))
  deriving Repr

namespace Node

/-- A scalar without any text. -/
def empty {ρ : Type} (props : Properties ρ := {}) : Node ρ := .scalar props "" true

/-! ### Tags -/

/-- What the shorthands of tags stand for. -/
abbrev Handles := List (String × String)

/-- The shorthands that every document has. -/
def defaultHandles : Handles := [("!", "!"), ("!!", "tag:yaml.org,2002:")]

/-- The tag of a handle and a suffix. -/
def fullTag (handles : Handles) (handle suffix : String) : Except Fault String :=
  if handle.isEmpty then .ok suffix
  else
    match handles.find? (·.1 = handle) with
    | some (_, text) => .ok (text ++ suffix)
    | none => .error .badTag

/-- The properties at the beginning of tokens: an anchor and a tag in either order. -/
def properties (handles : Handles) :
    List Token → Except Fault (Properties String × List Token)
  | .anchor a :: .tag h s :: ts => do return (⟨some a, some (← fullTag handles h s)⟩, ts)
  | .anchor a :: ts => .ok (⟨some a, none⟩, ts)
  | .tag h s :: .anchor a :: ts => do return (⟨some a, some (← fullTag handles h s)⟩, ts)
  | .tag h s :: ts => do return (⟨none, some (← fullTag handles h s)⟩, ts)
  | ts => .ok ({}, ts)

/-! ### From tokens

Each function reads a part of a document and gives it with the tokens after it. Each call takes a
token or hands over to one that does, and `fuel` counts the calls. -/

/-- What ends the value of a block mapping. -/
def endsBlockValue : List Token → Bool
  | .key :: _ | .value :: _ | .blockEnd :: _ => true
  | _ => false

/-- What ends the entry of a sequence without indentation. -/
def endsFlatEntry : List Token → Bool
  | .blockEntry :: _ => true
  | ts => endsBlockValue ts

/-- What ends the entry of an indented sequence. -/
def endsBlockEntry : List Token → Bool
  | .blockEntry :: _ | .blockEnd :: _ => true
  | _ => false

/-- What ends the value of an entry in a flow collection. -/
def endsFlowValue : List Token → Bool
  | .flowEntry :: _ | .flowSequenceEnd :: _ | .flowMappingEnd :: _ => true
  | _ => false

/-- Which nodes may stand at a place. -/
inductive Place where
  /-- A value of a block mapping, where a sequence needs no indentation. -/
  | blockValue
  | block
  | flow
  deriving DecidableEq

mutual

/-- A node. -/
def read (handles : Handles) :
    Nat → Place → List Token → Except Fault (Node String × List Token)
  | 0, _, _ => .error .missingNode
  | _ + 1, _, .alias name :: ts => .ok (.alias name, ts)
  | fuel + 1, place, ts => do
    let (props, ts) ← properties handles ts
    match ts with
    | .blockEntry :: _ =>
      if place = .blockValue then
        let (items, ts) ← readFlatSequence handles fuel ts
        return (.sequence props items, ts)
      else readAbsent props ts
    | .scalar text isPlain :: ts => return (.scalar props text isPlain, ts)
    | .flowSequence :: ts =>
      let (items, ts) ← readFlowSequence handles fuel true ts
      return (.sequence props items, ts)
    | .flowMapping :: ts =>
      let (entries, ts) ← readFlowMapping handles fuel true ts
      return (.mapping props entries, ts)
    | .blockSequence :: rest =>
      if place = .flow then readAbsent props ts
      else
        let (items, ts) ← readBlockSequence handles fuel rest
        return (.sequence props items, ts)
    | .blockMapping :: rest =>
      if place = .flow then readAbsent props ts
      else
        let (entries, ts) ← readBlockMapping handles fuel rest
        return (.mapping props entries, ts)
    | ts => readAbsent props ts

/-- No content: its properties alone make a scalar without text. -/
def readAbsent (props : Properties String) (ts : List Token) :
    Except Fault (Node String × List Token) :=
  if props.anchor.isSome || props.tag.isSome then .ok (.empty props, ts) else .error .missingNode

/-- A node, unless it is left out. -/
def readUnless (handles : Handles) (left : List Token → Bool) :
    Nat → Place → List Token → Except Fault (Node String × List Token)
  | 0, _, _ => .error .missingNode
  | fuel + 1, place, ts => if left ts then .ok (.empty, ts) else read handles fuel place ts

/-- The entries of an indented sequence. -/
def readBlockSequence (handles : Handles) :
    Nat → List Token → Except Fault (List (Node String) × List Token)
  | 0, _ => .error .openCollection
  | fuel + 1, .blockEntry :: ts => do
    let (item, ts) ← readUnless handles endsBlockEntry fuel .block ts
    let (items, ts) ← readBlockSequence handles fuel ts
    return (item :: items, ts)
  | _ + 1, .blockEnd :: ts => .ok ([], ts)
  | _ + 1, _ => .error .openCollection

/-- The entries of a sequence without indentation of its own. -/
def readFlatSequence (handles : Handles) :
    Nat → List Token → Except Fault (List (Node String) × List Token)
  | 0, _ => .error .openCollection
  | fuel + 1, .blockEntry :: ts => do
    let (item, ts) ← readUnless handles endsFlatEntry fuel .block ts
    let (items, ts) ← readFlatSequence handles fuel ts
    return (item :: items, ts)
  | _ + 1, ts => .ok ([], ts)

/-- The entries of a block mapping. -/
def readBlockMapping (handles : Handles) :
    Nat → List Token → Except Fault (List (Node String × Node String) × List Token)
  | 0, _ => .error .openCollection
  | fuel + 1, .key :: ts => do
    let (key, ts) ← readUnless handles endsBlockValue fuel .blockValue ts
    let (value, ts) ←
      match ts with
      | .value :: ts => readUnless handles endsBlockValue fuel .blockValue ts
      | ts => .ok (.empty, ts)
    let (entries, ts) ← readBlockMapping handles fuel ts
    return ((key, value) :: entries, ts)
  | _ + 1, .blockEnd :: ts => .ok ([], ts)
  | _ + 1, _ => .error .openCollection

/-- The value after a colon of a flow collection, if there is one. -/
def readFlowValue (handles : Handles) :
    Nat → List Token → Except Fault (Node String × List Token)
  | 0, _ => .error .missingNode
  | fuel + 1, .value :: ts => readUnless handles endsFlowValue fuel .flow ts
  | _ + 1, ts => .ok (.empty, ts)

/-- The entries of a flow sequence; the first one has no comma in front. A key makes its entry a
    mapping; if it is left out, the token that shows this is passed over. -/
def readFlowSequence (handles : Handles) :
    Nat → Bool → List Token → Except Fault (List (Node String) × List Token)
  | 0, _, _ => .error .openCollection
  | _ + 1, _, .flowSequenceEnd :: ts => .ok ([], ts)
  | fuel + 1, false, .flowEntry :: ts => readFlowSequence handles fuel true ts
  | _ + 1, false, _ => .error .openCollection
  | fuel + 1, true, .key :: ts => do
    let (key, ts) ←
      match ts with
      | .value :: ts | .flowEntry :: ts | .flowSequenceEnd :: ts => .ok (.empty, ts)
      | ts => read handles fuel .flow ts
    let (value, ts) ← readFlowValue handles fuel ts
    let (items, ts) ← readFlowSequence handles fuel false ts
    return (.mapping {} [(key, value)] :: items, ts)
  | fuel + 1, true, ts => do
    let (item, ts) ← read handles fuel .flow ts
    let (items, ts) ← readFlowSequence handles fuel false ts
    return (item :: items, ts)

/-- The entries of a flow mapping; the first one has no comma in front. -/
def readFlowMapping (handles : Handles) :
    Nat → Bool → List Token → Except Fault (List (Node String × Node String) × List Token)
  | 0, _, _ => .error .openCollection
  | _ + 1, _, .flowMappingEnd :: ts => .ok ([], ts)
  | fuel + 1, false, .flowEntry :: ts => readFlowMapping handles fuel true ts
  | _ + 1, false, _ => .error .openCollection
  | fuel + 1, true, .key :: ts => do
    let (key, ts) ←
      match ts with
      | .value :: _ | .flowEntry :: _ | .flowMappingEnd :: _ => .ok (.empty, ts)
      | ts => read handles fuel .flow ts
    let (value, ts) ← readFlowValue handles fuel ts
    let (entries, ts) ← readFlowMapping handles fuel false ts
    return ((key, value) :: entries, ts)
  | fuel + 1, true, ts => do
    let (key, ts) ← read handles fuel .flow ts
    let (entries, ts) ← readFlowMapping handles fuel false ts
    return ((key, .empty) :: entries, ts)

end

/-! ### Documents -/

/-- The directives at the beginning of a document, and what they declare. -/
def readDirectives : List Token → Bool → Handles → Except Fault (Handles × List Token)
  | .version major minor :: ts, versioned, handles =>
    if versioned || major ≠ 1 || (minor ≠ 1 && minor ≠ 2) then .error .badDirective
    else readDirectives ts true handles
  | .tagHandle handle text :: ts, versioned, handles =>
    if handles.any (·.1 = handle) then .error .badDirective
    else readDirectives ts versioned (handles ++ [(handle, text)])
  | ts, _, handles => .ok (handles ++ defaultHandles, ts)

/-- Whether tokens begin with a directive. -/
def startsDirective : List Token → Bool
  | .version _ _ :: _ | .tagHandle _ _ :: _ => true
  | _ => false

/-- Whether a document ends before any content. -/
def endsDocument : List Token → Bool
  | [] | .documentStart :: _ | .documentEnd :: _ => true
  | ts => startsDirective ts

/-- The document of a text, if it has one; a text with more has none that can be read. -/
def ofTokens (ts : List Token) : Except Fault (Option (Node String)) := do
  let fuel := 4 * ts.length + 4
  if ts.isEmpty then return none
  let (node, rest) ←
    if startsDirective ts || ts.head? = some .documentStart then do
      let (handles, ts) ← readDirectives ts false []
      let .documentStart :: ts := ts | throw .extraDocument
      if endsDocument ts then pure (.empty, ts) else read handles fuel .block ts
    else read defaultHandles fuel .block ts
  if rest.all (· = .documentEnd) then return some node else throw .extraDocument

mutual

/-- How much there is to read in a node: a scalar or an alias counts once, a collection twice. -/
def events {ρ : Type} : Node ρ → Nat
  | .alias _ => 1
  | .scalar _ _ _ => 1
  | .sequence _ items => 2 + eventsOfItems items
  | .mapping _ entries => 2 + eventsOfEntries entries

/-- The count for the items of a sequence. -/
def eventsOfItems {ρ : Type} : List (Node ρ) → Nat
  | [] => 0
  | item :: items => events item + eventsOfItems items

/-- The count for the entries of a mapping. -/
def eventsOfEntries {ρ : Type} : List (Node ρ × Node ρ) → Nat
  | [] => 0
  | (key, value) :: entries => events key + events value + eventsOfEntries entries

end

end Node

end ZoneSync.Yaml
