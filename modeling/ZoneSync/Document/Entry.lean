import ZoneSync.Yaml.Reading

namespace ZoneSync

open Yaml

/-!
# Entries of a document

An entry is a record as it is written: every field holds any value, or is left out.

* `Entry` — the fields;
* `Entry.ofNode` — the entry of a mapping; keys that are no fields are passed over;
* `Entry.label` — the name and the type, for messages.
-/

/-- A record as it is written. -/
structure Entry where
  name : Option Value := none
  type : Option Value := none
  content : Option Value := none
  ttl : Option Value := none
  proxied : Option Value := none
  comment : Option Value := none
  priority : Option Value := none
  weight : Option Value := none
  port : Option Value := none
  target : Option Value := none
  deriving Repr

namespace Entry

/-- The keys of the fields. -/
def fieldNames : List String :=
  ["name", "type", "content", "ttl", "proxied", "comment", "priority", "weight", "port", "target"]

/-- The fields in the order of their keys. -/
def fields (e : Entry) : List (String × Option Value) :=
  fieldNames.zip [e.name, e.type, e.content, e.ttl, e.proxied, e.comment, e.priority, e.weight,
    e.port, e.target]

/-- The entry of a mapping, with `room` levels of collections left within it. -/
def ofNode (room : Nat) (node : Option (Node Nat)) : Reading Entry := do
  let found ← readFields fieldNames node
  let field (name : String) : Reading (Option Value) := readField found name (readValue room)
  return {
    name := ← field "name"
    type := ← field "type"
    content := ← field "content"
    ttl := ← field "ttl"
    proxied := ← field "proxied"
    comment := ← field "comment"
    priority := ← field "priority"
    weight := ← field "weight"
    port := ← field "port"
    target := ← field "target" }

/-- The only entry of a text. -/
def ofText (text : String) : Except Fault Entry := do
  let doc ← Yaml.Document.ofText text
  Reading.run doc (ofNode (maxDepth - 1))

/-- The name and the type of an entry. -/
def label (e : Entry) : String :=
  (e.name.bind Value.text?).getD "unnamed" ++ " (" ++
    (e.type.bind Value.text?).getD "unknown" ++ ")"

end Entry

end ZoneSync
