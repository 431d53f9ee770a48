import ZoneSync.Json.Decode
import ZoneSync.Json.Reader
import ZoneSync.Record.Basic
import ZoneSync.Text.Blank

namespace ZoneSync.Cloudflare

/-!
# What is answered

Every answer is an envelope: whether the request succeeded, the messages if it did not, the result,
and how many pages the whole result has.

* `Envelope` — an envelope, and its reader for any kind of result;
* `Entry` — a record as it is answered, and its reader;
* `Entry.toLive` — the record that it stands for;
* `identifier?` — the reader of things of which only the identifier counts.
-/

/-! ### Envelopes -/

/-- One of the messages of a request that did not succeed. -/
structure Message where
  code : Int
  text : String
  deriving DecidableEq, Repr

/-- An answer. -/
structure Envelope (α : Type) where
  success : Bool
  messages : List Message
  result : Option α
  /-- The number of pages; nothing if there is no word of pages. -/
  totalPages : Option UInt32
  deriving Repr

/-- The messages in one line. -/
def Envelope.summary {α : Type} (e : Envelope α) : String :=
  if e.messages.isEmpty then "request unsuccessful"
  else "; ".intercalate (e.messages.map fun m => m.text ++ " (" ++ toString m.code ++ ")")

/-- A message. -/
def Message.ofJson? (j : Json) : Option Message := do
  let fields ← j.fieldsOf? ["code", "message"]
  return {
    code := ← fields.orElse? "code" 0 Json.int64?
    text := ← fields.orElse? "message" "" Json.text? }

/-- The number of pages. -/
def totalPages? (j : Json) : Option UInt32 := do
  let fields ← j.fieldsOf? ["total_pages"]
  fields.orElse? "total_pages" 0 Json.uint32?

/-- The answer that a document holds, with the result read by `result?`. -/
def Envelope.ofJson? {α : Type} (result? : Json → Option α) (j : Json) : Option (Envelope α) := do
  let fields ← j.fieldsOf? ["success", "errors", "result", "result_info"]
  return {
    success := ← fields.orElse? "success" false Json.bool?
    messages := ← fields.orElse? "errors" [] (Json.listOf? Message.ofJson?)
    result := ← fields.nullable? "result" result?
    totalPages := ← fields.orElse? "result_info" none (Json.nullable? totalPages?) }

/-- The answer that a text holds. -/
def Envelope.ofText? {α : Type} (result? : Json → Option α) (s : String) : Option (Envelope α) :=
  (Json.read? s).bind (Envelope.ofJson? result?)

/-! ### Results -/

/-- The identifier of a zone or of a new record. -/
def identifier? (j : Json) : Option String := do
  let fields ← j.fieldsOf? ["id"]
  fields.required? "id" Json.text?

/-- A document that is kept as it is; it is `depth` levels inside of the answer. -/
def document? (depth : Nat) (j : Json) : Option Json :=
  if j.isStorable (Json.maxNesting - depth) then some j else none

/-- A record as it is answered. -/
structure Entry where
  id : String
  name : String
  type : String
  content : Option String
  ttl : Option UInt32
  proxied : Option Bool
  comment : Option String
  priority : Option UInt16
  data : Option Json
  deriving Repr

/-- A record in a list of records. -/
def Entry.ofJson? (j : Json) : Option Entry := do
  let fields ← j.fieldsOf?
    ["id", "name", "type", "content", "ttl", "proxied", "comment", "priority", "data"]
  let optional {α : Type} (key : String) (read? : Json → Option α) :=
    fields.orElse? key none (Json.nullable? read?)
  return {
    id := ← fields.required? "id" Json.text?
    name := ← fields.required? "name" Json.text?
    type := ← fields.required? "type" Json.text?
    content := ← optional "content" Json.text?
    ttl := ← optional "ttl" Json.uint32?
    proxied := ← optional "proxied" Json.bool?
    comment := ← optional "comment" Json.text?
    priority := ← optional "priority" Json.uint16?
    data := ← optional "data" (document? 3) }

/-! ### Records -/

/-- The service data of an object. Of keys that are repeated the last one counts. -/
def serviceOfJson? (j : Json) : Option Service := do
  let fields ← j.lastWins.fieldsOf? ["priority", "weight", "port", "target"]
  return {
    priority := ← fields.required? "priority" Json.uint16?
    weight := ← fields.required? "weight" Json.uint16?
    port := ← fields.required? "port" Json.uint16?
    target := ← fields.required? "target" Json.text? }

/-- The service data of content that gives weight, port and target, with the priority that stands
    elsewhere. -/
def serviceOfContent? (priority : Option UInt16) (content : String) : Option Service :=
  match Text.words content with
  | weight :: port :: target :: _ => do
    return {
      priority := ← priority
      weight := ← (Text.readUInt16 weight).toOption
      port := ← (Text.readUInt16 port).toOption
      target }
  | _ => none

namespace Entry

/-- The service data of a record: its own object, or what its content says. -/
def service? (e : Entry) : Option Service :=
  (e.data.bind serviceOfJson?).or (e.content.bind (serviceOfContent? e.priority))

/-- What a record says. -/
def value (e : Entry) : RecordValue :=
  let flat : RecordValue := .content (e.content.getD "")
  if RecordType.ofName e.type = .srv then (e.service?.map .service).getD flat else flat

/-- The record that an answer stands for. Only mail records keep their priority. -/
def toLive (e : Entry) : LiveRecord where
  id := e.id
  record := {
    name := e.name
    type := .ofName e.type
    value := e.value
    ttl := .ofWire (e.ttl.getD Ttl.autoWire)
    proxied := e.proxied
    comment := e.comment
    priority := if RecordType.ofName e.type = .mx then e.priority else none }

end Entry

end ZoneSync.Cloudflare
