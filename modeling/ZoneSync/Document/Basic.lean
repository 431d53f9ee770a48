import ZoneSync.Document.Entry
import ZoneSync.Error
import ZoneSync.Text.Blank

namespace ZoneSync

open Yaml

/-!
# Desired-state documents

A document names a domain and lists entries in four sections.

* `Section`, `Location` — where an entry stands;
* `Document` — a document that was read but not checked;
* `Document.ofText`, `Document.ofSource` — the document of a text, and of a file that may be
  unreadable;
* `Document.entries` — all entries with their locations, section by section.
-/

/-! ### Places -/

/-- A section of a document. -/
inductive Section where
  | frontend
  | backend
  | bootstrap
  | srv
  deriving DecidableEq, Repr

namespace Section

/-- All sections, in the order in which they are processed. -/
def all : List Section := [frontend, backend, bootstrap, srv]

/-- The key of a section. -/
def name : Section → String
  | frontend => "frontend"
  | backend => "backend"
  | bootstrap => "bootstrap"
  | srv => "srv"

end Section

/-- The place of an entry in a document. -/
structure Location where
  part : Section
  index : Nat
  deriving DecidableEq, Repr

/-- The text of a place. -/
def Location.toString (l : Location) : String :=
  l.part.name ++ "[" ++ Nat.repr l.index ++ "]"

instance : ToString Location := ⟨Location.toString⟩

/-! ### Documents -/

/-- A document that was read but not checked. -/
structure Document where
  domain : Option Value := none
  frontend : List Entry := []
  backend : List Entry := []
  bootstrap : List Entry := []
  srv : List Entry := []
  deriving Repr

namespace Document

/-- The entries of a section. -/
def entriesOf (d : Document) : Section → List Entry
  | .frontend => d.frontend
  | .backend => d.backend
  | .bootstrap => d.bootstrap
  | .srv => d.srv

/-- The entries of one section with their locations. -/
def locatedIn (d : Document) (s : Section) : List (Location × Entry) :=
  (d.entriesOf s).zipIdx.map fun (entry, index) => (⟨s, index⟩, entry)

/-- All entries with their locations, in processing order. -/
def entries (d : Document) : List (Location × Entry) :=
  Section.all.flatMap d.locatedIn

/-- The number of entries. -/
def entryCount (d : Document) : Nat := d.entries.length

/-- The domain, if it is a string below its tags. -/
def domainText? (d : Document) : Option String := d.domain.bind Value.text?

/-! ### Reading -/

/-- The keys of a document. -/
def fieldNames : List String := "domain" :: Section.all.map Section.name

/-- The document of the root of a text. A document takes one level of collections, a section the
    second, and an entry the third. -/
def ofNode (node : Option (Node Nat)) : Reading Document := do
  let found ← readFields fieldNames node
  let readSection (s : Section) : Reading (List Entry) := do
    let entries ←
      readField found s.name (readItems fun node => Entry.ofNode (maxDepth - 3) (some node))
    return entries.getD []
  return {
    domain := ← readField found "domain" (readValue (maxDepth - 1))
    frontend := ← readSection .frontend
    backend := ← readSection .backend
    bootstrap := ← readSection .bootstrap
    srv := ← readSection .srv }

/-- The document of a text; a blank text is none. -/
def ofText (text : String) : Except Error Document :=
  if Text.isBlankText text then .error (.document "desired-state document is empty")
  else
    match Yaml.Document.ofText text >>= fun doc => Reading.run doc ofNode with
    | .ok document => .ok document
    | .error fault => .error (.yaml fault.message)

/-- The document of a file: its text, or why it cannot be read. -/
def ofSource : Except FileError String → Except Error Document
  | .ok text => ofText text
  | .error cause => .error (.io cause)

end Document

end ZoneSync
