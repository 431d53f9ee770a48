import ZoneSync.Text.Strip

namespace ZoneSync

open Text

/-!
# Domain names

Names are kept as they are written; two spellings of one name have the same normal form.

* `Name.normalize` — lower case for the ASCII letters, no dots at the end;
* `Name.qualify` — the full name of a record declared relative to a domain;
* `Name.inDomain` — whether a full name is the domain or lies under it.
-/

namespace Name

/-- The relative name of the domain itself. -/
def apex : String := "@"

/-- The normal form of a list of characters: no dots at the end, ASCII letters in lower case. -/
def normalizeChars (cs : List Char) : List Char :=
  (stripEnd (· = '.') cs).map Char.toLower

/-- The normal form of a host name. -/
def normalize (name : String) : String :=
  String.ofList (normalizeChars name.toList)

@[simp] theorem toList_normalize (name : String) :
    (normalize name).toList = normalizeChars name.toList := by
  simp [normalize]

/-- The full name of a record: the domain for `@`, else the name under the domain. -/
def qualify (name domain : String) : String :=
  if name = apex then domain else name ++ "." ++ domain

/-- The apex is the domain itself. -/
@[simp] theorem qualify_apex (domain : String) : qualify apex domain = domain := if_pos rfl

/-- Whether a full name is the domain or ends in a dot and the domain, up to normal forms. -/
def inDomain (name domain : String) : Bool :=
  let n := normalizeChars name.toList
  let d := normalizeChars domain.toList
  n = d || ('.' :: d).isSuffixOf n

end Name

end ZoneSync
