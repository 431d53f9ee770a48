import ZoneSync.Text.Blank

namespace ZoneSync.Nameserver

/-!
# Names in questions and answers

A name is its labels, and whether it ends at the root. Letters of ASCII are taken in lower case,
apart from labels that begin with an underscore; letters beyond ASCII are taken as they are.

* `NameFault` — why a text is no name;
* `DnsName.read` — the name that a text writes, by the rules for hosts;
* `DnsName.readRelaxed` — the same, or else by the rules for labels alone;
* `DnsName.toString` — the text of a name.
-/

/-- Why a text is no name. -/
inductive NameFault where
  | strangeChar (c : Char)
  /-- A label with characters that no host has. -/
  | invalidLabel
  /-- A label with characters that no label has, or an empty one. -/
  | malformedLabel (label : String)
  | longLabel (octets : Nat)
  | longName (octets : Nat)
  deriving DecidableEq, Repr

/-- The wording of a fault. -/
def NameFault.message : NameFault → String
  | strangeChar c => "unrecognized char: " ++ String.singleton c
  | invalidLabel => "Label contains invalid characters: Err(Errors)"
  | malformedLabel label => "Malformed label: " ++ label
  | longLabel octets => "label bytes exceed 63: " ++ Nat.repr octets
  | longName octets => "name label data exceed 255: " ++ Nat.repr octets

/-! ### Labels -/

/-- The largest number of octets of a label. -/
def maxLabelLength : Nat := 63

/-- The largest number of octets of a name, with the lengths of its labels and the root. -/
def maxNameLength : Nat := 255

/-- Whether a character can stand in a label; only at the start or only after it for some. -/
def isLabelChar (isFirst : Bool) (c : Char) : Bool :=
  0x80 ≤ c.toNat || c.isAlphanum || c = '_' || (if isFirst then c = '*' else c = '-' || c = '.')

/-- Whether a text has the characters of a label. -/
def hasLabelChars (label : String) : Bool :=
  match label.toList with
  | [] => false
  | c :: cs => isLabelChar true c && cs.all (isLabelChar false)

/-- Whether a character can stand in the name of a host. -/
def isHostChar (c : Char) : Bool :=
  0x80 ≤ c.toNat || c.isAlphanum || c = '-'

/-- A label by the rules for labels alone. -/
def readLabel (label : String) : Except NameFault String :=
  if label = "*" then .ok label
  else if maxLabelLength < label.utf8ByteSize then .error (.longLabel label.utf8ByteSize)
  else if hasLabelChars label then .ok label
  else .error (.malformedLabel label)

/-- A label by the rules for hosts, unless it is the wildcard or begins with an underscore. -/
def readHostLabel (label : String) : Except NameFault String :=
  if label = "*" ∨ label.toList.head? = some '_' then readLabel label
  else if label.toList.all isHostChar then readLabel (Text.lowerAscii label)
  else .error .invalidLabel

/-! ### Names -/

/-- A name. -/
structure DnsName where
  labels : List String
  /-- Whether the name ends at the root. -/
  isAbsolute : Bool
  deriving DecidableEq, Repr

namespace DnsName

/-- The number of octets of a name on the wire. -/
def length (n : DnsName) : Nat :=
  n.labels.foldl (fun octets l => octets + l.utf8ByteSize + 1) 1

/-- Whether a character can stand in the text of a name. -/
def isNameChar (c : Char) : Bool :=
  !(c.toNat < 0x20 || (0x7F ≤ c.toNat && c.toNat < 0xA0) || Text.isBlank c)

/-- Read labels one after the other, of which `octets` are taken up so far. -/
def readLabels (readLabel : String → Except NameFault String) (octets : Nat) :
    List (List Char) → Except NameFault (List String)
  | [] => .ok []
  | piece :: pieces => do
    match piece.find? (!isNameChar ·) with
    | some c => throw (.strangeChar c)
    | none =>
      let label ← readLabel (String.ofList piece)
      let octets := octets + label.utf8ByteSize + 1
      if maxNameLength < octets then throw (.longName octets)
      let labels ← readLabels readLabel octets pieces
      return label :: labels

/-- The name that a text writes, with labels read by `readLabel`. The text of the root is a dot. -/
def readWith (readLabel : String → Except NameFault String) (s : String) :
    Except NameFault DnsName :=
  if s = "." then .ok ⟨[], true⟩
  else do
    let pieces := Text.splitOn '.' s.toList
    let isAbsolute := s.toList.getLast? = some '.'
    let pieces := if pieces.getLast? = some [] then pieces.dropLast else pieces
    return ⟨← readLabels readLabel 1 pieces, isAbsolute⟩

/-- The name that a text writes, by the rules for hosts. -/
def read (s : String) : Except NameFault DnsName :=
  readWith readHostLabel s

/-- The name that a text writes, by the rules for hosts or else by those for labels. -/
def readRelaxed (s : String) : Except NameFault DnsName :=
  match read s with
  | .ok n => .ok n
  | .error _ => readWith readLabel s

/-- The text of a name. -/
def toString (n : DnsName) : String :=
  ".".intercalate n.labels ++ if n.isAbsolute then "." else ""

instance : ToString DnsName := ⟨toString⟩

/-- A name, up to the root. -/
def absoluteText (name : String) : String :=
  String.ofList (Text.stripEnd (· = '.') name.toList) ++ "."

end DnsName

end ZoneSync.Nameserver
