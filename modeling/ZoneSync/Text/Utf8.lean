namespace ZoneSync.Text

/-!
# Octets as text

* `decodeOctets` — the characters of octets in UTF-8; each longest piece of an ill-formed sequence
  that could begin a character counts as one that is missing;
* `decodeUtf8?` — the text of octets that are well-formed;
* `decodeLossy` — the text of any octets, with the replacement character for the missing ones.
-/

/-- How a character begins: the bits of its first octet, how many octets follow, and the bounds of
    the next one. -/
structure Lead where
  bits : Nat
  more : Nat
  low : Nat := 0x80
  high : Nat := 0xBF

/-- The lead that an octet is, if a character can begin with it. -/
def Lead.of? (o : UInt8) : Option Lead :=
  let n := o.toNat
  if n < 0x80 then some { bits := n, more := 0 }
  else if n < 0xC2 then none
  else if n < 0xE0 then some { bits := n - 0xC0, more := 1 }
  else if n = 0xE0 then some { bits := 0, more := 2, low := 0xA0 }
  else if n = 0xED then some { bits := 0xD, more := 2, high := 0x9F }
  else if n < 0xF0 then some { bits := n - 0xE0, more := 2 }
  else if n = 0xF0 then some { bits := 0, more := 3, low := 0x90 }
  else if n < 0xF4 then some { bits := n - 0xF0, more := 3 }
  else if n = 0xF4 then some { bits := 4, more := 3, high := 0x8F }
  else none

/-- The code of a character of which `code` is read and `more` octets follow, the next one within
    bounds; also the octets after it, or after the part of it that is there. -/
def continueChar : Nat → Nat → Nat → Nat → List UInt8 → Option Nat × List UInt8
  | 0, _, _, code, os => (some code, os)
  | _ + 1, _, _, _, [] => (none, [])
  | more + 1, low, high, code, o :: os =>
    if low ≤ o.toNat ∧ o.toNat ≤ high then
      continueChar more 0x80 0xBF (code * 64 + (o.toNat - 0x80)) os
    else (none, o :: os)

/-- The octets after a character are no more than before. -/
theorem length_continueChar_le (more low high code : Nat) (os : List UInt8) :
    (continueChar more low high code os).2.length ≤ os.length := by
  induction more generalizing low high code os with
  | zero => simp [continueChar]
  | succ more ih =>
    cases os with
    | nil => simp [continueChar]
    | cons o os =>
      unfold continueChar
      split
      · exact Nat.le_succ_of_le (ih ..)
      · simp

/-- The characters of octets; one that is ill-formed is missing. -/
def decodeOctets : List UInt8 → List (Option Char)
  | [] => []
  | o :: os =>
    match Lead.of? o with
    | none => none :: decodeOctets os
    | some lead =>
      (continueChar lead.more lead.low lead.high lead.bits os).1.map Char.ofNat ::
        decodeOctets (continueChar lead.more lead.low lead.high lead.bits os).2
termination_by os => os.length
decreasing_by
  · simp
  · exact Nat.lt_succ_of_le (length_continueChar_le ..)

/-- The text of octets, if they are well-formed. -/
def decodeUtf8? (os : List UInt8) : Option String :=
  ((decodeOctets os).mapM id).map String.ofList

/-- The text of octets, with replacement characters for what is ill-formed. -/
def decodeLossy (os : List UInt8) : String :=
  String.ofList ((decodeOctets os).map (·.getD '\ufffd'))

end ZoneSync.Text
