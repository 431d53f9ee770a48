namespace ZoneSync.Text

/-!
# Digits and bounded whole numbers

* `digitValue?` — the value of a digit in a base up to 36;
* `digitsOf` — the digits of a number in a base;
* `readBounded` — a decimal number within a bound, read from the left: the first character that is
  no digit, or the first digit that takes the number past the bound, decides the error.
-/

/-- The value of a digit or of an ASCII letter used as a digit, below the base. -/
def digitValue? (base : Nat) (c : Char) : Option Nat :=
  let n := c.toNat
  let value? :=
    if 0x30 ≤ n ∧ n ≤ 0x39 then some (n - 0x30)
    else if 0x61 ≤ n ∧ n ≤ 0x7A then some (n - 0x61 + 10)
    else if 0x41 ≤ n ∧ n ≤ 0x5A then some (n - 0x41 + 10)
    else none
  value?.filter (· < base)

/-- Whether a character is a decimal digit of ASCII. -/
def isDigit (c : Char) : Bool :=
  (digitValue? 10 c).isSome

/-- The number written by `cs`, if all of its characters are digits of the base. -/
def readDigits? (base : Nat) (cs : List Char) : Option Nat :=
  cs.foldlM (fun n c => (digitValue? base c).map (base * n + ·)) 0

/-- The digits of `n`, most significant first, in lower case. -/
def digitsOf (base n : Nat) : List Char :=
  Nat.toDigits base n

/-! ### Bounded numbers -/

/-- Why a text is no whole number within a bound. -/
inductive NumberError where
  /-- There is nothing to read. -/
  | empty
  /-- A character is no digit. -/
  | invalidDigit
  /-- The number is past the bound. -/
  | tooLarge
  deriving DecidableEq, Repr

/-- The wording of a number error. -/
def NumberError.message : NumberError → String
  | .empty => "cannot parse integer from empty string"
  | .invalidDigit => "invalid digit found in string"
  | .tooLarge => "number too large to fit in target type"

/-- Continue reading decimal digits with `n` read so far. -/
def readBoundedFrom (bound n : Nat) : List Char → Except NumberError Nat
  | [] => .ok n
  | c :: rest =>
    match digitValue? 10 c with
    | none => .error .invalidDigit
    | some d =>
      if 10 * n + d ≤ bound then readBoundedFrom bound (10 * n + d) rest else .error .tooLarge

/-- The decimal number of a text, at most `bound`; one plus sign may precede the digits. -/
def readBounded (bound : Nat) (s : String) : Except NumberError Nat :=
  match s.toList with
  | [] => .error .empty
  | ['+'] => .error .invalidDigit
  | '+' :: digits => readBoundedFrom bound 0 digits
  | digits => readBoundedFrom bound 0 digits

/-- A number read within a bound is within it. -/
theorem le_of_readBoundedFrom {bound n m : Nat} {cs : List Char} (hn : n ≤ bound)
    (h : readBoundedFrom bound n cs = .ok m) : m ≤ bound := by
  induction cs generalizing n with
  | nil => simp only [readBoundedFrom, Except.ok.injEq] at h; omega
  | cons c rest ih =>
    unfold readBoundedFrom at h
    split at h
    · simp at h
    · split at h
      · exact ih ‹_› h
      · simp at h

/-- The preference, weight and port numbers of records: 16 bits. -/
def readUInt16 (s : String) : Except NumberError UInt16 :=
  (readBounded 0xFFFF s).map UInt16.ofNat

end ZoneSync.Text
