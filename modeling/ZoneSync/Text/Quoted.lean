import ZoneSync.Text.Digits
import ZoneSync.Text.Unprintable

namespace ZoneSync.Text

/-!
# Quoted text

* `quote` — a text between double quotes, on one line and of printable characters only;
* `quoteOption` — an optional text, in the same way.
-/

/-- The form of a character between double quotes. -/
def quoteChar (c : Char) : List Char :=
  match c with
  | '\x22' => ['\\', '\x22']
  | '\\' => ['\\', '\\']
  | '\n' => ['\\', 'n']
  | '\r' => ['\\', 'r']
  | '\t' => ['\\', 't']
  | '\x00' => ['\\', '0']
  | c => if isUnprintable c then '\\' :: 'u' :: '\x7b' :: digitsOf 16 c.toNat ++ ['\x7d'] else [c]

/-- A text between double quotes. -/
def quote (s : String) : String :=
  String.ofList ('\x22' :: s.toList.flatMap quoteChar ++ ['\x22'])

/-- An optional text. -/
def quoteOption : Option String → String
  | some s => "Some(" ++ quote s ++ ")"
  | none => "None"

end ZoneSync.Text
