import ZoneSync.Address.Ipv6

namespace ZoneSync

/-!
# Addresses of either family

* `Ip.parse?` — an IPv4 address if the text is one, else an IPv6 address;
* `Ip.socket` — the text of an address with a port.
-/

/-- An internet address. -/
inductive Ip where
  | v4 (a : Ipv4)
  | v6 (a : Ipv6)
  deriving DecidableEq, Repr

namespace Ip

/-- The address that the whole text writes. -/
def parse? (s : String) : Option Ip :=
  match Ipv4.parse? s with
  | some a => some (.v4 a)
  | none => (Ipv6.parse? s).map .v6

/-- The wording for a text that is no address. -/
def syntaxMessage : String :=
  "invalid IP address syntax"

/-- The canonical text of an address. -/
def toString : Ip → String
  | .v4 a => a.toString
  | .v6 a => a.toString

instance : ToString Ip := ⟨toString⟩

/-- The text of an address with a port; an IPv6 address stands in brackets. -/
def socket (a : Ip) (port : Nat) : String :=
  match a with
  | .v4 a => a.toString ++ ":" ++ Nat.repr port
  | .v6 a => "[" ++ a.toString ++ "]:" ++ Nat.repr port

end Ip

end ZoneSync
