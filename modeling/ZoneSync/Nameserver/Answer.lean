import ZoneSync.Address.Ip
import ZoneSync.Nameserver.DnsName
import ZoneSync.Record.Type
import ZoneSync.Text.Utf8

namespace ZoneSync.Nameserver

/-!
# Questions and answers

* `QueryType` — the types that can be asked for, and `QueryType.of?`, the one of a record type;
* `Answer` — the data of an answer;
* `Answer.text?` — its text as resolvers give it.

What is answered may be of another type than what was asked for. It has a text all the same, and is
left to the comparison.
-/

/-- A type that can be asked for. -/
inductive QueryType where
  | a
  | aaaa
  | cname
  | mx
  | txt
  | ns
  | srv
  | caa
  deriving DecidableEq, Repr

namespace QueryType

/-- The name of a type. -/
def name : QueryType → String
  | a => "A"
  | aaaa => "AAAA"
  | cname => "CNAME"
  | mx => "MX"
  | txt => "TXT"
  | ns => "NS"
  | srv => "SRV"
  | caa => "CAA"

/-- The type to ask for, unless it is not known. -/
def of? : RecordType → Option QueryType
  | .a => some a
  | .aaaa => some aaaa
  | .cname => some cname
  | .mx => some mx
  | .txt => some txt
  | .ns => some ns
  | .srv => some srv
  | .caa => some caa
  | .other _ => none

end QueryType

/-- The data of an answer. -/
inductive Answer where
  | a (address : Ipv4)
  | aaaa (address : Ipv6)
  | cname (host : DnsName)
  | ns (host : DnsName)
  | mx (preference : UInt16) (exchange : DnsName)
  /-- The character strings of a text record. -/
  | txt (strings : List (List UInt8))
  | srv (priority weight port : UInt16) (target : DnsName)
  /-- Data of a type that has no text here. -/
  | other
  deriving DecidableEq, Repr

namespace Answer

/-- The type of an answer, if it is one of those that can be asked for and have a text. -/
def type? : Answer → Option QueryType
  | a _ => some .a
  | aaaa _ => some .aaaa
  | cname _ => some .cname
  | ns _ => some .ns
  | mx _ _ => some .mx
  | txt _ => some .txt
  | srv _ _ _ _ => some .srv
  | other => none

/-- The text of an answer. The strings of a text record are put together without quotes, each
    decoded on its own. -/
def text? : Answer → Option String
  | a address => some address.toString
  | aaaa address => some address.toString
  | cname host => some host.toString
  | ns host => some host.toString
  | mx preference exchange => some (Nat.repr preference.toNat ++ " " ++ exchange.toString)
  | txt strings => some (String.join (strings.map Text.decodeLossy))
  | srv priority weight port target =>
    some (Nat.repr priority.toNat ++ " " ++ Nat.repr weight.toNat ++ " " ++
      Nat.repr port.toNat ++ " " ++ target.toString)
  | other => none

end Answer

end ZoneSync.Nameserver
