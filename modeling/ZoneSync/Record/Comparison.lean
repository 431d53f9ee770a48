import ZoneSync.Address.Ip
import ZoneSync.Record.Basic

namespace ZoneSync

open Text

/-!
# When two records say the same

Whether a live record has to be changed is decided on the values alone, each type in its own way:
addresses of IPv6 by the address they write, host names up to case and final dots, text up to the
quotes around it.

* `unquote` — a text without the quotes at its ends;
* `RecordType.sameContent` — flat contents of a type;
* `Service.same` — service data;
* `Record.sameValue` — whole records: the values, the preference of mail records, and the proxy
  setting as it is applied.
-/

/-- The text without the double quotes at its ends. -/
def unquote (text : String) : String :=
  String.ofList (strip (· = '\x22') text.toList)

/-- Whether two contents say the same in a record of the type. -/
def RecordType.sameContent (type : RecordType) (x y : String) : Bool :=
  match type with
  | .txt => unquote x = unquote y
  | .aaaa =>
    match Ipv6.parse? x, Ipv6.parse? y with
    | some v, some w => v = w
    | _, _ => x = y
  | .cname | .mx | .ns => Name.normalize x = Name.normalize y
  | _ => x = y

/-- Whether two services are the same; the targets are host names. -/
def Service.same (x y : Service) : Bool :=
  x.priority = y.priority && x.weight = y.weight && x.port = y.port &&
    Name.normalize x.target = Name.normalize y.target

/-- Whether the value of `y` is as good as that of `x`. Times to live and comments are left out. -/
def Record.sameValue (x y : Record) : Bool :=
  x.effectiveProxied = y.effectiveProxied &&
    match x.value, y.value with
    | .service a, .service b => a.same b
    | .content a, .content b =>
      x.type.sameContent a b && (x.type ≠ .mx || x.priority = y.priority)
    | _, _ => false

end ZoneSync
