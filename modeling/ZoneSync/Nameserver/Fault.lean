import ZoneSync.Resolver

namespace ZoneSync.Nameserver

/-!
# Queries that have no answer

* `ResponseCode` — the code of a response, with its text;
* `QueryFault` — why a query has no answer;
* `QueryFault.toFailure` — what this means for a lookup: the name does not exist, it has no record
  of the type, or something else went wrong.
-/

/-- The code of a response. -/
structure ResponseCode where
  code : Nat
  deriving DecidableEq, Repr

namespace ResponseCode

/-- Nothing went wrong. -/
def noError : ResponseCode := ⟨0⟩

/-- The name does not exist. -/
def nameError : ResponseCode := ⟨3⟩

/-- The text of a code. -/
def toString (c : ResponseCode) : String :=
  match c.code with
  | 0 => "No Error"
  | 1 => "Form Error"
  | 2 => "Server Failure"
  | 3 => "Non-Existent Domain"
  | 4 => "Not Implemented"
  | 5 => "Query Refused"
  | 6 => "Name should not exist"
  | 7 => "RR Set should not exist"
  | 8 => "RR Set does not exist"
  | 9 => "Not authorized"
  | 10 => "Name not in zone"
  | 16 => "TSIG Failure"
  | 17 => "Key not recognized"
  | 18 => "Signature out of time window"
  | 19 => "Bad TKEY mode"
  | 20 => "Duplicate key name"
  | 21 => "Algorithm not supported"
  | 22 => "Bad truncation"
  | 23 => "Bad server cookie"
  | _ => "Unknown response code"

instance : ToString ResponseCode := ⟨toString⟩

end ResponseCode

/-- Why a query has no answer. -/
inductive QueryFault where
  /-- A response without a record that was asked for. -/
  | noRecords (code : ResponseCode)
  | timeout
  | noConnections
  /-- The question or the response is no message, or it cannot be carried. -/
  | protocol (reason : String)
  | message (text : String)
  deriving DecidableEq, Repr

/-- What a fault means for a lookup. -/
def QueryFault.toFailure : QueryFault → LookupFailure
  | noRecords code =>
    if code = .nameError then .nameNotFound
    else if code = .noError then .noRecords
    else .other ("server responded " ++ code.toString)
  | timeout => .other "timed out"
  | noConnections => .other "No connections available"
  | protocol reason => .other ("proto error: " ++ reason)
  | message text => .other text

end ZoneSync.Nameserver
