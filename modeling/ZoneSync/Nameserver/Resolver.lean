import ZoneSync.Config.Basic
import ZoneSync.Nameserver.Answer
import ZoneSync.Nameserver.Fault
import ZoneSync.Text.Quoted

namespace ZoneSync.Nameserver

/-!
# Resolvers of single nameservers

Each resolver asks one nameserver, so that every nameserver is seen on its own.

* `Server` — a nameserver, where it is asked and how long it may take;
* `Network` — carries questions, in a monad;
* `Server.resolver` — the resolver of a nameserver;
* `resolvers` — the resolvers of a configuration.
-/

/-- How a question travels. -/
inductive Protocol where
  | udp
  | tcp
  deriving DecidableEq, Repr

/-- The name of a protocol. -/
def Protocol.name : Protocol → String
  | udp => "udp"
  | tcp => "tcp"

/-- The port of nameservers. -/
def port : Nat := 53

/-- A nameserver. -/
structure Server where
  address : Ip
  /-- The longest time of a lookup, in seconds. -/
  timeout : UInt64
  deriving DecidableEq, Repr

/-- Carries a question to a nameserver and brings back the answers. -/
abbrev Network (m : Type → Type) :=
  Server → DnsName → QueryType → m (Except QueryFault (List Answer))

namespace Server

/-- The name of a nameserver: the text of its address. -/
def name (s : Server) : String := s.address.toString

/-- Where a nameserver is asked, in order. -/
def endpoints (s : Server) : List (String × Protocol) :=
  [(s.address.socket port, .udp), (s.address.socket port, .tcp)]

/-- The text of a nameserver on one line. -/
def describe (s : Server) : String :=
  "HickoryResolver \x7b name: " ++ Text.quote s.name ++ " \x7d"

variable {m : Type → Type} [Monad m]

/-- Look a name up. The name is taken as absolute, and answers without a text do not count. -/
def lookup (s : Server) (network : Network m) (name : String) (type : RecordType) :
    m (Except LookupFailure (List String)) :=
  match QueryType.of? type, DnsName.read (DnsName.absoluteText name) with
  | none, _ => return .error (.other ("unsupported record type " ++ type.name))
  | some _, .error fault => return .error (QueryFault.protocol fault.message).toFailure
  | some queryType, .ok name => do
    match ← network s name queryType with
    | .error fault => return .error fault.toFailure
    | .ok answers =>
      let texts := answers.filterMap Answer.text?
      if texts.isEmpty then return .error .noRecords
      else return .ok texts

/-- The resolver of a nameserver. -/
def resolver (s : Server) (network : Network m) : Resolver m where
  name := s.name
  lookup := s.lookup network

end Server

/-- The nameservers of a configuration, in order. -/
def servers (c : VerifierConfig) : List Server :=
  c.resolvers.map (⟨·, c.timeout⟩)

/-- The resolvers of a configuration, in order. -/
def resolvers {m : Type → Type} [Monad m] (c : VerifierConfig) (network : Network m) :
    List (Resolver m) :=
  (servers c).map (·.resolver network)

end ZoneSync.Nameserver
