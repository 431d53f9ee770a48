import Mathlib.Logic.Function.Basic
import ZoneSync.Proofs.Concurrency.Client

namespace ZoneSync

/-!
# Clients that share a zone

Any number of clients take turns with one zone, in any order. A turn is one request: reading all
records, or creating, updating or deleting one.

* `Event`, `System` — a request that was made, and a zone with its clients and all such requests;
* `System.step`, `System.run` — the turn of one client, and turns in the order of a schedule;
* `System.start` — clients that are all about to run one desired state;
* `Zone.serve_of_request?` — a turn within a plan is the answer to the next entry.
-/

/-- A request that was made: by whom, what for, and why it failed if it did. -/
structure Event (n : Nat) where
  client : Fin n
  request : Request
  failure : Option String
  deriving DecidableEq, Repr

/-- Whether an event is the one in which a record was deleted. -/
def Event.Deletes {n : Nat} (e : Event n) (id : String) : Prop :=
  e.request = .delete id ∧ e.failure = none

/-- A zone with its clients, and the requests so far. -/
structure System (n : Nat) where
  zone : Zone
  clients : Fin n → Client (Except Error (Plan × ApplyReport))
  log : List (Event n)

namespace System

variable {n : Nat}

/-- The turn of a client; one that is done lets it pass. -/
def step (sys : System n) (i : Fin n) : System n :=
  match sys.clients i with
  | .done _ => sys
  | .ask q next => {
      zone := (sys.zone.serve q).2
      clients := Function.update sys.clients i (next (sys.zone.serve q).1)
      log := sys.log ++ [⟨i, q, q.failure? (sys.zone.serve q).1⟩] }

/-- Turns in the order of a schedule. -/
def run (sys : System n) (schedule : List (Fin n)) : System n := schedule.foldl step sys

theorem run_cons (sys : System n) (i : Fin n) (schedule : List (Fin n)) :
    sys.run (i :: schedule) = (sys.step i).run schedule := rfl

theorem run_append (sys : System n) (earlier later : List (Fin n)) :
    sys.run (earlier ++ later) = (sys.run earlier).run later :=
  List.foldl_append

/-- Clients that are all about to run one desired state. -/
def start (n : Nat) (s : DesiredState) (z : Zone) : System n where
  zone := z
  clients := fun _ => Client.provider.sync s
  log := []

theorem step_of_done {sys : System n} {i : Fin n} {result : Except Error (Plan × ApplyReport)}
    (h : sys.clients i = .done result) : sys.step i = sys := by
  rw [step, h]

theorem step_of_ask {sys : System n} {i : Fin n} {q : Request}
    {next : q.Answer → Client (Except Error (Plan × ApplyReport))}
    (h : sys.clients i = .ask q next) :
    sys.step i = {
      zone := (sys.zone.serve q).2
      clients := Function.update sys.clients i (next (sys.zone.serve q).1)
      log := sys.log ++ [⟨i, q, q.failure? (sys.zone.serve q).1⟩] } := by
  rw [step, h]

end System

/-! ### Turns within a plan -/

/-- The request of an entry is answered as the entry is. -/
theorem Zone.serve_of_request? {c : Change} {q : Request} (h : c.action.request? = some q)
    (z : Zone) :
    (provider.answer c).run z = (q.outcome? c.key (z.serve q).1, (z.serve q).2) := by
  unfold Provider.answer
  cases hc : c.action with
  | unchanged id =>
    rw [hc] at h
    exact nomatch h
  | create r =>
    rw [hc] at h
    obtain rfl := Option.some.inj h
    rfl
  | update id r current =>
    rw [hc] at h
    obtain rfl := Option.some.inj h
    rfl
  | delete id current =>
    rw [hc] at h
    obtain rfl := Option.some.inj h
    rfl

/-- The outcome of an entry notes why its request failed. -/
theorem Zone.failure_serve {c : Change} {q : Request} (h : c.action.request? = some q) {z : Zone}
    {o : Outcome} (ho : ((provider.answer c).run z).1 = some o) :
    q.failure? (z.serve q).1 = o.failure := by
  rw [serve_of_request? h] at ho
  cases q with
  | list => exact nomatch ho
  | create r => rw [← Option.some.inj ho]
  | update id r => rw [← Option.some.inj ho]
  | delete id => rw [← Option.some.inj ho]

end ZoneSync
