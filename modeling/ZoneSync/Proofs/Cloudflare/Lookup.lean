import ZoneSync.Proofs.Cloudflare.Changes
import ZoneSync.Proofs.Http.Fields

namespace ZoneSync.Cloudflare

open Http

/-!
# The zone is looked up until it is found

A zone that is given by its name is looked up by every call until a lookup finds it. From then on
its identifier is kept, and all calls are for the records of that one zone.

* `Call`, `Client.calls` — calls that a client is given, and what comes of them;
* `Client.AsksFor`, `Client.LooksUp` — requests for records of a zone, and for the zone itself;
* `FindsZone`, `readZone_eq_ok_iff` — answers in which a zone is found;
* `Client.CalledBy`, `Client.logs_call` — the exchanges of a call;
* `Client.ZoneKeptBy`, `Client.logs_calls` — those of calls in a row;
* `Client.calls_zone` — the zone of a whole run, as a configuration gives it.
-/

/-! ### Calls -/

/-- What a client can be asked to do. -/
inductive Call where
  | list
  | create (r : Record)
  | update (id : String) (r : Record)
  | delete (id : String)
  deriving DecidableEq, Repr

/-- What comes of a call. -/
inductive Yield where
  | records (live : List LiveRecord)
  | identifier (id : String)
  | done
  deriving DecidableEq, Repr

/-- A call with what comes of it and its exchanges. -/
abbrev CallTurn := Turn Call (Except Error Yield) Exchange

namespace Client

variable {m : Type → Type} [Monad m]

/-- Carry a call out. -/
def call (c : Client) (send : Transport m) : Call → Action m Yield
  | .list => .records <$> c.list send
  | .create r => .identifier <$> c.create send r
  | .update id r => (fun _ => .done) <$> c.update send id r
  | .delete id => (fun _ => .done) <$> c.delete send id

/-- Carry calls out one after the other, whatever comes of them. -/
def calls (c : Client) (send : Transport m) (cs : List Call) :
    StateT Session m (List (Except Error Yield)) :=
  cs.mapM fun call => (c.call send call).run

/-! ### Requests -/

/-- Whether a request of a call is for records of a zone. -/
def IsRequestFor (c : Client) (zone : String) (q : Http.Request) : Call → Prop
  | .list => ∃ n, c.pageRequest zone n = .ok q
  | .create r => Request.of .post (c.recordsUrl zone) [] c.token
      (some (Payload.ofRecord r).toJson) = .ok q
  | .update id r => Request.of .put (c.recordUrl zone id) [] c.token
      (some (Payload.ofRecord r).toJson) = .ok q
  | .delete id => Request.of .delete (c.recordUrl zone id) [] c.token none = .ok q

/-- Whether an exchange is a lookup of the zone with a name. -/
def LooksUp (c : Client) (name : String) (x : Exchange) : Prop :=
  c.zoneRequest name = .ok x.request

/-- Whether all exchanges of a call are for records of a zone, and none is a lookup. -/
def AsksFor (c : Client) (zone : String) (call : Call) (es : List Exchange) : Prop :=
  ∀ x ∈ es, c.IsRequestFor zone x.request call ∧ ∀ name, ¬ c.LooksUp name x

variable {c : Client} {zone : String}

/-- A request for records is no lookup. Other requests than those for pages have another method, and
    those for pages have another last field. -/
theorem IsRequestFor.not_looksUp {x : Exchange} {call : Call}
    (h : c.IsRequestFor zone x.request call) (name : String) : ¬ c.LooksUp name x := by
  intro hlookup
  have hget : x.request.method = .get := Request.method_eq_of_eq_ok hlookup
  cases call with
  | list =>
    obtain ⟨n, hn⟩ := h
    have hpage := Request.lastKey?_url [("page", Nat.repr n)] hn
    have hzone := Request.lastKey?_url [] hlookup
    rw [hpage] at hzone
    exact absurd hzone (by decide)
  | create r => exact nomatch hget.symm.trans (Request.method_eq_of_eq_ok h)
  | update id r => exact nomatch hget.symm.trans (Request.method_eq_of_eq_ok h)
  | delete id => exact nomatch hget.symm.trans (Request.method_eq_of_eq_ok h)

theorem asksFor_of_isRequestFor {call : Call} {es : List Exchange}
    (h : ∀ x ∈ es, c.IsRequestFor zone x.request call) : c.AsksFor zone call es :=
  fun x hx => ⟨h x hx, (h x hx).not_looksUp⟩

@[simp] theorem asksFor_nil (call : Call) : c.AsksFor zone call [] := List.forall_mem_nil _

/-- The exchanges for pages have the requests for them. -/
theorem PagesReadBy.asksFor {n : Nat} {result : Except Error (List LiveRecord)}
    {es : List Exchange} (h : c.PagesReadBy zone n result es) : c.AsksFor zone .list es := by
  refine asksFor_of_isRequestFor ?_
  induction h with
  | unsent => exact List.forall_mem_nil _
  | @failed n _ _ _ hrequest => exact List.forall_mem_singleton.mpr ⟨n, hrequest⟩
  | @last n _ _ _ _ hrequest => exact List.forall_mem_singleton.mpr ⟨n, hrequest⟩
  | @more n _ _ _ _ _ _ hrequest _ _ _ ih => exact List.forall_mem_cons.mpr ⟨⟨n, hrequest⟩, ih⟩

end Client

/-- What is fetched is asked for by its request. -/
theorem FetchedBy.request_eq {α : Type} {request : Except SendFailure Http.Request}
    {read : Exchange → Except Error α} {result : Except Error α} {es : List Exchange}
    (h : FetchedBy request read result es) : ∀ x ∈ es, request = .ok x.request := by
  cases request with
  | error e =>
    rw [h.2]
    exact List.forall_mem_nil _
  | ok q =>
    obtain ⟨reply, _, rfl⟩ := h
    exact List.forall_mem_singleton.mpr rfl

/-! ### Lookups -/

/-- Whether an exchange is answered with zones, of which this is the first one. -/
def FindsZone (x : Exchange) (zone : String) : Prop :=
  ∃ e rest, AnsweredWith (Json.listOf? identifier?) x e ∧ e.result = some (zone :: rest)

namespace Client

/-- The answers in which a zone is found are those that are read as one. -/
theorem readZone_eq_ok_iff {name zone : String} {x : Exchange} :
    readZone name x = .ok zone ↔ FindsZone x zone := by
  have hfirst (e : Envelope (List String)) :
      firstZone name e = .ok zone ↔ ∃ rest, e.result = some (zone :: rest) := by
    unfold firstZone
    cases e.result with
    | none => simp
    | some zones => cases zones <;> simp
  rw [readZone, readEnvelope_bind_eq_ok_iff]
  exact exists_congr fun e => (and_congr_right' (hfirst e)).trans exists_and_left.symm

/-! ### One call -/

/-- Whether a call goes by these exchanges: the zone is found, and then the call is for records of
    the zone. A call without the zone asks for nothing. -/
def CalledBy (c : Client) (s : Session) (call : Call) (p : Except Error Yield × Session)
    (es : List Exchange) : Prop :=
  ∃ found s' lookup asked, c.ZoneFoundBy s (found, s') lookup ∧ es = lookup ++ asked ∧
    p.2.zone = s'.zone ∧
    match found with
    | .ok zone => c.AsksFor zone call asked
    | .error e => p.1 = .error e ∧ asked = []

section Logs

variable {m : Type → Type} [Monad m] [LawfulMonad m] {α : Type} (c : Client) (send : Transport m)

/-- A call that finds the zone first, and then asks for its records. -/
theorem logs_calledBy {call : Call} {s : Session}
    {f : String → Action (Logged Exchange m) α} (g : α → Yield)
    (hf : ∀ zone s', Logs (fun p es => p.2.zone = s'.zone ∧ c.AsksFor zone call es)
      ((f zone).run.run s')) :
    Logs (c.CalledBy s call) ((g <$> (c.zone send.logged >>= f)).run.run s) := by
  have hmap : (g <$> (c.zone send.logged >>= f)).run.run s =
      (fun p => (g <$> p.1, p.2)) <$> ((c.zone send.logged >>= f).run.run s) := by
    rw [ExceptT.run_map, StateT.run_map]
    rfl
  rw [hmap]
  refine Logs.map (Logs.bind_action (c.logs_zone send s) ?_ ?_)
  · intro e s' lookup hfound
    exact ⟨.error e, s', lookup, [], hfound, (List.append_nil lookup).symm, rfl, rfl, rfl⟩
  · intro zone s' lookup hfound
    refine (hf zone s').imp ?_
    rintro p asked ⟨hzone, hasked⟩
    exact ⟨.ok zone, s', lookup, asked, hfound, rfl, hzone, hasked⟩

/-- A request of a call, with what is made of its answer. -/
theorem logs_requested {call : Call} {zone : String} {s : Session} {β : Type}
    (result? : Json → Option α) (subject : String) (method : Method) (address : String)
    (body : Option Json) (next : Envelope α → Except Error β)
    {f : Envelope α → Action (Logged Exchange m) β}
    (hrequest : ∀ q, Request.of method address [] c.token body = .ok q → c.IsRequestFor zone q call)
    (hf : ∀ e, (f e).run.run s = pure (next e, s)) :
    Logs (fun p es => p.2.zone = s.zone ∧ c.AsksFor zone call es)
      ((Action.ofExchange (c.request send.logged result? subject method address [] body) >>=
        f).run.run s) := by
  refine (logs_bind_action_fetched (logs_request send result? subject method address body)
    hf).imp ?_
  rintro p es ⟨hfetched, hsession⟩
  rw [hsession]
  exact ⟨rfl, asksFor_of_isRequestFor fun x hx => hrequest _ (hfetched.request_eq x hx)⟩

theorem logs_call (s : Session) (call : Call) :
    Logs (c.CalledBy s call) ((c.call send.logged call).run.run s) := by
  cases call with
  | list =>
    refine c.logs_calledBy send .records fun zone s' => ?_
    refine (logs_ofExchange (c.logs_pagesFrom send zone 1)).imp ?_
    rintro p es ⟨hread, hsession⟩
    exact ⟨congrArg _ hsession, hread.asksFor⟩
  | create r =>
    refine c.logs_calledBy send .identifier fun zone s' => ?_
    split
    · -- A dry run counts the new record, and leaves the zone of the session alone.
      rw [run_get_bind, run_modify_bind]
      exact Logs.pure_of ⟨rfl, asksFor_nil _⟩
    · refine c.logs_requested send identifier? _ .post _ _ createdId (fun q hq => hq) fun e => ?_
      unfold createdId
      cases e.result <;> rfl
  | update id r =>
    refine c.logs_calledBy send (fun _ => .done) fun zone s' => ?_
    split
    · exact c.logs_requested send (document? 1) _ .put _ _ (fun _ => .ok ()) (fun q hq => hq)
        fun e => rfl
    · exact Logs.pure_of ⟨rfl, asksFor_nil _⟩
  | delete id =>
    refine c.logs_calledBy send (fun _ => .done) fun zone s' => ?_
    split
    · exact c.logs_requested send (document? 1) _ .delete _ _ (fun _ => .ok ()) (fun q hq => hq)
        fun e => rfl
    · exact Logs.pure_of ⟨rfl, asksFor_nil _⟩

end Logs

/-! ### Calls in a row -/

variable {c : Client} {zone : String}

/-- Whether a call looks the zone up in vain: nothing else is asked for, and the error is that of
    the lookup. -/
def Misses (c : Client) (name : String) (t : CallTurn) : Prop :=
  ∃ x e, t.events = [x] ∧ c.LooksUp name x ∧ (∀ zone, ¬ FindsZone x zone) ∧
    readZone name x = .error e ∧ t.result = .error e

/-- Whether a call looks the zone up and finds it: all that follows is for its records. -/
def Finds (c : Client) (name zone : String) (t : CallTurn) : Prop :=
  ∃ x es, t.events = x :: es ∧ c.LooksUp name x ∧ FindsZone x zone ∧ c.AsksFor zone t.subject es

/-- Whether calls look the zone up until one of them finds it, and all later ones are for its
    records. -/
inductive Resolves (c : Client) (name : String) : List CallTurn → Prop where
  | unasked : Resolves c name []
  | missed {t : CallTurn} {turns : List CallTurn} :
    c.Misses name t → Resolves c name turns → Resolves c name (t :: turns)
  | found {zone : String} {t : CallTurn} {turns : List CallTurn} :
    c.Finds name zone t → (∀ u ∈ turns, c.AsksFor zone u.subject u.events) →
      Resolves c name (t :: turns)

/-- The lookups end with the first one that finds the zone. -/
theorem Resolves.exists_split {name : String} {turns : List CallTurn} (h : c.Resolves name turns) :
    ∃ missed later, turns = missed ++ later ∧ (∀ t ∈ missed, c.Misses name t) ∧
      ∀ t rest, later = t :: rest → ∃ zone, c.Finds name zone t ∧
        ∀ u ∈ rest, c.AsksFor zone u.subject u.events := by
  induction h with
  | unasked =>
    refine ⟨[], [], rfl, List.forall_mem_nil _, ?_⟩
    intro t rest heq
    exact absurd heq (List.cons_ne_nil t rest).symm
  | @missed t turns ht _ ih =>
    obtain ⟨missed, later, rfl, hmissed, hlater⟩ := ih
    exact ⟨t :: missed, later, rfl, List.forall_mem_cons.mpr ⟨ht, hmissed⟩, hlater⟩
  | @found zone t turns ht hturns =>
    refine ⟨[], t :: turns, rfl, List.forall_mem_nil _, ?_⟩
    rintro _ _ heq
    obtain ⟨rfl, rfl⟩ := List.cons.inj heq
    exact ⟨zone, ht, hturns⟩

/-- Whether calls go by the zone of a client: it has an identifier, it was found before, or it is
    looked up. Without an address for lookups there are only errors. -/
def ZoneKeptBy (c : Client) (s : Session) (turns : List CallTurn) : Prop :=
  match c.place, s.zone with
  | .byId zone _, _ => ∀ t ∈ turns, c.AsksFor zone t.subject t.events
  | .byName _, some zone => ∀ t ∈ turns, c.AsksFor zone t.subject t.events
  | .byName name, none =>
    (Sendable c.zonesUrl c.token → c.Resolves name turns) ∧
      (¬ Sendable c.zonesUrl c.token → ∀ t ∈ turns, t.events = [] ∧ ∃ e, t.result = .error e)

theorem zoneKeptBy_nil (s : Session) : c.ZoneKeptBy s [] := by
  unfold ZoneKeptBy
  split
  · exact List.forall_mem_nil _
  · exact List.forall_mem_nil _
  · exact ⟨fun _ => .unasked, fun _ => List.forall_mem_nil _⟩

/-- Where the zone is known, all calls are for its records. -/
theorem zoneKeptBy_iff_of_knows {s : Session} (h : c.Knows zone s) {turns : List CallTurn} :
    c.ZoneKeptBy s turns ↔ ∀ t ∈ turns, c.AsksFor zone t.subject t.events := by
  unfold Knows at h
  unfold ZoneKeptBy
  cases hplace : c.place with
  | byId id _ =>
    rw [hplace] at h
    rw [← show id = zone from h]
  | byName name =>
    rw [hplace] at h
    rw [show s.zone = some zone from h]

/-- A zone that is not known has to be looked up. -/
theorem zoneKeptBy_iff_of_byName {s : Session} {name : String} (hplace : c.place = .byName name)
    (hzone : s.zone = none) {turns : List CallTurn} :
    c.ZoneKeptBy s turns ↔ (Sendable c.zonesUrl c.token → c.Resolves name turns) ∧
      (¬ Sendable c.zonesUrl c.token → ∀ t ∈ turns, t.events = [] ∧ ∃ e, t.result = .error e) := by
  rw [ZoneKeptBy, hplace, hzone]

/-- The zone is known, or it has to be looked up. -/
theorem knows_or_byName (c : Client) (s : Session) :
    (∃ zone, c.Knows zone s) ∨ ∃ name, c.place = .byName name ∧ s.zone = none := by
  unfold Knows
  cases c.place with
  | byId zone _ => exact .inl ⟨zone, rfl⟩
  | byName name =>
    cases s.zone with
    | some zone => exact .inl ⟨zone, rfl⟩
    | none => exact .inr ⟨name, rfl, rfl⟩

theorem knows_congr {s s' : Session} (h : s'.zone = s.zone) : c.Knows zone s' ↔ c.Knows zone s := by
  rw [Knows, Knows, h]

/-- A call in front of others goes by the zone as they do. -/
theorem CalledBy.zoneKeptBy_cons {s s' : Session} {call : Call} {result : Except Error Yield}
    {es : List Exchange} {turns : List CallTurn} (h : c.CalledBy s call (result, s') es)
    (hturns : c.ZoneKeptBy s' turns) : c.ZoneKeptBy s (⟨call, result, es⟩ :: turns) := by
  obtain ⟨found, s'', lookup, asked, hfound, rfl, hzone, hasked⟩ := h
  rcases c.knows_or_byName s with ⟨zone, hknows⟩ | ⟨name, hplace, hnone⟩
  · -- The zone is known already, and it stays so.
    obtain ⟨heq, rfl⟩ := (zoneFoundBy_iff_of_knows hknows).mp hfound
    obtain ⟨rfl, rfl⟩ := Prod.mk.inj heq
    rw [zoneKeptBy_iff_of_knows ((knows_congr hzone).mpr hknows)] at hturns
    rw [zoneKeptBy_iff_of_knows hknows]
    exact List.forall_mem_cons.mpr ⟨hasked, hturns⟩
  · rw [zoneKeptBy_iff_of_byName hplace hnone]
    have hfetched : FetchedBy (c.zoneRequest name) (readZone name) found lookup ∧
        s'' = keepZone s found := by
      rw [ZoneFoundBy, hplace, hnone] at hfound
      exact hfound
    obtain ⟨hfetched, rfl⟩ := hfetched
    cases found with
    | ok zone =>
      -- The lookup is the last one, since the zone is kept for the calls behind it.
      have hknows : c.Knows zone s' := by
        rw [Knows, hplace]
        exact hzone
      rw [zoneKeptBy_iff_of_knows hknows] at hturns
      cases hrequest : c.zoneRequest name with
      | error e =>
        rw [hrequest] at hfetched
        cases hfetched.1
      | ok q =>
        rw [hrequest] at hfetched
        obtain ⟨reply, hread, rfl⟩ := hfetched
        refine ⟨fun _ => .found ⟨⟨q, reply⟩, asked, rfl, hrequest, ?_, hasked⟩ hturns, ?_⟩
        · exact readZone_eq_ok_iff.mp hread.symm
        · exact fun hsend => absurd (Request.exists_of_iff.mp ⟨q, hrequest⟩) hsend
    | error e =>
      -- The error is not kept, so that the next call is where this one was.
      obtain ⟨rfl, rfl⟩ := hasked
      rw [zoneKeptBy_iff_of_byName hplace (hzone.trans hnone)] at hturns
      obtain ⟨hresolves, hunsent⟩ := hturns
      refine ⟨fun hsend => .missed ?_ (hresolves hsend), fun hsend => ?_⟩
      · obtain ⟨q, hrequest⟩ := Request.exists_of_iff.mpr hsend
        replace hrequest : c.zoneRequest name = .ok q := hrequest
        rw [hrequest] at hfetched
        obtain ⟨reply, hread, rfl⟩ := hfetched
        refine ⟨⟨q, reply⟩, e, rfl, hrequest, fun zone hfinds => ?_, hread.symm, rfl⟩
        cases hread.trans (readZone_eq_ok_iff.mpr hfinds)
      · refine List.forall_mem_cons.mpr ⟨⟨?_, e, rfl⟩, hunsent hsend⟩
        cases hrequest : c.zoneRequest name with
        | error e' =>
          rw [hrequest] at hfetched
          rw [hfetched.2]
          rfl
        | ok q => exact absurd (Request.exists_of_iff.mp ⟨q, hrequest⟩) hsend

/-- Calls in a row go by one zone. -/
theorem logs_calls {m : Type → Type} [Monad m] [LawfulMonad m] (c : Client) (send : Transport m)
    (cs : List Call) (s : Session) :
    Logs (fun p es => ∃ turns : List CallTurn, turns.map (·.subject) = cs ∧
        turns.map (·.result) = p.1 ∧ turns.flatMap (·.events) = es ∧ c.ZoneKeptBy s turns)
      ((c.calls send.logged cs).run s) := by
  unfold calls
  induction cs generalizing s with
  | nil => exact Logs.pure_of ⟨[], rfl, rfl, rfl, c.zoneKeptBy_nil s⟩
  | cons call cs ih =>
    rw [List.mapM_cons, StateT.run_bind]
    refine Logs.bind (c.logs_call send s call) ?_
    rintro ⟨result, s'⟩ es hcall
    rw [StateT.run_bind]
    refine Logs.bind (ih s') ?_
    rintro ⟨results, s''⟩ _ ⟨turns, rfl, rfl, rfl, hturns⟩
    refine Logs.pure_of ⟨⟨call, result, es⟩ :: turns, rfl, rfl, ?_, hcall.zoneKeptBy_cons hturns⟩
    rw [List.append_nil]
    rfl

/-! ### Whole runs -/

/-- The results of calls of a new session on a server that has a state of its own, with the
    exchanges. -/
def callsOn {σ : Type} (c : Client) (send : Transport (StateM σ)) (cs : List Call) (server : σ) :
    List (Except Error Yield) × List Exchange :=
  let run := (((c.calls send.logged cs).run {}).run []).run server
  (run.1.1.1, run.1.2)

/-- **One zone for all calls.** Whatever a server replies, calls that can go wrong in any way are
    for the records of one zone. It is the one whose identifier is set; without an identifier it is
    the first zone of the first lookup in which a zone is found, every call up to that one has a
    lookup, and a call whose lookup finds none has nothing else but its error. -/
theorem calls_zone {σ : Type} {c : Client} {zoneId zoneName : Option String}
    (hplace : ZoneRef.of? zoneId zoneName = some c.place) (send : Transport (StateM σ))
    (cs : List Call) (server : σ) :
    ∃ turns : List CallTurn, turns.map (·.subject) = cs ∧
      c.callsOn send cs server = (turns.map (·.result), turns.flatMap (·.events)) ∧
      (∀ zone, zoneId = some zone → zone ≠ "" → ∀ t ∈ turns, c.AsksFor zone t.subject t.events) ∧
      ((∀ zone, zoneId = some zone → zone = "") → ∃ name, zoneName = some name ∧ name ≠ "" ∧
        (¬ Sendable c.zonesUrl c.token →
          ∀ t ∈ turns, t.events = [] ∧ ∃ e, t.result = .error e) ∧
        (Sendable c.zonesUrl c.token →
          ∃ missed later, turns = missed ++ later ∧ (∀ t ∈ missed, c.Misses name t) ∧
            ∀ t rest, later = t :: rest → ∃ zone, c.Finds name zone t ∧
              ∀ u ∈ rest, c.AsksFor zone u.subject u.events)) := by
  obtain ⟨es, hes, turns, hsubjects, hresults, rfl, hkept⟩ :=
    always_iff_forall.mp (c.logs_calls send cs {} []) server
  refine ⟨turns, hsubjects, Prod.ext hresults.symm hes, ?_, ?_⟩
  · intro zone hid hne
    have hzone : c.place = .byId zone (Text.nonempty zoneName) := by
      rw [hid, ZoneRef.of?, Text.nonempty, Option.filter_some, if_pos (decide_eq_true hne)]
        at hplace
      exact (Option.some.inj hplace).symm
    refine (zoneKeptBy_iff_of_knows ?_).mp hkept
    rw [Knows, hzone]
  · intro hid
    -- An empty identifier is as good as none.
    have hnone : Text.nonempty zoneId = none := by
      cases zoneId with
      | none => rfl
      | some zone => simp [Text.nonempty, hid zone rfl]
    rw [ZoneRef.of?, hnone] at hplace
    cases hname : Text.nonempty zoneName with
    | none =>
      rw [hname] at hplace
      exact nomatch hplace
    | some name =>
      rw [hname] at hplace
      obtain ⟨hzoneName, hne⟩ := Option.filter_eq_some_iff.mp hname
      obtain ⟨hresolves, hunsent⟩ :=
        (zoneKeptBy_iff_of_byName (Option.some.inj hplace).symm rfl).mp hkept
      exact ⟨name, hzoneName, of_decide_eq_true hne, hunsent, fun hsend =>
        (hresolves hsend).exists_split⟩

/-- A client that knows its zone by name. -/
def namedClient : Client := { knownClient with place := .byName "example.com" }

/-- An answer with a result. -/
def resultReply (result : String) : Response where
  status := .ok
  body := "\x7b\x22success\x22:true,\x22result\x22:" ++ result ++ "\x7d"

/-- A server that is down, then knows no zone, then has two, a record to remove and no records. -/
def lateReplies : List Response :=
  [⟨⟨500⟩, ""⟩, resultReply "[]",
    resultReply "[\x7b\x22id\x22:\x22z1\x22\x7d,\x7b\x22id\x22:\x22z2\x22\x7d]",
    resultReply "null", resultReply "[]"]

/-- Calls for these answers. -/
def lateCalls : List Call := [.list, .delete "r", .delete "r", .list]

/-- The first two calls have no zone, and the last two share the one lookup that finds it. -/
theorem calls_zone_lateReplies :
    (namedClient.callsOn scripted lateCalls lateReplies).1.map Except.isOk =
        [false, false, true, true] ∧
      ∃ missed later : List CallTurn, (missed ++ later).map (·.subject) = lateCalls ∧
        ((missed ++ later).flatMap (·.events)).length = 5 ∧
        (∀ t ∈ missed, namedClient.Misses "example.com" t) ∧
        ∀ t rest, later = t :: rest → ∃ zone, namedClient.Finds "example.com" zone t ∧
          ∀ u ∈ rest, namedClient.AsksFor zone u.subject u.events := by
  have hsend : Sendable namedClient.zonesUrl namedClient.token := by
    have hrequest : (namedClient.zoneRequest "example.com").isOk = true := by decide +kernel
    cases hq : namedClient.zoneRequest "example.com" with
    | ok q => exact Request.exists_of_iff.mp ⟨q, hq⟩
    | error e => exact nomatch hq ▸ hrequest
  have hplace : ZoneRef.of? none (some "example.com") = some namedClient.place := rfl
  obtain ⟨turns, hsubjects, hrun, _, hnamed⟩ := calls_zone hplace scripted lateCalls lateReplies
  obtain ⟨_, hname, _, _, hresolves⟩ := hnamed nofun
  obtain rfl := Option.some.inj hname
  obtain ⟨missed, later, rfl, hmissed, hlater⟩ := hresolves hsend
  refine ⟨by decide +kernel, missed, later, hsubjects, ?_, hmissed, hlater⟩
  have hevents := congrArg (·.2.length) hrun
  exact hevents.symm.trans (by decide +kernel)

end Client

end ZoneSync.Cloudflare
