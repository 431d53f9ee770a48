import ZoneSync.Cloudflare.Client
import ZoneSync.Proofs.Runs.Logs

namespace ZoneSync

/-!
# What a client asks for

A client asks for one thing at a time, and what it makes of the answer depends on the answer alone.

* `Exchange`, `Transport.logged` — requests with what came back, and a transport that puts them
  down;
* `FetchedBy` — a result that comes from one exchange, or from none when there is no request;
* `Client.logs_ask` — every request of a client is of this kind;
* `Client.ZoneFoundBy`, `Client.logs_zone` — the zone is looked up at most once;
* `FetchedBy.unique`, `ZoneFoundBy.unique` — which is settled by what came back.
-/

/-! ### Exchanges -/

namespace Http

/-- A request, and what came back for it. -/
structure Exchange where
  request : Request
  reply : Option Response

variable {m : Type → Type} [Monad m]

/-- A transport whose exchanges are put down. -/
def Transport.logged (send : Transport m) : Transport (Logged Exchange m) :=
  fun q => logStep (fun reply => ⟨q, reply⟩) (send q)

end Http

namespace Cloudflare

open Http

/-! ### Answers -/

/-- The error of a request that is not sent, or for which nothing comes back. -/
def sendError (e : SendFailure) : Error := refusal ("HTTP request failed: " ++ e.message)

/-- What an exchange comes to. -/
def readEnvelope {α : Type} (result? : Json → Option α) (subject : String) (x : Exchange) :
    Except Error (Envelope α) :=
  match x.reply with
  | some response => answer result? subject response
  | none => .error (sendError (.noResponse x.request.url))

/-- Whether a result comes from one exchange; without a request there is none. -/
def FetchedBy {α : Type} (request : Except SendFailure Request)
    (read : Exchange → Except Error α) (result : Except Error α) (es : List Exchange) : Prop :=
  match request with
  | .error e => result = .error (sendError e) ∧ es = []
  | .ok q => ∃ reply, result = read ⟨q, reply⟩ ∧ es = [⟨q, reply⟩]

/-- What is made of a result comes from the same exchange. -/
theorem FetchedBy.bind {α β : Type} {request : Except SendFailure Request}
    {read : Exchange → Except Error α} {result : Except Error α} {es : List Exchange}
    (h : FetchedBy request read result es) (next : α → Except Error β) :
    FetchedBy request (fun exchange => read exchange >>= next) (result >>= next) es := by
  cases request with
  | error e =>
    obtain ⟨rfl, rfl⟩ := h
    exact ⟨rfl, rfl⟩
  | ok q =>
    obtain ⟨reply, rfl, rfl⟩ := h
    exact ⟨reply, rfl, rfl⟩

/-- What comes from one exchange is settled by its reply, whatever follows. -/
theorem FetchedBy.unique {α : Type} {request : Except SendFailure Request}
    {read : Exchange → Except Error α} {result result' : Except Error α}
    {es es' later later' : List Exchange} (h : FetchedBy request read result es)
    (h' : FetchedBy request read result' es') (hes : es ++ later = es' ++ later') :
    result = result' ∧ es = es' := by
  cases request with
  | error e =>
    obtain ⟨rfl, rfl⟩ := h
    obtain ⟨rfl, rfl⟩ := h'
    exact ⟨rfl, rfl⟩
  | ok q =>
    obtain ⟨reply, rfl, rfl⟩ := h
    obtain ⟨reply', rfl, rfl⟩ := h'
    rw [(List.cons.inj hes).1]
    exact ⟨rfl, rfl⟩

section Answers

variable {m : Type → Type} [Monad m] [LawfulMonad m] {α β : Type} (send : Transport m)

/-- A request that can be put together is sent, and its answer is taken. -/
theorem run_ask (result? : Json → Option α) (subject : String)
    (request : Except SendFailure Request) :
    (ask send result? subject request).run =
      match request with
      | .error e => pure (.error (sendError e))
      | .ok q =>
        (fun response => response.mapError sendError >>= answer result? subject) <$>
          send.exchange q := by
  unfold ask
  cases request with
  | error e =>
    rw [ExceptT.run_bind]
    exact pure_bind ..
  | ok q =>
    have hlift : (liftM ((Except.ok q : Except SendFailure Request).mapError sendError) :
        ExceptT Error m Request) = pure q := rfl
    show ExceptT.run (liftM ((Except.ok q).mapError sendError) >>= _) = _ <$> send.exchange q
    rw [hlift, pure_bind, ExceptT.run_bind, ExceptT.run_mk, bind_assoc, ← bind_pure_comp]
    refine bind_congr fun response => ?_
    rw [pure_bind]
    cases response <;> rfl

theorem logs_ask (result? : Json → Option α) (subject : String)
    (request : Except SendFailure Request) :
    Logs (FetchedBy request (readEnvelope result? subject))
      (ask send.logged result? subject request).run := by
  rw [run_ask]
  cases request with
  | error e => exact Logs.pure_of ⟨rfl, rfl⟩
  | ok q =>
    refine Logs.map (Logs.bind (Logs.of_logStep _ (send q)) ?_)
    rintro (_ | response) _ rfl
    · exact Logs.pure_of ⟨none, rfl, rfl⟩
    · exact Logs.pure_of ⟨some response, rfl, rfl⟩

/-- What is made of an answer is a matter of the answer. -/
theorem logs_bind_fetched {request : Except SendFailure Request}
    {read : Exchange → Except Error α} {x : ExceptT Error (Logged Exchange m) α}
    {f : α → ExceptT Error (Logged Exchange m) β} {next : α → Except Error β}
    (hx : Logs (FetchedBy request read) x.run) (hf : ∀ a, (f a).run = pure (next a)) :
    Logs (FetchedBy request fun exchange => read exchange >>= next) (x >>= f).run := by
  refine Logs.bind_except hx ?_ ?_
  · exact fun e es h => h.bind next
  · intro a es h
    rw [hf]
    exact Logs.pure_after (h.bind next)

end Answers

/-! ### The zone -/

/-- The first zone of an answer to the request for the zone with a name. -/
def firstZone (name : String) (e : Envelope (List String)) : Except Error String :=
  match e.result.getD [] with
  | zone :: _ => .ok zone
  | [] => .error (.notFound ("Zone not found: " ++ name))

namespace Client

/-- The request for the zone with a name. -/
def zoneRequest (c : Client) (name : String) : Except SendFailure Request :=
  Request.of .get c.zonesUrl [("name", name)] c.token none

/-- The zone that an exchange finds. -/
def readZone (name : String) (x : Exchange) : Except Error String :=
  readEnvelope (Json.listOf? identifier?) ("zone " ++ name) x >>= firstZone name

/-- The session after a lookup of the zone: only a zone that was found is kept. -/
def keepZone (s : Session) : Except Error String → Session
  | .ok zone => { s with zone := some zone }
  | .error _ => s

/-- Whether the zone comes from these exchanges. It is looked up when it is given by its name, and
    was not found before. -/
def ZoneFoundBy (c : Client) (s : Session) (p : Except Error String × Session)
    (es : List Exchange) : Prop :=
  match c.place, s.zone with
  | .byId zone _, _ => p = (.ok zone, s) ∧ es = []
  | .byName _, some zone => p = (.ok zone, s) ∧ es = []
  | .byName name, none =>
    FetchedBy (c.zoneRequest name) (readZone name) p.1 es ∧ p.2 = keepZone s p.1

/-- A lookup of the zone is settled by its reply, whatever follows. -/
theorem ZoneFoundBy.unique {c : Client} {s : Session} {p p' : Except Error String × Session}
    {es es' later later' : List Exchange} (h : c.ZoneFoundBy s p es) (h' : c.ZoneFoundBy s p' es')
    (hes : es ++ later = es' ++ later') : p = p' ∧ es = es' := by
  unfold ZoneFoundBy at h
  split at h
  · rename_i hplace
    rw [ZoneFoundBy, hplace] at h'
    exact ⟨h.1.trans h'.1.symm, h.2.trans h'.2.symm⟩
  · rename_i hplace hzone
    rw [ZoneFoundBy, hplace, hzone] at h'
    exact ⟨h.1.trans h'.1.symm, h.2.trans h'.2.symm⟩
  · rename_i hplace hzone
    rw [ZoneFoundBy, hplace, hzone] at h'
    obtain ⟨hfetched, hkept⟩ := h
    obtain ⟨hfetched', hkept'⟩ := h'
    obtain ⟨hresult, hes⟩ := hfetched.unique hfetched' hes
    exact ⟨Prod.ext hresult (by rw [hkept, hkept', hresult]), hes⟩

variable {m : Type → Type} [Monad m] [LawfulMonad m] {α : Type} (c : Client) (send : Transport m)

theorem logs_ofExchange {P : Except Error α → List Exchange → Prop}
    {x : ExceptT Error (Logged Exchange m) α} {s : Session} (hx : Logs P x.run) :
    Logs (fun p es => P p.1 es ∧ p.2 = s) ((Action.ofExchange x).run.run s) := by
  refine Logs.bind hx fun a es hP => Logs.pure_of ?_
  rw [List.append_nil]
  exact ⟨hP, rfl⟩

theorem logs_findZone (name : String) :
    Logs (FetchedBy (c.zoneRequest name) (readZone name)) (c.findZone send.logged name).run := by
  have hrequest : Logs (FetchedBy (c.zoneRequest name)
      (readEnvelope (Json.listOf? identifier?) ("zone " ++ name)))
      (c.request send.logged (Json.listOf? identifier?) ("zone " ++ name) .get c.zonesUrl
        [("name", name)]).run := logs_ask send _ _ _
  refine logs_bind_fetched hrequest fun e => ?_
  unfold firstZone
  cases e.result.getD [] <;> rfl

/-- The zone is looked up at most once, and is kept once it was found. -/
theorem logs_zone (s : Session) :
    Logs (c.ZoneFoundBy s) ((c.zone send.logged).run.run s) := by
  unfold zone ZoneFoundBy
  rw [run_get_bind]
  cases c.place with
  | byId zone _ => exact Logs.pure_of ⟨rfl, rfl⟩
  | byName name =>
    cases hzone : s.zone with
    | some zone => exact Logs.pure_of ⟨rfl, rfl⟩
    | none =>
      refine Logs.bind_action (logs_ofExchange (c.logs_findZone send name)) ?_ ?_
      · rintro e _ es ⟨h, rfl⟩
        exact ⟨h, rfl⟩
      · rintro zone _ es ⟨h, rfl⟩
        rw [run_modify_bind]
        refine Logs.pure_of ?_
        rw [List.append_nil]
        exact ⟨h, rfl⟩

end Client

end Cloudflare

end ZoneSync
