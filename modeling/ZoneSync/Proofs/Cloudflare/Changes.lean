import ZoneSync.Proofs.Cloudflare.Listing
import ZoneSync.Proofs.Plan.Calls

namespace ZoneSync

/-!
# Plans that a client carries out

Once the zone is known, a client asks for every entry of a plan with one request of its own, or for
none of them in a dry run.

* `Plan.Rehearsed` — reports on plans of which nothing can fail;
* `Client.Knows` — the zone needs no lookup;
* `Client.logs_answer_dryRun` — an entry in a dry run is noted as carried out, and nothing is sent;
* `CarriesOut` — an action is carried out, as far as the server says;
* `Client.actionRequest?`, `Client.logs_answer_live` — outside of dry runs its request is sent, and
  the reply is its outcome;
* `Client.RunBy`, `Client.logs_run` — a run of a desired state, from the listing on;
* `Client.Sends`, `Client.SyncedBy`, `Client.logs_sync` — its requests are those for the plan.
-/

/-! ### Rehearsals -/

/-- The outcome of an entry when nothing can fail. -/
def Change.rehearsal? (c : Change) : Option Outcome :=
  c.action.operation?.map (⟨c.key, ·, none⟩)

/-- The counts of a run of which nothing fails. -/
def Summary.toStats (s : Summary) : Stats where
  created := s.create
  updated := s.update
  deleted := s.delete
  unchanged := s.unchanged

/-- Whether a report says of all a plan asks for that it was carried out. -/
structure Plan.Rehearsed (plan : Plan) (report : ApplyReport) : Prop where
  outcomes : List.Forall₂ (fun c o => c.HasOutcome (some o) ∧ o.isApplied = true) plan.mutations
    report.outcomes
  stats : report.stats = plan.summary.toStats

theorem Plan.Rehearsed.isSuccess {plan : Plan} {report : ApplyReport} (h : plan.Rehearsed report) :
    report.isSuccess = true := by
  rw [ApplyReport.isSuccess, h.stats]
  rfl

/-- An entry is counted in a report as it is in a summary. -/
theorem stats_note_rehearsal {r : ApplyReport} {s : Summary} (h : r.stats = s.toStats)
    (c : Change) : (r.note c.rehearsal?).stats = (s.add c.action).toStats := by
  obtain ⟨key, action⟩ := c
  cases action <;>
    simp [Change.rehearsal?, Action.operation?, ApplyReport.note, ApplyReport.keep,
      Stats.addRequest, Stats.addApplied, Summary.add, Summary.toStats, h]

theorem stats_foldl_rehearsal (cs : List Change) {r : ApplyReport} {s : Summary}
    (h : r.stats = s.toStats) :
    ((cs.map Change.rehearsal?).foldl ApplyReport.note r).stats =
      (cs.foldl (fun s c => s.add c.action) s).toStats := by
  induction cs generalizing r s with
  | nil => exact h
  | cons c cs ih => exact ih (stats_note_rehearsal h c)

theorem forall₂_rehearsal (cs : List Change) :
    List.Forall₂ (fun c o => c.HasOutcome (some o) ∧ o.isApplied = true)
      (cs.filter (·.action.isMutation)) (cs.map Change.rehearsal?).reduceOption := by
  induction cs with
  | nil => exact .nil
  | cons c cs ih =>
    obtain ⟨key, action⟩ := c
    cases action with
    | unchanged id => exact ih
    | create r => exact .cons ⟨⟨rfl, rfl⟩, rfl⟩ ih
    | update id r current => exact .cons ⟨⟨rfl, rfl⟩, rfl⟩ ih
    | delete id current => exact .cons ⟨⟨rfl, rfl⟩, rfl⟩ ih

theorem Plan.rehearsed_ofAnswers (plan : Plan) :
    plan.Rehearsed (.ofAnswers (plan.changes.map Change.rehearsal?)) where
  outcomes := by
    rw [ApplyReport.outcomes_ofAnswers]
    exact forall₂_rehearsal plan.changes
  stats := stats_foldl_rehearsal plan.changes rfl

/-! ### Methods -/

/-- The method with which an action is asked for. -/
def Action.method? : Action → Option Http.Method
  | .create _ => some .post
  | .update _ _ _ => some .put
  | .delete _ _ => some .delete
  | .unchanged _ => none

namespace Cloudflare

open Http

variable {m : Type → Type} [Monad m] [LawfulMonad m]

namespace Client

/-! ### The zone -/

/-- Whether the zone is known without a lookup. -/
def Knows (c : Client) (zone : String) (s : Session) : Prop :=
  match c.place with
  | .byId id _ => id = zone
  | .byName _ => s.zone = some zone

variable {c : Client} {zone : String} {s s' : Session}

/-- The zone is known from then on. -/
theorem knows_of_zoneFoundBy {es : List Exchange} (h : c.ZoneFoundBy s (.ok zone, s') es) :
    c.Knows zone s' := by
  unfold ZoneFoundBy at h
  unfold Knows
  cases hplace : c.place with
  | byId id _ =>
    rw [hplace] at h
    exact (Except.ok.inj (Prod.mk.inj h.1).1).symm
  | byName name =>
    rw [hplace] at h
    cases hzone : s.zone with
    | some id =>
      rw [hzone] at h
      obtain ⟨heq, _⟩ := h
      obtain ⟨hid, rfl⟩ := Prod.mk.inj heq
      rw [Except.ok.inj hid]
      exact hzone
    | none =>
      rw [hzone] at h
      obtain ⟨_, hkeep⟩ := h
      exact congrArg Session.zone hkeep

/-- A zone that is known is not looked up. -/
theorem zoneFoundBy_iff_of_knows (h : c.Knows zone s) {p : Except Error String × Session}
    {es : List Exchange} : c.ZoneFoundBy s p es ↔ p = (.ok zone, s) ∧ es = [] := by
  unfold Knows at h
  unfold ZoneFoundBy
  cases hplace : c.place with
  | byId id _ =>
    rw [hplace] at h
    rw [← show id = zone from h]
  | byName name =>
    rw [hplace] at h
    rw [show s.zone = some zone from h]

variable {α : Type} {send : Transport m}

theorem logs_zone_bind {f : String → Action (Logged Exchange m) α}
    {P : Except Error α × Session → List Exchange → Prop} (hknows : c.Knows zone s)
    (h : Logs P ((f zone).run.run s)) : Logs P ((c.zone send.logged >>= f).run.run s) := by
  have hzone := (c.logs_zone send s).imp fun _ _ => (zoneFoundBy_iff_of_knows hknows).mp
  refine Logs.bind_action hzone ?_ ?_
  · rintro e s' es ⟨heq, _⟩
    exact nomatch (Prod.mk.inj heq).1
  · rintro a s' es ⟨heq, rfl⟩
    obtain ⟨ha, rfl⟩ := Prod.mk.inj heq
    rw [Except.ok.inj ha]
    exact h

end Client

/-! ### Dry runs -/

/-- Whether an entry is noted as carried out, and nothing is sent. -/
def RehearsedBy (change : Change) (o : Option Outcome) (es : List Exchange) : Prop :=
  o = change.rehearsal? ∧ es = []

namespace Client

variable {c : Client} {zone : String} {s : Session} (send : Transport m)

theorem logs_create_dryRun (hdry : c.dryRun = true) (hknows : c.Knows zone s) (r : Record) :
    Logs (fun p es => (∃ id, p.1 = .ok id) ∧ c.Knows zone p.2 ∧ es = [])
      ((c.create send.logged r).run.run s) := by
  refine logs_zone_bind hknows ?_
  rw [if_pos hdry, run_get_bind, run_modify_bind]
  exact Logs.pure_of ⟨⟨_, rfl⟩, hknows, rfl⟩

/-- A change of a record that is there already. -/
theorem logs_write_dryRun (hdry : c.dryRun = true) (hknows : c.Knows zone s)
    (write : String → Action (Logged Exchange m) Unit) :
    Logs (fun p es => p = (.ok (), s) ∧ es = [])
      ((c.zone send.logged >>= fun zone =>
        if !c.dryRun then write zone else pure ()).run.run s) := by
  refine logs_zone_bind hknows ?_
  rw [if_neg (by simp [hdry])]
  exact Logs.pure_of ⟨rfl, rfl⟩

theorem logs_answer_dryRun (hdry : c.dryRun = true) (change : Change) (s : Session)
    (hknows : c.Knows zone s) :
    Logs (fun p es => c.Knows zone p.2 ∧ RehearsedBy change p.1 es)
      (((c.provider send.logged).answer change).run s) := by
  obtain ⟨key, action⟩ := change
  unfold Provider.answer provider
  cases action with
  | create r =>
    rw [StateT.run_bind]
    refine Logs.bind (logs_create_dryRun send hdry hknows r) ?_
    rintro ⟨_, s'⟩ _ ⟨⟨id, rfl⟩, hknows', rfl⟩
    exact Logs.pure_of ⟨hknows', rfl, rfl⟩
  | update id r current =>
    rw [StateT.run_bind]
    refine Logs.bind (logs_write_dryRun send hdry hknows _) ?_
    rintro _ _ ⟨rfl, rfl⟩
    exact Logs.pure_of ⟨hknows, rfl, rfl⟩
  | delete id current =>
    rw [StateT.run_bind]
    refine Logs.bind (logs_write_dryRun send hdry hknows _) ?_
    rintro _ _ ⟨rfl, rfl⟩
    exact Logs.pure_of ⟨hknows, rfl, rfl⟩
  | unchanged id => exact Logs.pure_of ⟨hknows, rfl, rfl⟩

end Client

/-! ### Replies -/

/-- Whether an exchange is answered with an envelope that reports success. -/
def AnsweredWith {α : Type} (result? : Json → Option α) (x : Exchange) (e : Envelope α) : Prop :=
  ∃ response ∈ x.reply, response.status.isSuccess = true ∧
    Envelope.ofText? result? response.body = some e ∧ e.success = true

theorem readEnvelope_eq_ok_iff {α : Type} {result? : Json → Option α} {subject : String}
    {x : Exchange} {e : Envelope α} :
    readEnvelope result? subject x = .ok e ↔ AnsweredWith result? x e := by
  unfold readEnvelope AnsweredWith
  cases x.reply with
  | none => simp
  | some response =>
    simp only [answer, Option.mem_def, Option.some.injEq, exists_eq_left']
    cases response.status.isSuccess with
    | false => simp
    | true =>
      cases Envelope.ofText? result? response.body with
      | none => simp
      | some e' =>
        cases hsuccess : e'.success with
        | false =>
          refine iff_of_false (by simp [hsuccess]) ?_
          rintro ⟨-, he, htrue⟩
          rw [← Option.some.inj he, hsuccess] at htrue
          cases htrue
        | true =>
          simp only [hsuccess, if_true, Except.ok.injEq, true_and, Option.some.injEq]
          constructor
          · rintro rfl
            exact ⟨rfl, hsuccess⟩
          · exact And.left

/-- An envelope is read to a result when it is answered with one from which the result comes. -/
theorem readEnvelope_bind_eq_ok_iff {α β : Type} {result? : Json → Option α} {subject : String}
    {x : Exchange} {f : Envelope α → Except Error β} {b : β} :
    readEnvelope result? subject x >>= f = .ok b ↔ ∃ e, AnsweredWith result? x e ∧ f e = .ok b := by
  simp only [bind_eq_ok_iff, readEnvelope_eq_ok_iff]

/-- Whether an exchange carries an action out, as far as its reply says. The reply for a new record
    holds the identifier. -/
def CarriesOut (x : Exchange) : ZoneSync.Action → Prop
  | .create _ => ∃ e, AnsweredWith identifier? x e ∧ e.result.isSome = true
  | .update _ _ _ => ∃ e, AnsweredWith (document? 1) x e
  | .delete _ _ => ∃ e, AnsweredWith (document? 1) x e
  | .unchanged _ => True

namespace Client

/-- The identifier of a new record. -/
def createdId (e : Envelope String) : Except Error String :=
  match e.result with
  | some id => .ok id
  | none => .error (refusal "Invalid response format: missing result")

/-- What an exchange for a new record comes to. -/
def readCreated (subject : String) (x : Exchange) : Except Error String :=
  readEnvelope identifier? subject x >>= createdId

/-- What an exchange for a record that is there already comes to. -/
def readWritten (subject : String) (x : Exchange) : Except Error Unit :=
  readEnvelope (document? 1) subject x >>= fun _ => .ok ()

theorem exists_readCreated_iff {subject : String} {x : Exchange} :
    (∃ id, readCreated subject x = .ok id) ↔
      ∃ e, AnsweredWith identifier? x e ∧ e.result.isSome = true := by
  have hid (e : Envelope String) : (∃ id, createdId e = .ok id) ↔ e.result.isSome = true := by
    unfold createdId
    cases e.result <;> simp
  simp only [readCreated, readEnvelope_bind_eq_ok_iff]
  rw [exists_comm]
  exact exists_congr fun e => exists_and_left.trans (and_congr_right' (hid e))

theorem exists_readWritten_iff {subject : String} {x : Exchange} :
    (∃ u, readWritten subject x = .ok u) ↔ ∃ e, AnsweredWith (document? 1) x e := by
  simp only [readWritten, readEnvelope_bind_eq_ok_iff]
  rw [exists_comm]
  exact exists_congr fun e => exists_and_left.trans (and_iff_left ⟨(), trivial⟩)

end Client

/-! ### Live runs -/

namespace Client

/-- The request for an action in a zone, if it asks for something. -/
def actionRequest? (c : Client) (zone : String) :
    ZoneSync.Action → Option (Except SendFailure Http.Request)
  | .create r => some (Request.of .post (c.recordsUrl zone) [] c.token
      (some (Payload.ofRecord r).toJson))
  | .update id r _ => some (Request.of .put (c.recordUrl zone id) [] c.token
      (some (Payload.ofRecord r).toJson))
  | .delete id _ => some (Request.of .delete (c.recordUrl zone id) [] c.token none)
  | .unchanged _ => none

/-- The requests of exchanges, all of which were put together. -/
def requests (es : List Exchange) : List (Except SendFailure Http.Request) :=
  es.map fun x => .ok x.request

/-- Whether an entry has its outcome from the exchange for its request, if it asks for something. -/
def AnsweredBy (c : Client) (zone : String) (change : Change) (o : Option Outcome)
    (es : List Exchange) : Prop :=
  change.HasOutcome o ∧
    match c.actionRequest? zone change.action with
    | none => es = []
    | some request => ∃ q reply, request = .ok q ∧ es = [⟨q, reply⟩] ∧
        (o.all (·.isApplied) = true ↔ CarriesOut ⟨q, reply⟩ change.action)

/-- Requests can be sent to every record of a zone, or to none of them. -/
theorem sendable_recordUrl {c : Client} {zone : String} (h : Sendable (c.recordsUrl zone) c.token)
    (id : String) : Sendable (c.recordUrl zone id) c.token := by
  have hbelow (rest : String) : c.base ++ "/zones" ++ "/" ++ rest = c.base ++ "/zones/" ++ rest :=
    congrArg (· ++ rest) String.append_assoc
  have hrecords : c.recordsUrl zone = c.base ++ "/zones/" ++ (zone ++ "/dns_records") := by
    rw [recordsUrl, zonesUrl, String.append_assoc, hbelow]
  have hrecord : c.recordUrl zone id =
      c.base ++ "/zones/" ++ (zone ++ "/dns_records" ++ "/" ++ id) := by
    simp only [recordUrl, hrecords, String.append_assoc]
  rw [hrecord]
  exact Sendable.of_below (hrecords ▸ h)

variable {c : Client} {zone : String} {s : Session}

/-- The answer to the request of an entry is its outcome. -/
theorem answeredBy_of_fetchedBy {α : Type} (change : Change) {op : Operation}
    {request : Except SendFailure Http.Request} {read : Exchange → Except Error α}
    {result : Except Error α} {es : List Exchange}
    (hrequest : c.actionRequest? zone change.action = some request) (hq : ∃ q, request = .ok q)
    (ho : change.HasOutcome (some ⟨change.key, op, failure? result⟩))
    (hread : ∀ x, (∃ a, read x = .ok a) ↔ CarriesOut x change.action)
    (h : FetchedBy request read result es) :
    c.AnsweredBy zone change (some ⟨change.key, op, failure? result⟩) es := by
  obtain ⟨q, rfl⟩ := hq
  obtain ⟨reply, rfl, rfl⟩ := h
  refine ⟨ho, ?_⟩
  rw [hrequest]
  refine ⟨q, reply, rfl, rfl, ?_⟩
  rw [← hread]
  cases read ⟨q, reply⟩ with
  | ok a => exact iff_of_true rfl ⟨a, rfl⟩
  | error e =>
    refine iff_of_false Bool.false_ne_true ?_
    rintro ⟨a, ha⟩
    cases ha

variable (send : Transport m)

theorem logs_request {α : Type} (result? : Json → Option α) (subject : String) (method : Method)
    (address : String) (body : Option Json) :
    Logs (fun p es => FetchedBy (Request.of method address [] c.token body)
        (readEnvelope result? subject) p.1 es ∧ p.2 = s)
      ((Action.ofExchange (c.request send.logged result? subject method address [] body)).run.run
        s) :=
  logs_ofExchange (logs_ask send result? subject _)

/-- What is made of an answer is a matter of the answer. -/
theorem logs_bind_action_fetched {α β : Type} {request : Except SendFailure Http.Request}
    {read : Exchange → Except Error α} {x : Action (Logged Exchange m) α}
    {f : α → Action (Logged Exchange m) β} {next : α → Except Error β}
    (hx : Logs (fun p es => FetchedBy request read p.1 es ∧ p.2 = s) (x.run.run s))
    (hf : ∀ a, (f a).run.run s = pure (next a, s)) :
    Logs (fun p es => FetchedBy request (fun y => read y >>= next) p.1 es ∧ p.2 = s)
      ((x >>= f).run.run s) := by
  refine Logs.bind_action hx ?_ ?_
  · rintro e s' es ⟨h, rfl⟩
    exact ⟨h.bind next, rfl⟩
  · rintro a s' es ⟨h, rfl⟩
    rw [hf]
    refine Logs.pure_of ?_
    rw [List.append_nil]
    exact ⟨h.bind next, rfl⟩

variable (hlive : c.dryRun = false) (hknows : c.Knows zone s)
include hlive hknows

theorem logs_create_live (r : Record) :
    Logs (fun p es => FetchedBy (Request.of .post (c.recordsUrl zone) [] c.token
        (some (Payload.ofRecord r).toJson)) (readCreated ("record " ++ r.name)) p.1 es ∧ p.2 = s)
      ((c.create send.logged r).run.run s) := by
  refine logs_zone_bind hknows ?_
  rw [if_neg (by simp [hlive])]
  refine logs_bind_action_fetched (logs_request send identifier? _ _ _ _) fun e => ?_
  unfold createdId
  cases e.result <;> rfl

/-- A change of a record that is there already. -/
theorem logs_write_live (id subject : String) (method : Method) (body : Option Json) :
    Logs (fun p es => FetchedBy (Request.of method (c.recordUrl zone id) [] c.token body)
        (readWritten subject) p.1 es ∧ p.2 = s)
      ((c.zone send.logged >>= fun zone => if !c.dryRun then do
          let _ ← Action.ofExchange (c.request send.logged (document? 1) subject method
            (c.recordUrl zone id) [] body)
        else pure ()).run.run s) := by
  refine logs_zone_bind hknows ?_
  rw [if_pos (by simp [hlive])]
  exact logs_bind_action_fetched (logs_request send (document? 1) _ _ _ _) fun e => rfl

omit hknows in
theorem logs_answer_live (hsend : Sendable (c.recordsUrl zone) c.token) (change : Change)
    (s : Session) (hknows : c.Knows zone s) :
    Logs (fun p es => c.Knows zone p.2 ∧ c.AnsweredBy zone change p.1 es)
      (((c.provider send.logged).answer change).run s) := by
  obtain ⟨key, action⟩ := change
  unfold Provider.answer provider
  cases action with
  | create r =>
    rw [StateT.run_bind]
    refine Logs.bind (logs_create_live send hlive hknows r) ?_
    rintro ⟨result, _⟩ es ⟨hfetched, rfl⟩
    refine Logs.pure_of ⟨hknows, ?_⟩
    rw [List.append_nil]
    exact answeredBy_of_fetchedBy ⟨key, .create r⟩ rfl (Request.exists_of_iff.mpr hsend)
      ⟨rfl, rfl⟩ (fun _ => exists_readCreated_iff) hfetched
  | update id r current =>
    rw [StateT.run_bind]
    refine Logs.bind (logs_write_live send hlive hknows id _ .put _) ?_
    rintro ⟨result, _⟩ es ⟨hfetched, rfl⟩
    refine Logs.pure_of ⟨hknows, ?_⟩
    rw [List.append_nil]
    exact answeredBy_of_fetchedBy ⟨key, .update id r current⟩ rfl
      (Request.exists_of_iff.mpr (sendable_recordUrl hsend id)) ⟨rfl, rfl⟩
      (fun _ => exists_readWritten_iff) hfetched
  | delete id current =>
    rw [StateT.run_bind]
    refine Logs.bind (logs_write_live send hlive hknows id _ .delete _) ?_
    rintro ⟨result, _⟩ es ⟨hfetched, rfl⟩
    refine Logs.pure_of ⟨hknows, ?_⟩
    rw [List.append_nil]
    exact answeredBy_of_fetchedBy ⟨key, .delete id current⟩ rfl
      (Request.exists_of_iff.mpr (sendable_recordUrl hsend id)) ⟨rfl, rfl⟩
      (fun _ => exists_readWritten_iff) hfetched
  | unchanged id => exact Logs.pure_of ⟨hknows, trivial, rfl⟩

end Client

/-! ### Whole plans -/

namespace Client

/-- Whether the exchanges are those for a plan: there is one for every entry that asks for
    something, in the order of the plan. -/
structure Sends (c : Client) (zone : String) (plan : Plan) (es : List Exchange) : Prop where
  requests : (requests es).map some = plan.mutations.map (c.actionRequest? zone ·.action)
  methods : es.map (some ·.request.method) = plan.mutations.map (·.action.method?)

/-- Whether a run of a desired state comes to a result by these exchanges. -/
inductive SyncedBy (c : Client) (s : DesiredState) :
    Except Error (Plan × ApplyReport) → List Exchange → Prop where
  | unlisted {e : Error} {session : Session} {es : List Exchange} :
    c.ListedBy {} (.error e, session) es → SyncedBy c s (.error e) es
  | rehearsed {live : List LiveRecord} {session : Session} {es : List Exchange}
    {report : ApplyReport} :
    c.dryRun = true → c.ListedBy {} (.ok live, session) es → (s.plan live).Rehearsed report →
      SyncedBy c s (.ok (s.plan live, report)) es
  | carriedOut {live : List LiveRecord} {session : Session} {listing later : List Exchange}
    {zone : String} {report : ApplyReport} :
    c.dryRun = false → c.ListedBy {} (.ok live, session) listing → c.Knows zone session →
      c.Sends zone (s.plan live) later → (s.plan live).ReportedBy report →
      SyncedBy c s (.ok (s.plan live, report)) (listing ++ later)

/-- How a run of a desired state goes by these exchanges, entry by entry. -/
inductive RunBy (c : Client) (s : DesiredState) :
    Except Error (Plan × ApplyReport) → List Exchange → Prop where
  | unlisted {e : Error} {session : Session} {es : List Exchange} :
    c.ListedBy {} (.error e, session) es → RunBy c s (.error e) es
  | rehearsed {live : List LiveRecord} {session : Session} {es : List Exchange} :
    c.dryRun = true → c.ListedBy {} (.ok live, session) es →
      RunBy c s (.ok (s.plan live, .ofAnswers ((s.plan live).changes.map Change.rehearsal?))) es
  | answered {live : List LiveRecord} {session : Session} {listing later : List Exchange}
    {zone : String} {os : List (Option Outcome)} :
    c.dryRun = false → c.ListedBy {} (.ok live, session) listing → c.Knows zone session →
      InTurn (c.AnsweredBy zone) (s.plan live).changes os later →
      RunBy c s (.ok (s.plan live, .ofAnswers os)) (listing ++ later)

variable {c : Client} {zone : String}

/-- The request for an action has the method of the action. -/
theorem method_of_actionRequest? {a : ZoneSync.Action} {q : Http.Request}
    (h : c.actionRequest? zone a = some (.ok q)) : a.method? = some q.method := by
  cases a with
  | create r => exact congrArg some (Request.method_eq_of_eq_ok (Option.some.inj h)).symm
  | update id r current => exact congrArg some (Request.method_eq_of_eq_ok (Option.some.inj h)).symm
  | delete id current => exact congrArg some (Request.method_eq_of_eq_ok (Option.some.inj h)).symm
  | unchanged id => exact nomatch h

theorem isSome_actionRequest? (a : ZoneSync.Action) :
    (c.actionRequest? zone a).isSome = a.isMutation := by
  cases a <;> rfl

theorem sends_of_requests {plan : Plan} {es : List Exchange}
    (h : requests es = plan.changes.filterMap (c.actionRequest? zone ·.action)) :
    c.Sends zone plan es := by
  have hrequests :
      (requests es).map some = plan.mutations.map (c.actionRequest? zone ·.action) := by
    rw [h, List.map_filterMap_some_eq_filter_map_isSome, List.filter_map, Plan.mutations]
    simp only [Function.comp_def, isSome_actionRequest?]
  refine ⟨hrequests, ?_⟩
  -- The requests and the entries go together one by one.
  have hpairs : List.Forall₂ (fun x change => some (Except.ok x.request) =
      c.actionRequest? zone change.action) es plan.mutations := by
    rw [requests, List.map_map, ← List.forall₂_eq_eq_eq, List.forall₂_map_left_iff,
      List.forall₂_map_right_iff] at hrequests
    exact hrequests
  rw [← List.forall₂_eq_eq_eq, List.forall₂_map_left_iff, List.forall₂_map_right_iff]
  exact hpairs.imp fun x change h => (method_of_actionRequest? h.symm).symm

/-- The entries of a plan in a dry run are noted as carried out, and nothing is sent. -/
theorem eq_of_rehearsed_in_turn {cs : List Change} {os : List (Option Outcome)}
    {es : List Exchange} (h : InTurn RehearsedBy cs os es) :
    os = cs.map Change.rehearsal? ∧ es = [] := by
  induction h with
  | nil => exact ⟨rfl, rfl⟩
  | cons hc _ ih =>
    obtain ⟨rfl, rfl⟩ := hc
    obtain ⟨rfl, rfl⟩ := ih
    exact ⟨rfl, rfl⟩

/-- An entry has its request sent. -/
theorem AnsweredBy.requests_eq {change : Change} {o : Option Outcome} {es : List Exchange}
    (h : c.AnsweredBy zone change o es) :
    requests es = (c.actionRequest? zone change.action).toList := by
  obtain ⟨-, h⟩ := h
  cases hrequest : c.actionRequest? zone change.action with
  | none =>
    rw [hrequest] at h
    rw [show es = [] from h]
    rfl
  | some request =>
    rw [hrequest] at h
    obtain ⟨q, reply, rfl, rfl, -⟩ := h
    rfl

/-- The entries of a plan outside of dry runs have their requests and their outcomes in order. -/
theorem requests_in_turn {cs : List Change} {os : List (Option Outcome)} {es : List Exchange}
    (h : InTurn (c.AnsweredBy zone) cs os es) :
    List.Forall₂ Change.HasOutcome cs os ∧
      requests es = cs.filterMap (c.actionRequest? zone ·.action) := by
  rw [List.filterMap_eq_flatMap_toList]
  induction h with
  | nil => exact ⟨.nil, rfl⟩
  | cons hc _ ih =>
    obtain ⟨houtcomes, hrequests⟩ := ih
    refine ⟨.cons hc.1 houtcomes, ?_⟩
    rw [requests, List.map_append, List.flatMap_cons, ← hc.requests_eq, ← hrequests]
    rfl

/-- After a listing the zone is known, and requests can be sent to it. -/
theorem ListedBy.exists_zone {s : Session} {live : List LiveRecord} {session : Session}
    {es : List Exchange} (h : c.ListedBy s (.ok live, session) es) :
    ∃ zone, c.Knows zone session ∧ Sendable (c.recordsUrl zone) c.token := by
  obtain ⟨found, lookup, asked, hfound, -, hread⟩ := h
  cases found with
  | ok zone => exact ⟨zone, knows_of_zoneFoundBy hfound, hread.sendable⟩
  | error e => exact nomatch hread.1

/-- The requests of a run are those for its plan. -/
theorem RunBy.syncedBy {s : DesiredState} {result : Except Error (Plan × ApplyReport)}
    {es : List Exchange} (h : c.RunBy s result es) : c.SyncedBy s result es := by
  cases h with
  | unlisted hlisted => exact .unlisted hlisted
  | rehearsed hdry hlisted => exact .rehearsed hdry hlisted (Plan.rehearsed_ofAnswers _)
  | answered hlive hlisted hknows hturns =>
    obtain ⟨houtcomes, hrequests⟩ := requests_in_turn hturns
    exact .carriedOut hlive hlisted hknows (sends_of_requests hrequests)
      (Plan.reportedBy_ofAnswers houtcomes)

variable {m : Type → Type} [Monad m] [LawfulMonad m] (c : Client) (send : Transport m)

/-- A run of a desired state: the zone is listed, and then the plan is carried out, or is not. -/
theorem logs_run (s : DesiredState) :
    Logs (fun p es => c.RunBy s p.1 es) (((c.provider send.logged).sync s).run {}) := by
  rw [Provider.sync_eq, StateT.run_bind]
  refine Logs.bind (c.logs_list send {}) ?_
  rintro ⟨e | live, session⟩ listing hlisted
  · refine Logs.pure_of ?_
    rw [List.append_nil]
    exact .unlisted hlisted
  · obtain ⟨zone, hknows, hsend⟩ := hlisted.exists_zone
    rw [StateT.run_map]
    refine Logs.map ?_
    cases hdry : c.dryRun with
    | true =>
      refine (Logs.mapM_state (fun change _ s hs => logs_answer_dryRun send hdry change s hs)
        session hknows).imp ?_
      rintro ⟨os, _⟩ es ⟨_, hturns⟩
      obtain ⟨rfl, rfl⟩ := eq_of_rehearsed_in_turn hturns
      rw [List.append_nil]
      exact .rehearsed hdry hlisted
    | false =>
      refine (Logs.mapM_state (fun change _ s hs => logs_answer_live send hdry hsend change s hs)
        session hknows).imp ?_
      rintro ⟨os, _⟩ es ⟨_, hturns⟩
      exact .answered hdry hlisted hknows hturns

theorem logs_sync (s : DesiredState) :
    Logs (fun p es => c.SyncedBy s p.1 es) (((c.provider send.logged).sync s).run {}) :=
  (c.logs_run send s).imp fun _ _ h => h.syncedBy

end Client

end Cloudflare

end ZoneSync
