import ZoneSync.Proofs.Plan.Answers
import ZoneSync.Zone

namespace ZoneSync

/-!
# Clients that ask for one thing at a time

A run asks its provider for one thing after the other, and others may come in between. A client is a
run that can be stopped before every request: the tree of what it asks for next, whatever the answer
to the last request was.

* `Request`, `Request.Answer` — what can be asked of a provider, and what it says;
* `Client`, `Client.provider` — runs that stop before every request;
* `Zone.serve`, `Client.runOn` — one request, and a client that is alone with a zone;
* `Client.runOn_sync` — alone, a client does what a run on the zone does;
* `Client.resume` — a client in the middle of a plan.
-/

/-! ### Requests -/

/-- What can be asked of a provider. -/
inductive Request where
  | list
  | create (record : Record)
  | update (id : String) (record : Record)
  | delete (id : String)
  deriving DecidableEq, Repr

namespace Request

/-- What a provider says to a request. -/
def Answer : Request → Type
  | list => Except Error (List LiveRecord)
  | create _ => Except Error String
  | update _ _ => Except Error Unit
  | delete _ => Except Error Unit

/-- Why a request failed, if it did. -/
def failure? : (q : Request) → q.Answer → Option String
  | list, a => ZoneSync.failure? (α := List LiveRecord) a
  | create _, a => ZoneSync.failure? (α := String) a
  | update _ _, a => ZoneSync.failure? (α := Unit) a
  | delete _, a => ZoneSync.failure? (α := Unit) a

/-- What a report on a plan says about a request, if it says anything. -/
def outcome? (key : RecordKey) : (q : Request) → q.Answer → Option Outcome
  | list, _ => none
  | create r, a => some ⟨key, .create, failure? (create r) a⟩
  | update id r, a => some ⟨key, .update, failure? (update id r) a⟩
  | delete id, a => some ⟨key, .delete, failure? (delete id) a⟩

end Request

/-- The request for an action, unless it asks for nothing. -/
def Action.request? : Action → Option Request
  | .create r => some (.create r)
  | .update id r _ => some (.update id r)
  | .delete id _ => some (.delete id)
  | .unchanged _ => none

/-- An action asks for something when it has a request. -/
theorem Action.isMutation_of_request? {a : Action} {q : Request} (h : a.request? = some q) :
    a.isMutation = true := by
  cases a with
  | unchanged id => exact nomatch h
  | create r => rfl
  | update id r current => rfl
  | delete id current => rfl

/-- A deletion is asked for as such, and by nothing else. -/
theorem Action.request?_eq_delete_iff {a : Action} {id : String} :
    a.request? = some (.delete id) ↔ ∃ current, a = .delete id current := by
  constructor
  · intro h
    cases a with
    | delete id' current =>
      rw [Request.delete.inj (Option.some.inj h)]
      exact ⟨current, rfl⟩
    | create r => exact nomatch Option.some.inj h
    | update id' r current => exact nomatch Option.some.inj h
    | unchanged id' => exact nomatch h
  · rintro ⟨current, rfl⟩
    rfl

/-- An action asks for nothing when it keeps a record. -/
theorem Action.request?_eq_none_iff {a : Action} :
    a.request? = none ↔ ∃ id, a = .unchanged id := by
  constructor
  · intro h
    cases a with
    | unchanged id => exact ⟨id, rfl⟩
    | create r => exact nomatch h
    | update id r current => exact nomatch h
    | delete id current => exact nomatch h
  · rintro ⟨id, rfl⟩
    rfl

/-! ### Clients -/

/-- A run that can be stopped before every request. -/
inductive Client (α : Type) where
  | done (result : α)
  | ask (q : Request) (next : q.Answer → Client α)

namespace Client

variable {α β : Type}

/-- Go on with another client. -/
def bind : Client α → (α → Client β) → Client β
  | done a, f => f a
  | ask q next, f => ask q fun answer => (next answer).bind f

instance : Monad Client where
  pure := done
  bind := bind

theorem bind_done (c : Client α) : c.bind done = c := by
  induction c with
  | done a => rfl
  | ask q next ih => exact congrArg (ask q) (funext ih)

theorem bind_bind {γ : Type} (c : Client α) (f : α → Client β) (g : β → Client γ) :
    (c.bind f).bind g = c.bind fun a => (f a).bind g := by
  induction c with
  | done a => rfl
  | ask q next ih => exact congrArg (ask q) (funext ih)

instance : LawfulMonad Client := .mk' Client bind_done (fun _ _ => rfl) bind_bind

/-- A provider for which every request is one to stop before. -/
def provider : Provider Client where
  name := "memory"
  list := ask .list done
  create r := ask (.create r) done
  update id r := ask (.update id r) done
  delete id := ask (.delete id) done

/-- An entry is asked for by its request, and its outcome is what became of that. -/
theorem answer_eq (c : Change) :
    provider.answer c =
      match c.action.request? with
      | none => done none
      | some q => ask q fun a => done (q.outcome? c.key a) := by
  unfold Provider.answer
  cases c.action with
  | create r => rfl
  | update id r current => rfl
  | delete id current => rfl
  | unchanged id => rfl

end Client

/-! ### Clients and zones -/

/-- One request. -/
def Zone.serve (z : Zone) : (q : Request) → q.Answer × Zone
  | .list => z.list
  | .create r => z.create r
  | .update id r => z.update id r
  | .delete id => z.delete id

namespace Client

variable {α β : Type}

/-- A client that is alone with a zone. -/
def runOn : Client α → StateM Zone α
  | done a => pure a
  | ask q next => fun z => (next (z.serve q).1).runOn (z.serve q).2

theorem runOn_bind (c : Client α) (f : α → Client β) :
    (c >>= f).runOn = c.runOn >>= fun a => (f a).runOn := by
  induction c with
  | done a => rfl
  | ask q next ih =>
    funext z
    exact congrFun (ih (z.serve q).1) (z.serve q).2

theorem runOn_map (g : α → β) (c : Client α) : (g <$> c).runOn = g <$> c.runOn := by
  rw [← bind_pure_comp, runOn_bind, ← bind_pure_comp]
  rfl

theorem runOn_answer (c : Change) : (provider.answer c).runOn = Zone.provider.answer c := by
  rw [answer_eq]
  unfold Provider.answer
  cases c.action with
  | create r => rfl
  | update id r current => rfl
  | delete id current => rfl
  | unchanged id => rfl

theorem runOn_mapM_answer (cs : List Change) :
    (cs.mapM provider.answer).runOn = cs.mapM Zone.provider.answer := by
  induction cs with
  | nil => rfl
  | cons c cs ih =>
    rw [List.mapM_cons, List.mapM_cons, runOn_bind, runOn_answer]
    refine congrArg _ (funext fun o => ?_)
    rw [runOn_bind, ih]
    rfl

/-- Alone with a zone, a client does what a run on the zone does. -/
theorem runOn_sync (s : DesiredState) :
    (provider.sync s).runOn = Zone.provider.sync s := by
  have hlist : provider.list.runOn = Zone.provider.list := rfl
  rw [Provider.sync_eq, Provider.sync_eq, runOn_bind, hlist]
  refine congrArg _ (funext fun answer => ?_)
  cases answer with
  | ok live => rw [runOn_map, runOn_mapM_answer]
  | error e => rfl

/-! ### In the middle of a plan -/

/-- A client that has asked for some entries of a plan, with these outcomes, and goes on with the
    rest. -/
def resume (plan : Plan) (past : List (Option Outcome)) (rest : List Change) :
    Client (Except Error (Plan × ApplyReport)) :=
  (fun os => .ok (plan, .ofAnswers (past ++ os))) <$> rest.mapM provider.answer

theorem resume_nil (plan : Plan) (past : List (Option Outcome)) :
    resume plan past [] = done (.ok (plan, .ofAnswers past)) := by
  rw [resume, List.mapM_nil, map_pure, List.append_nil]
  rfl

theorem resume_cons (plan : Plan) (past : List (Option Outcome)) (c : Change)
    (rest : List Change) :
    resume plan past (c :: rest) =
      provider.answer c >>= fun o => resume plan (past ++ [o]) rest := by
  rw [resume, List.mapM_cons, map_bind]
  refine congrArg _ (funext fun o => ?_)
  rw [resume, map_bind]
  simp only [map_pure, bind_pure_comp, List.append_assoc, List.singleton_append]

/-- An entry that asks for nothing is passed over at once. -/
theorem resume_cons_of_none {plan : Plan} {past : List (Option Outcome)} {c : Change}
    {rest : List Change} (h : c.action.request? = none) :
    resume plan past (c :: rest) = resume plan (past ++ [none]) rest := by
  rw [resume_cons, answer_eq, h]
  rfl

/-- Before any other entry the client can be stopped. -/
theorem resume_cons_of_some {plan : Plan} {past : List (Option Outcome)} {c : Change}
    {rest : List Change} {q : Request} (h : c.action.request? = some q) :
    resume plan past (c :: rest) =
      ask q fun a => resume plan (past ++ [q.outcome? c.key a]) rest := by
  rw [resume_cons, answer_eq, h]
  rfl

/-- What a client does with the live records: it goes on with the plan for them. -/
def planFor (s : DesiredState) :
    Except Error (List LiveRecord) → Client (Except Error (Plan × ApplyReport))
  | .ok live => resume (s.plan live) [] (s.plan live).changes
  | .error e => done (.error e)

/-- A client stops before it reads the live records. -/
theorem sync_eq_ask (s : DesiredState) : provider.sync s = ask .list (planFor s) := by
  rw [Provider.sync_eq]
  refine congrArg (ask .list) (funext fun answer => ?_)
  cases answer with
  | ok live => rfl
  | error e => rfl

end Client

end ZoneSync
