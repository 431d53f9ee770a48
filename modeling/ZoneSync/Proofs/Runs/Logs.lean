import Mathlib.Data.List.Forall2
import ZoneSync.Proofs.Runs.Always

namespace ZoneSync

/-!
# Logs of runs

What a run asks of the outside, and what it hears, is seen in a log that is kept beside it. Nothing
in a run looks at the log, so it only grows.

* `Logged`, `logStep` — runs with a log, and a step that is put down in it;
* `Logs` — every result of a run goes with the events that it has added to the log;
* `Logs.bind`, `Logs.mapM` — the events of a run are those of its steps in turn;
* `Logs.bind_except`, `Logs.bind_action`, `Logs.mapM_state` — the same when a step can fail, and
  when there is a state;
* `InTurn` — elements of a list that are dealt with one after the other, each with its own events;
* `InTurn.exists_turns` — the events can be told apart by their elements.
-/

variable {m : Type → Type} [Monad m] {E α β γ : Type}

/-- A computation that keeps a log. -/
abbrev Logged (E : Type) (m : Type → Type) := StateT (List E) m

/-- A step that is put down in the log, given what came of it. -/
def logStep (event : α → E) (x : m α) : Logged E m α := do
  let a ← StateT.lift x
  modify fun log => log ++ [event a]
  return a

/-- Whatever a computation does, the events that it adds to the log fit its result. -/
def Logs (P : α → List E → Prop) (x : Logged E m α) : Prop :=
  ∀ log, Always (fun p => ∃ events, p.2 = log ++ events ∧ P p.1 events) (x.run log)

/-! ### Lists that are dealt with in turn -/

/-- Every element of a list has its own result and its own events, and the events follow each
    other. -/
inductive InTurn (P : γ → β → List E → Prop) : List γ → List β → List E → Prop where
  | nil : InTurn P [] [] []
  | cons {c : γ} {cs : List γ} {b : β} {bs : List β} {events rest : List E} :
    P c b events → InTurn P cs bs rest → InTurn P (c :: cs) (b :: bs) (events ++ rest)

/-- One element with its result and its events. -/
structure Turn (γ β E : Type) where
  subject : γ
  result : β
  events : List E

namespace InTurn

variable {P : γ → β → List E → Prop} {cs : List γ} {bs : List β} {events : List E}

/-- The events can be told apart by the elements that they belong to. -/
theorem exists_turns (h : InTurn P cs bs events) :
    ∃ turns : List (Turn γ β E), turns.map (·.subject) = cs ∧ turns.map (·.result) = bs ∧
      turns.flatMap (·.events) = events ∧ ∀ t ∈ turns, P t.subject t.result t.events := by
  induction h with
  | nil => exact ⟨[], rfl, rfl, rfl, fun t ht => absurd ht List.not_mem_nil⟩
  | @cons c cs b bs es rest hc _ ih =>
    obtain ⟨turns, rfl, rfl, rfl, hturns⟩ := ih
    exact ⟨⟨c, b, es⟩ :: turns, rfl, rfl, rfl, List.forall_mem_cons.mpr ⟨hc, hturns⟩⟩

end InTurn

/-! ### Steps that can fail, and steps on a state -/

/-- A run comes to a result when its first step comes to one, and what follows comes to the result
    from there. -/
theorem bind_eq_ok_iff {ε : Type} {x : Except ε α} {f : α → Except ε β} {b : β} :
    x >>= f = .ok b ↔ ∃ a, x = .ok a ∧ f a = .ok b := by
  cases x with
  | error e =>
    refine iff_of_false ?_ (by simp)
    intro h
    replace h : Except.error e = .ok b := h
    cases h
  | ok a =>
    simp only [Except.ok.injEq, exists_eq_left']
    rfl

section State

variable [LawfulMonad m] {ε σ : Type} {s : σ}

/-- To look at the state is no step. -/
theorem run_get_bind (f : σ → ExceptT ε (StateT σ m) α) :
    (get >>= f).run.run s = (f s).run.run s := by
  have hget : (get : ExceptT ε (StateT σ m) σ).run.run s = pure (.ok s, s) := by
    show (Except.ok <$> (get : StateT σ m σ)).run s = _
    rw [StateT.run_map, StateT.run_get, map_pure]
  rw [ExceptT.run_bind, StateT.run_bind, hget, pure_bind]

/-- To change the state is no step. -/
theorem run_modify_bind (change : σ → σ) (f : PUnit → ExceptT ε (StateT σ m) α) :
    (modify change >>= f).run.run s = (f ⟨⟩).run.run (change s) := by
  have hmodify : (modify change : ExceptT ε (StateT σ m) PUnit).run.run s =
      pure (.ok ⟨⟩, change s) := by
    show (Except.ok <$> (modify change : StateT σ m PUnit)).run s = _
    rw [StateT.run_map, StateT.run_modify, map_pure]
  rw [ExceptT.run_bind, StateT.run_bind, hmodify, pure_bind]

end State

/-! ### Rules -/

namespace Logs

variable [LawfulMonad m] {P P' : α → List E → Prop} {Q : β → List E → Prop}

theorem imp {x : Logged E m α} (h : ∀ a es, P a es → P' a es) (hx : Logs P x) : Logs P' x := by
  intro log
  refine (hx log).imp ?_
  rintro ⟨a, _⟩ ⟨es, hlog, hP⟩
  exact ⟨es, hlog, h a es hP⟩

/-- Without a step nothing is put down. -/
theorem pure_of {a : α} (h : P a []) : Logs P (pure a : Logged E m α) := by
  intro log
  rw [StateT.run_pure]
  refine Always.pure_of ?_
  exact ⟨[], (List.append_nil log).symm, h⟩

/-- A result without a step leaves the events at those that came before. -/
theorem pure_after {a : α} {es : List E} (h : P a es) :
    Logs (fun b es' => P b (es ++ es')) (pure a : Logged E m α) :=
  pure_of ((List.append_nil es).symm ▸ h)

/-- What follows a computation adds its own events, and may rely on what came before. -/
theorem bind {x : Logged E m α} {f : α → Logged E m β} (hx : Logs P x)
    (hf : ∀ a es, P a es → Logs (fun b es' => Q b (es ++ es')) (f a)) : Logs Q (x >>= f) := by
  intro log
  refine Always.bind (hx log) ?_
  rintro ⟨a, _⟩ ⟨es, rfl, hP⟩
  refine (hf a es hP (log ++ es)).imp ?_
  rintro ⟨b, _⟩ ⟨es', rfl, hQ⟩
  exact ⟨es ++ es', List.append_assoc .., hQ⟩

theorem map {f : α → β} {x : Logged E m α} (hx : Logs (fun a es => Q (f a) es) x) :
    Logs Q (f <$> x) := by
  rw [← bind_pure_comp]
  exact bind hx fun a es hQ => pure_after hQ

/-- A step that is put down is one event. -/
theorem of_logStep (event : α → E) (x : m α) :
    Logs (fun a es => es = [event a]) (logStep event x) := by
  intro log
  have hrun : (logStep event x).run log = x >>= fun a => pure (a, log ++ [event a]) := by
    simp [logStep]
  rw [hrun]
  refine Always.bind_of_forall fun a => Always.pure_of ?_
  exact ⟨[event a], rfl, rfl⟩

/-- The elements of a list are dealt with one after the other. -/
theorem mapM {R : γ → β → List E → Prop} {f : γ → Logged E m β} {cs : List γ}
    (h : ∀ c ∈ cs, Logs (R c) (f c)) : Logs (InTurn R cs) (cs.mapM f) := by
  induction cs with
  | nil => exact pure_of .nil
  | cons c cs ih =>
    obtain ⟨hc, hcs⟩ := List.forall_mem_cons.mp h
    rw [List.mapM_cons]
    refine bind hc fun b es hb => bind (ih hcs) fun bs rest hbs => pure_of ?_
    rw [List.append_nil]
    exact .cons hb hbs

/-! ### Runs that can fail, and runs with a state -/

variable {ε σ : Type}

/-- A run that can fail ends with its first failure. -/
theorem bind_except {P : Except ε α → List E → Prop} {Q : Except ε β → List E → Prop}
    {x : ExceptT ε (Logged E m) α} {f : α → ExceptT ε (Logged E m) β} (hx : Logs P x.run)
    (herror : ∀ e es, P (.error e) es → Q (.error e) es)
    (hok : ∀ a es, P (.ok a) es → Logs (fun r es' => Q r (es ++ es')) (f a).run) :
    Logs Q (x >>= f).run := by
  rw [ExceptT.run_bind]
  refine bind hx ?_
  rintro (e | a) es hP
  · exact pure_after (herror e es hP)
  · exact hok a es hP

/-- What follows a failure leaves the state alone. -/
theorem bind_action {P : Except ε α × σ → List E → Prop} {Q : Except ε β × σ → List E → Prop}
    {x : ExceptT ε (StateT σ (Logged E m)) α} {f : α → ExceptT ε (StateT σ (Logged E m)) β} {s : σ}
    (hx : Logs P (x.run.run s)) (herror : ∀ e s' es, P (.error e, s') es → Q (.error e, s') es)
    (hok : ∀ a s' es, P (.ok a, s') es →
      Logs (fun r es' => Q r (es ++ es')) ((f a).run.run s')) :
    Logs Q ((x >>= f).run.run s) := by
  rw [ExceptT.run_bind, StateT.run_bind]
  refine bind hx ?_
  rintro ⟨e | a, s'⟩ es hP
  · exact pure_after (herror e s' es hP)
  · exact hok a s' es hP

/-- The elements of a list are dealt with one after the other, and each of them keeps what is known
    of the state. -/
theorem mapM_state {known : σ → Prop} {R : γ → β → List E → Prop}
    {f : γ → StateT σ (Logged E m) β} {cs : List γ}
    (h : ∀ c ∈ cs, ∀ s, known s → Logs (fun p es => known p.2 ∧ R c p.1 es) ((f c).run s)) :
    ∀ s, known s → Logs (fun p es => known p.2 ∧ InTurn R cs p.1 es) ((cs.mapM f).run s) := by
  induction cs with
  | nil => exact fun s hs => pure_of ⟨hs, .nil⟩
  | cons c cs ih =>
    intro s hs
    obtain ⟨hc, hcs⟩ := List.forall_mem_cons.mp h
    rw [List.mapM_cons, StateT.run_bind]
    refine bind (hc s hs) ?_
    rintro ⟨b, s'⟩ es ⟨hs', hb⟩
    rw [StateT.run_bind]
    refine bind (ih hcs s' hs') ?_
    rintro ⟨bs, s''⟩ rest ⟨hs'', hbs⟩
    refine pure_of ⟨hs'', ?_⟩
    rw [List.append_nil]
    exact .cons hb hbs

end Logs

end ZoneSync
