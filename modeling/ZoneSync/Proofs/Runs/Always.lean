import Mathlib.Tactic.Choose

namespace ZoneSync

/-!
# Results of runs

A run in a monad may have many results, or none: what it comes to depends on what the monad does.

* `Always` — all results of a run have a property, whatever else it does;
* `always_iff_forall` — for a state machine this says so of every state to start from.
-/

variable {m : Type → Type} [Monad m]

/-- All results of a computation have a property. -/
def Always {α : Type} (p : α → Prop) (x : m α) : Prop :=
  ∃ y : m (Subtype p), Subtype.val <$> y = x

namespace Always

variable [LawfulMonad m] {α β : Type} {p p' : α → Prop} {q : β → Prop}

theorem pure_of {a : α} (h : p a) : Always p (pure a : m α) :=
  ⟨pure ⟨a, h⟩, by rw [map_pure]⟩

/-- Nothing is asked of the results. -/
theorem of_forall {x : m α} (h : ∀ a, p a) : Always p x := by
  refine ⟨(fun a => ⟨a, h a⟩) <$> x, ?_⟩
  rw [Functor.map_map]
  exact id_map x

theorem imp {x : m α} (h : ∀ a, p a → p' a) (hx : Always p x) : Always p' x := by
  obtain ⟨y, rfl⟩ := hx
  refine ⟨(fun a => ⟨a.1, h a.1 a.2⟩) <$> y, ?_⟩
  rw [Functor.map_map]

/-- What follows a computation may rely on what its results are like. -/
theorem bind {x : m α} {f : α → m β} (hx : Always p x) (hf : ∀ a, p a → Always q (f a)) :
    Always q (x >>= f) := by
  obtain ⟨y, rfl⟩ := hx
  choose z hz using fun a : Subtype p => hf a.1 a.2
  refine ⟨y >>= z, ?_⟩
  rw [map_bind, bind_map_left]
  exact bind_congr hz

/-- What comes first does not matter when nothing is relied on. -/
theorem bind_of_forall {x : m α} {f : α → m β} (hf : ∀ a, Always q (f a)) : Always q (x >>= f) :=
  bind (p := fun _ => True) (of_forall fun _ => trivial) fun a _ => hf a

end Always

/-- A state machine has one result for every state to start from. -/
theorem always_iff_forall {σ α : Type} {p : α → Prop} {x : StateM σ α} :
    Always p x ↔ ∀ s, p (x.run s).1 := by
  constructor
  · rintro ⟨y, rfl⟩ s
    exact (y.run s).1.2
  · intro h
    exact ⟨fun s => (⟨(x.run s).1, h s⟩, (x.run s).2), rfl⟩

end ZoneSync
