import ZoneSync.Config.Basic

namespace ZoneSync

/-!
# Registries

A registry knows how to make something — a provider — from a configuration, by the name of the
type of the configuration.

* `Registry.register` — the registry with a factory under a name, in place of an earlier one;
* `Registry.create` — what the factory for a configuration makes of it;
* `Registry.names` — the names in order.
-/

/-- Makes a provider, or whatever stands for it, from a configuration. -/
abbrev Factory (α : Type) := ProviderConfig → Except Error α

/-- Factories by name, the latest first. -/
structure Registry (α : Type) where
  factories : List (String × Factory α) := []

namespace Registry

variable {α : Type}

/-- The registry with a factory under a name, in place of an earlier one. -/
def register (r : Registry α) (name : String) (factory : Factory α) : Registry α :=
  ⟨(name, factory) :: r.factories.filter (·.1 ≠ name)⟩

/-- The factory under a name. -/
def factory? (r : Registry α) (name : String) : Option (Factory α) :=
  (r.factories.find? (·.1 = name)).map (·.2)

/-- Whether there is a factory under a name. -/
def has (r : Registry α) (name : String) : Bool := (r.factory? name).isSome

/-- The names in the order of their characters. -/
def names (r : Registry α) : List String :=
  (r.factories.map (·.1)).mergeSort fun a b => a ≤ b

/-- What the factory for a configuration makes of it. -/
def create (r : Registry α) (config : ProviderConfig) : Except Error α :=
  match r.factory? config.typeName with
  | some factory => factory config
  | none => .error (.config ("Unknown provider type: " ++ config.typeName))

/-- A factory is found under the name that it was registered with. -/
@[simp] theorem factory?_register_self (r : Registry α) (name : String) (factory : Factory α) :
    (r.register name factory).factory? name = some factory := by
  simp [register, factory?]

/-- A registration leaves the factories of other names alone. -/
theorem factory?_register_of_ne (r : Registry α) {name other : String} (factory : Factory α)
    (h : name ≠ other) : (r.register name factory).factory? other = r.factory? other := by
  unfold register factory?
  rw [List.find?_cons_of_neg (by simpa using h)]
  congr 1
  induction r.factories with
  | nil => rfl
  | cons f fs ih =>
    by_cases hf : f.1 = name
    · rw [List.filter_cons_of_neg (by simpa using hf), ih, List.find?_cons_of_neg (by simp [hf, h])]
    · rw [List.filter_cons_of_pos (by simpa using hf), List.find?_cons, List.find?_cons, ih]

end Registry

end ZoneSync
