import Mathlib.Data.List.Forall2
import ZoneSync.Yaml.Reading

namespace ZoneSync.Yaml

/-!
# What readings find

A reading goes down from the root of a document: to the fields of mappings, to the items of
sequences, and through aliases to the nodes for which these stand. Here are the steps down, said
without the readings, and the nodes that a reading comes to when it gives a value.

* `Reading.Gives` — a reading gives a value; `Gives.bind` and its like take readings apart;
* `Node.target?`, `Node.field?`, `Node.item?` — the steps from a node to those within;
* `find?_of_gives_readFields`, `exists_of_gives_readField`, `exists_of_gives_readItems` — readings
  of collections come to the nodes of these steps;
* `integerLiteral?_of_gives_readValue` — a plain scalar with an integer for its value writes it.
-/

variable {α β : Type} {anchors : List (Nat × Node Nat)}

/-! ### Readings that give a value -/

namespace Reading

/-- A reading gives a value for some number of aliases that may be followed. -/
def Gives (anchors : List (Nat × Node Nat)) (r : Reading α) (x : α) : Prop :=
  ∃ left left', (ReaderT.run r anchors).run left = .ok (x, left')

theorem gives_of_run {doc : Document} {read : Option (Node Nat) → Reading α} {x : α}
    (h : run doc read = .ok x) : Gives doc.anchors (read doc.root) x := by
  unfold run at h
  cases hread : (ReaderT.run (read doc.root) doc.anchors).run doc.aliasLimit with
  | error fault =>
    rw [hread] at h
    exact nomatch h
  | ok found =>
    rw [hread] at h
    obtain rfl := Except.ok.inj h
    exact ⟨_, _, hread⟩

namespace Gives

theorem bind {r : Reading α} {f : α → Reading β} {y : β} (h : Gives anchors (r >>= f) y) :
    ∃ x, Gives anchors r x ∧ Gives anchors (f x) y := by
  obtain ⟨left, left', h⟩ := h
  rw [ReaderT.run_bind, StateT.run_bind] at h
  cases hr : (ReaderT.run r anchors).run left with
  | error fault =>
    rw [hr] at h
    exact nomatch h
  | ok found =>
    rw [hr] at h
    exact ⟨found.1, ⟨_, _, hr⟩, ⟨_, _, h⟩⟩

theorem pure {x y : α} (h : Gives anchors (Pure.pure x) y) : x = y := by
  obtain ⟨left, left', h⟩ := h
  exact congrArg Prod.fst (Except.ok.inj h)

theorem lift {e : Except Fault α} {x : α} (h : Gives anchors (liftM e) x) : e = .ok x := by
  obtain ⟨left, left', h⟩ := h
  cases e with
  | error fault => exact nomatch h
  | ok y => exact congrArg (Except.ok ∘ Prod.fst) (Except.ok.inj h)

theorem read {known : List (Nat × Node Nat)}
    (h : Gives anchors (MonadReader.read : Reading _) known) : known = anchors := by
  obtain ⟨left, left', h⟩ := h
  exact (congrArg Prod.fst (Except.ok.inj h)).symm

theorem not_throw {fault : Fault} {x : α} : ¬ Gives anchors (throw fault) x := by
  rintro ⟨left, left', h⟩
  exact nomatch h

/-- The values of a list are given one by one. -/
theorem mapM {read : α → Reading β} {items : List α} {xs : List β}
    (h : Gives anchors (items.mapM read) xs) :
    List.Forall₂ (fun item x => Gives anchors (read item) x) items xs := by
  induction items generalizing xs with
  | nil =>
    rw [List.mapM_nil] at h
    rw [← h.pure]
    exact .nil
  | cons item items ih =>
    rw [List.mapM_cons] at h
    obtain ⟨x, hx, h⟩ := h.bind
    obtain ⟨rest, hrest, h⟩ := h.bind
    rw [← h.pure]
    exact .cons hx (ih hrest)

end Gives

end Reading

open Reading

/-! ### Steps down -/

namespace Node

/-- The node that an alias stands for; any other node stands for itself. -/
def target? (anchors : List (Nat × Node Nat)) : Node Nat → Option (Node Nat)
  | .alias n => (anchors.find? (·.1 = n)).map (·.2)
  | node => some node

/-- The text of a key. -/
def keyText? (anchors : List (Nat × Node Nat)) (key : Node Nat) : Option String :=
  match key.target? anchors with
  | some (.scalar _ text _) => some text
  | _ => none

/-- The node of a field. -/
def field? (anchors : List (Nat × Node Nat)) (name : String) (node : Node Nat) :
    Option (Node Nat) :=
  match node.target? anchors with
  | some (.mapping _ entries) =>
    (entries.find? fun entry => entry.1.keyText? anchors = some name).map (·.2)
  | _ => none

/-- The node of an item. -/
def item? (anchors : List (Nat × Node Nat)) (index : Nat) (node : Node Nat) :
    Option (Node Nat) :=
  match node.target? anchors with
  | some (.sequence _ items) => items[index]?
  | _ => none

end Node

/-! ### Readings of collections -/

theorem target?_of_gives_follow {node node' : Node Nat} (h : Gives anchors (follow node) node') :
    node.target? anchors = some node' := by
  unfold follow at h
  split at h
  · rename_i n
    obtain ⟨left, _, h⟩ := h.bind
    cases left with
    | zero => exact absurd h Gives.not_throw
    | succ left =>
      obtain ⟨_, _, h⟩ := h.bind
      obtain ⟨known, hknown, h⟩ := h.bind
      obtain rfl := hknown.read
      split at h
      · rename_i node hfind
        rw [Node.target?, hfind, ← h.pure, Option.map_some]
      · exact absurd h Gives.not_throw
  · rename_i hnode
    rw [← h.pure]
    unfold Node.target?
    split
    · exact absurd rfl (hnode _)
    · rfl

/-- Only one step goes through an alias. -/
theorem Node.item?_of_target? {node target item : Node Nat} {index : Nat}
    (htarget : node.target? anchors = some target) (h : node.item? anchors index = some item) :
    target.item? anchors index = some item := by
  unfold Node.item? at h ⊢
  rw [htarget] at h
  split at h
  · rename_i htarget
    rw [Option.some.inj htarget]
    exact h
  · exact nomatch h

theorem keyText?_of_gives_readKey {key : Node Nat} {name : String}
    (h : Gives anchors (readKey key) name) : key.keyText? anchors = some name := by
  obtain ⟨node, hnode, h⟩ := h.bind
  rw [Node.keyText?, target?_of_gives_follow hnode]
  split at h
  · rw [← h.pure]
  · exact absurd h Gives.not_throw

/-- Among the fields found, a known one has the node of the first entry under its name. -/
theorem find?_of_gives_readEntries {known : List String} {name : String} (hname : name ∈ known)
    {entries : List (Node Nat × Node Nat)} {found fields : List (String × Node Nat)}
    (h : Gives anchors (readEntries known entries found) fields) :
    fields.find? (·.1 = name) =
      (found.find? (·.1 = name)).or
        ((entries.find? fun entry => entry.1.keyText? anchors = some name).map
          fun entry => (name, entry.2)) := by
  -- What was found before comes first, and it grows by one entry at each step.
  induction entries generalizing found with
  | nil =>
    rw [← h.pure, List.find?_nil, Option.map_none, Option.or_none]
  | cons entry entries ih =>
    obtain ⟨key, value⟩ := entry
    obtain ⟨name', hkey, h⟩ := h.bind
    have htext := keyText?_of_gives_readKey hkey
    split at h
    -- A key that is not known is passed over.
    · rename_i hunknown
      have hne : name' ≠ name := fun heq => hunknown (heq ▸ hname)
      rw [ih h, List.find?_cons_of_neg (by simp [htext, hne])]
    · split at h
      · exact absurd h Gives.not_throw
      · rename_i hnew
        rw [ih h, List.find?_append, Option.or_assoc]
        -- The new entry is the one that is looked for, or it is passed over on both sides.
        congr 1
        by_cases heq : name' = name
        · subst heq
          rw [List.find?_cons_of_pos (by simp), Option.some_or,
            List.find?_cons_of_pos (by simp [htext])]
          rfl
        · rw [List.find?_cons_of_neg (by simp [heq]), List.find?_nil, Option.none_or,
            List.find?_cons_of_neg (by simp [htext, heq])]

/-- The node of a known field of a mapping. -/
theorem find?_of_gives_readFields {known : List String} {name : String} (hname : name ∈ known)
    {node : Node Nat} {fields : List (String × Node Nat)}
    (h : Gives anchors (readFields known (some node)) fields) :
    fields.find? (·.1 = name) = (node.field? anchors name).map fun value => (name, value) := by
  obtain ⟨node', hnode, h⟩ := h.bind
  rw [Node.field?, target?_of_gives_follow hnode]
  split at h
  · rw [find?_of_gives_readEntries hname h, List.find?_nil, Option.none_or, Option.map_map]
    rfl
  -- What is no mapping can only be empty, and has no fields.
  · rename_i hmapping
    split at h
    · rw [← h.pure]
      split
      · rename_i hnode'
        exact (hmapping _ _ (Option.some.inj hnode')).elim
      · rfl
    · exact absurd h Gives.not_throw

/-- A field with a value is among those found, and the value is that of its node. -/
theorem exists_of_gives_readField {name : String} {fields : List (String × Node Nat)}
    {read : Node Nat → Reading α} {x : α}
    (h : Gives anchors (readField fields name read) (some x)) :
    ∃ node target, fields.find? (·.1 = name) = some (name, node) ∧
      node.target? anchors = some target ∧ Gives anchors (read target) x := by
  unfold readField at h
  split at h
  · rename_i name' node hfind
    have hname : name' = name := of_decide_eq_true (List.find?_some hfind :)
    obtain ⟨target, htarget, h⟩ := h.bind
    obtain ⟨absent, _, h⟩ := h.bind
    -- A field that is null has no value.
    split at h
    · exact nomatch h.pure
    · obtain ⟨y, hy, h⟩ := h.bind
      obtain rfl := Option.some.inj h.pure
      exact ⟨node, target, hname ▸ hfind, target?_of_gives_follow htarget, hy⟩
  · exact nomatch h.pure

/-- The values of items are those of their nodes. -/
theorem exists_of_gives_readItems {read : Node Nat → Reading α} {node : Node Nat} {xs : List α}
    (h : Gives anchors (readItems read node) xs) {index : Nat} {x : α}
    (hx : xs[index]? = some x) :
    ∃ item, node.item? anchors index = some item ∧ Gives anchors (read item) x := by
  obtain ⟨node', hnode, h⟩ := h.bind
  rw [Node.item?, target?_of_gives_follow hnode]
  split at h
  · rename_i items
    obtain ⟨hlength, hgives⟩ := List.forall₂_iff_get.mp h.mapM
    obtain ⟨hindex, hget⟩ := List.getElem?_eq_some_iff.mp hx
    have hindex' : index < items.length := hlength ▸ hindex
    refine ⟨items[index], List.getElem?_eq_getElem hindex', ?_⟩
    rw [← hget]
    exact hgives index hindex' hindex
  · split at h
    · rw [← h.pure] at hx
      exact nomatch hx
    · exact absurd h Gives.not_throw

/-! ### Integers -/

theorem integerLiteral?_of_integerValue? {s : String} {n : Int}
    (h : integerValue? s = some (.ok (.number (.integer n)))) :
    integerLiteral? s.toList = some n := by
  unfold integerValue? at h
  split at h
  · rename_i m hm
    split at h
    · simp only [Option.some.injEq, Except.ok.injEq, Value.number.injEq,
        Number.integer.injEq] at h
      rw [hm, h]
    · split at h
      · exact nomatch h
      · exact nomatch h
  · exact nomatch h

/-- A plain scalar with an integer for its value writes it. -/
theorem integerLiteral?_of_ofPlain {s : String} {n : Int}
    (h : Value.ofPlain s = .ok (.number (.integer n))) : integerLiteral? s.toList = some n := by
  unfold Value.ofPlain at h
  split at h
  · exact nomatch h
  · split at h
    · exact nomatch h
    · split at h
      · rename_i result hresult
        exact integerLiteral?_of_integerValue? (hresult.trans (congrArg some h))
      · split at h
        · exact nomatch h
        · split at h
          · exact nomatch h
          · exact nomatch h

theorem integerLiteral?_of_ofTagged {tag : ScalarTag} {s : String} {n : Int}
    (h : Value.ofTagged tag s = .ok (.number (.integer n))) :
    integerLiteral? s.toList = some n := by
  -- Only one of the tags makes an integer of a scalar.
  cases tag with
  | bool =>
    dsimp only [Value.ofTagged] at h
    cases hb : boolWord? s with
    | none =>
      rw [hb] at h
      exact nomatch h
    | some b =>
      rw [hb] at h
      exact nomatch h
  | int =>
    dsimp only [Value.ofTagged] at h
    cases hvalue : integerValue? s with
    | none =>
      rw [hvalue] at h
      exact nomatch h
    | some result =>
      rw [hvalue, Option.getD_some] at h
      exact integerLiteral?_of_integerValue? (hvalue.trans (congrArg some h))
  | float =>
    dsimp only [Value.ofTagged] at h
    cases hx : floatValue? s with
    | none =>
      rw [hx] at h
      exact nomatch h
    | some x =>
      rw [hx] at h
      exact nomatch h
  | null =>
    dsimp only [Value.ofTagged] at h
    split at h
    · exact nomatch h
    · exact nomatch h

/-- A scalar without quotes that has an integer for its value writes it, whatever its tag. -/
theorem integerLiteral?_of_gives_readHere {child? : Option (Node Nat → Reading Value)}
    {props : Properties Nat} {word : String} {n : Int}
    (h : Gives anchors (readHere child? (.scalar props word true)) (.number (.integer n))) :
    integerLiteral? word.toList = some n := by
  unfold readHere at h
  split at h
  -- A tag of its own stays on the value, which is no number then.
  · obtain ⟨value, _, h⟩ := h.bind
    exact nomatch h.pure
  · split at h
    · split at h
      · rename_i heq _ _ _
        injection heq with _ heq
        exact integerLiteral?_of_ofTagged (heq ▸ h.lift)
      · exact nomatch h.pure
    · exact integerLiteral?_of_ofPlain h.lift

/-- A scalar without quotes that has an integer for its value writes it, whatever its tag. -/
theorem integerLiteral?_of_gives_readValue {room : Nat} {props : Properties Nat} {word : String}
    {n : Int}
    (h : Gives anchors (readValue room (.scalar props word true)) (.number (.integer n))) :
    integerLiteral? word.toList = some n := by
  cases room with
  | zero =>
    obtain ⟨node, hnode, h⟩ := h.bind
    rw [← hnode.pure] at h
    exact integerLiteral?_of_gives_readHere h
  | succ room =>
    obtain ⟨node, hnode, h⟩ := h.bind
    rw [← hnode.pure] at h
    exact integerLiteral?_of_gives_readHere h

end ZoneSync.Yaml
