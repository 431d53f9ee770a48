import ZoneSync.Http.Exchange
import ZoneSync.Proofs.Text.Ends

namespace ZoneSync.Http

open Text

/-!
# Requests that can be put together

* `Request.of_eq_ok_iff` — what a request is when it can be put together;
* `Sendable`, `Request.exists_of_iff` — whether it can be is a matter of the address and the token;
* `Url.origin?`, `Url.map_parse?_eq` — the parts of an address that say where it leads;
* `Sendable.of_below` — the addresses below one place lead to one host, whatever their names are.
-/

theorem Url.scheme_addQuery (u : Url) (fields : List (String × String)) :
    (u.addQuery fields).scheme = u.scheme := by
  unfold Url.addQuery
  dsimp only
  split <;> rfl

variable {method : Method} {address token : String} {query : List (String × String)}
  {body : Option Json}

theorem Request.of_eq_ok_iff {q : Request} :
    Request.of method address query token body = .ok q ↔
      ∃ url, Url.parse? address = some url ∧ isHeaderText token = true ∧
        url.scheme ∈ ["http", "https"] ∧ q = ⟨method, url.addQuery query, token, body⟩ := by
  unfold Request.of
  cases Url.parse? address with
  | none => simp
  | some url =>
    dsimp only
    rw [Url.scheme_addQuery]
    by_cases htoken : isHeaderText token = true
    · by_cases hscheme : url.scheme ∈ ["http", "https"]
      · rw [if_neg (by simp [htoken]), if_neg (not_not_intro hscheme)]
        constructor
        · exact fun h => ⟨url, rfl, htoken, hscheme, (Except.ok.inj h).symm⟩
        · rintro ⟨_, hurl, _, _, rfl⟩
          rw [Option.some.inj hurl]
      · rw [if_neg (by simp [htoken]), if_pos hscheme]
        refine iff_of_false nofun ?_
        rintro ⟨_, hurl, _, hscheme', _⟩
        exact hscheme (Option.some.inj hurl ▸ hscheme')
    · rw [if_pos (by simp [htoken])]
      exact iff_of_false nofun fun ⟨_, _, htoken', _⟩ => htoken htoken'

theorem Request.method_eq_of_eq_ok {q : Request}
    (h : Request.of method address query token body = .ok q) : q.method = method := by
  obtain ⟨_, _, _, _, rfl⟩ := Request.of_eq_ok_iff.mp h
  rfl

/-- Whether requests can be sent to an address with a token. -/
def Sendable (address token : String) : Prop :=
  ∃ url, Url.parse? address = some url ∧ isHeaderText token = true ∧
    url.scheme ∈ ["http", "https"]

/-- What is asked for, and with which query, does not matter. -/
theorem Request.exists_of_iff :
    (∃ q, Request.of method address query token body = .ok q) ↔ Sendable address token := by
  simp only [Request.of_eq_ok_iff]
  constructor
  · rintro ⟨_, url, hurl, htoken, hscheme, _⟩
    exact ⟨url, hurl, htoken, hscheme⟩
  · rintro ⟨url, hurl, htoken, hscheme⟩
    exact ⟨_, url, hurl, htoken, hscheme, rfl⟩

namespace Url

/-! ### Where an address leads -/

/-- The text of a host with its port, in what follows the slashes after a scheme. -/
def authority (cs : List Char) : List Char :=
  (((cs.takeWhile (· ≠ '#')).takeWhile (· ≠ '?')).takeWhile (!isSlash ·))

/-- The parts of an address that say where it leads. -/
def origin? (cs : List Char) : Option (String × Host × Option Nat) := do
  let (scheme, rest) ← cutScheme? cs
  let (host, digits) := cutPort (dropCredentials (authority (rest.dropWhile isSlash)))
  return (scheme, ← Host.parse? host, ← readPort? scheme digits)

theorem cutAt_fst (sep : Char) (cs : List Char) : (cutAt sep cs).1 = cs.takeWhile (· ≠ sep) := by
  unfold cutAt
  split
  · rename_i h
    have happend := List.takeWhile_append_dropWhile (p := (· ≠ sep)) (l := cs)
    rw [h, List.append_nil] at happend
    exact happend.symm
  · rfl

theorem map_parse?_eq {s scheme : String} {rest : List Char}
    (h : cutScheme? (clean s.toList) = some (scheme, rest))
    (hscheme : (defaultPort? scheme).isSome = true) :
    (parse? s).map (fun u => (u.scheme, u.host, u.port)) = origin? (clean s.toList) := by
  rw [parse?, origin?, h]
  simp only [Option.bind_eq_bind, Option.bind_some]
  rw [if_neg (by simp [Option.isSome_iff_ne_none.mp hscheme]), hscheme]
  simp only [if_true, cutAt_fst, authority]
  cases Host.parse? (cutPort (dropCredentials _)).1 with
  | none => rfl
  | some host => cases readPort? scheme (cutPort (dropCredentials _)).2 <;> rfl

theorem exists_cutScheme?_of_parse? {s : String} {u : Url} (h : parse? s = some u) :
    ∃ rest, cutScheme? (clean s.toList) = some (u.scheme, rest) := by
  unfold parse? at h
  simp only [Option.bind_eq_bind, Option.bind_eq_some_iff] at h
  obtain ⟨⟨scheme, rest⟩, hcut, h⟩ := h
  dsimp only at h
  split at h
  · exact nomatch h
  · simp only [Option.bind_eq_some_iff] at h
    obtain ⟨_, _, _, _, hu⟩ := h
    rw [← Option.some.inj hu]
    exact ⟨rest, hcut⟩

/-! ### What follows a slash -/

/-- A character that is not taken out of an address. -/
def isKept (c : Char) : Bool := !(c = '\t' || c = '\n' || c = '\r')

/-- What stands in front of a slash is cleaned in the same way, whatever follows. -/
theorem exists_clean_append_cons (xs ys : List Char) : ∃ zs, clean (xs ++ 's' :: '/' :: ys) =
    (xs.dropWhile (·.toNat ≤ 0x20)).filter isKept ++ 's' :: '/' :: zs := by
  obtain ⟨zs, hzs⟩ := exists_stripEnd_append_cons (p := (·.toNat ≤ 0x20)) (c := '/') (by decide)
    (xs.dropWhile (·.toNat ≤ 0x20) ++ ['s']) ys
  refine ⟨zs.filter isKept, ?_⟩
  have hclean : ∀ cs, clean cs = (strip (·.toNat ≤ 0x20) cs).filter isKept := fun _ => rfl
  rw [List.append_assoc, List.append_assoc] at hzs
  rw [hclean, strip, dropWhile_append_cons (p := (·.toNat ≤ 0x20)) (c := 's') (by decide)]
  refine (congrArg _ hzs).trans ?_
  rw [List.filter_append]
  rfl

theorem cutScheme?_append_cons (xs ys : List Char) :
    cutScheme? (xs ++ '/' :: ys) =
      (cutScheme? xs).map fun (scheme, rest) => (scheme, rest ++ '/' :: ys) := by
  unfold cutScheme?
  dsimp only
  rw [takeWhile_append_cons (by decide), dropWhile_append_cons (by decide)]
  cases xs.takeWhile _ with
  | nil => rfl
  | cons c scheme =>
    cases hrest : xs.dropWhile _ with
    | nil => rfl
    | cons d rest =>
      by_cases hd : d = ':'
      · rw [hd]
        show (if c.isAlpha = true then _ else none) =
          Option.map _ (if c.isAlpha = true then _ else none)
        split <;> rfl
      · split
        · rename_i hcons
          exact absurd (List.cons.inj hcons).1 hd
        · split
          · rename_i hcons
            exact absurd (List.cons.inj hcons).1 hd
          · rfl

theorem authority_append_cons (xs ys : List Char) :
    authority (xs ++ '/' :: ys) = authority xs := by
  simp only [authority, List.takeWhile_takeWhile]
  exact takeWhile_append_cons (by decide) xs ys

theorem exists_append_of_cutScheme? {cs rest : List Char} {scheme : String}
    (h : cutScheme? cs = some (scheme, rest)) : ∃ name, cs = name ++ ':' :: rest := by
  unfold cutScheme? at h
  dsimp only at h
  split at h
  · rename_i c name rest' htake hdrop
    split at h
    · obtain ⟨_, rfl⟩ := Prod.mk.inj (Option.some.inj h)
      refine ⟨c :: name, ?_⟩
      rw [← htake, ← hdrop, List.takeWhile_append_dropWhile]
    · exact nomatch h
  · exact nomatch h

/-- Whatever follows the slash after a name, the address leads to the same place. -/
theorem origin?_append_cons (xs ys : List Char) {c : Char} (hslash : isSlash c = false)
    (hcolon : c ≠ ':') : origin? (xs ++ c :: '/' :: ys) = origin? (xs ++ [c]) := by
  have hcut := cutScheme?_append_cons (xs ++ [c]) ys
  rw [List.append_assoc, List.singleton_append] at hcut
  rw [origin?, origin?, hcut]
  cases hparts : cutScheme? (xs ++ [c]) with
  | none => rfl
  | some parts =>
    obtain ⟨scheme, rest⟩ := parts
    -- The character is the last one after the colon, so that no slash in front of it is the last.
    have hrest : ∃ init, rest = init ++ [c] := by
      obtain ⟨name, hname⟩ := exists_append_of_cutScheme? hparts
      have hlast := congrArg List.getLast? hname
      rw [List.getLast?_concat, List.getLast?_append_cons] at hlast
      rcases List.eq_nil_or_concat rest with rfl | ⟨init, d, rfl⟩
      · exact absurd (Option.some.inj hlast) hcolon
      · rw [List.concat_eq_append, ← List.cons_append, List.getLast?_concat] at hlast
        exact ⟨init, by rw [Option.some.inj hlast, List.concat_eq_append]⟩
    obtain ⟨init, rfl⟩ := hrest
    simp only [Option.map_some, Option.bind_eq_bind, Option.bind_some]
    rw [List.append_assoc, List.singleton_append, dropWhile_append_cons hslash,
      dropWhile_append_cons hslash]
    have hauthority := authority_append_cons (init.dropWhile isSlash ++ [c]) ys
    rw [List.append_assoc, List.singleton_append] at hauthority
    rw [hauthority]

/-- What the addresses below a place have in front. -/
theorem exists_front (base : String) : ∃ front : List Char, ∀ x : String, ∃ xs,
    clean (base ++ "/zones/" ++ x).toList = front ++ 's' :: '/' :: xs := by
  refine ⟨((base.toList ++ "/zone".toList).dropWhile (·.toNat ≤ 0x20)).filter isKept, fun x => ?_⟩
  have htext : (base ++ "/zones/" ++ x).toList =
      (base.toList ++ "/zone".toList) ++ 's' :: '/' :: x.toList := by
    simp [String.toList_append]
  rw [htext]
  exact exists_clean_append_cons _ _

/-- All addresses below a place lead to one host. -/
theorem exists_parse?_below {base x : String} {u : Url}
    (h : parse? (base ++ "/zones/" ++ x) = some u) (hport : (defaultPort? u.scheme).isSome = true)
    (y : String) : ∃ v, parse? (base ++ "/zones/" ++ y) = some v ∧
      (v.scheme, v.host, v.port) = (u.scheme, u.host, u.port) := by
  obtain ⟨front, hfront⟩ := exists_front base
  obtain ⟨xs, hx⟩ := hfront x
  obtain ⟨ys, hy⟩ := hfront y
  have hcut : ∀ zs, cutScheme? (front ++ 's' :: '/' :: zs) =
      (cutScheme? (front ++ ['s'])).map fun (scheme, rest) => (scheme, rest ++ '/' :: zs) := by
    intro zs
    rw [← cutScheme?_append_cons, List.append_assoc]
    rfl
  -- Both of them have the scheme of what stands in front.
  obtain ⟨rest, hrest⟩ := exists_cutScheme?_of_parse? h
  have hscheme : ∃ rest', cutScheme? (clean (base ++ "/zones/" ++ y).toList) =
      some (u.scheme, rest') := by
    rw [hx, hcut] at hrest
    obtain ⟨⟨scheme, rest'⟩, hparts, heq⟩ := Option.map_eq_some_iff.mp hrest
    rw [hy, hcut, hparts, ← (Prod.mk.inj heq).1]
    exact ⟨_, rfl⟩
  obtain ⟨rest', hrest'⟩ := hscheme
  have horigin := map_parse?_eq hrest hport
  have horigin' := map_parse?_eq hrest' hport
  rw [h, hx, origin?_append_cons _ _ (by decide) (by decide)] at horigin
  rw [hy, origin?_append_cons _ _ (by decide) (by decide), ← horigin] at horigin'
  exact Option.map_eq_some_iff.mp horigin'

end Url

/-- Requests can be sent to all addresses below a place, or to none of them. -/
theorem Sendable.of_below {base token x y : String}
    (h : Sendable (base ++ "/zones/" ++ x) token) : Sendable (base ++ "/zones/" ++ y) token := by
  obtain ⟨u, hu, htoken, hscheme⟩ := h
  have hport : (Url.defaultPort? u.scheme).isSome = true := by
    rcases List.mem_pair.mp hscheme with h | h <;> rw [h] <;> rfl
  obtain ⟨v, hv, hplace⟩ := Url.exists_parse?_below hu hport y
  exact ⟨v, hv, htoken, (Prod.mk.inj hplace).1 ▸ hscheme⟩

end ZoneSync.Http
