import ZoneSync.Proofs.Document.Loading

namespace ZoneSync

open Yaml

/-!
# Faults do not mask each other

Every part of an entry is checked whatever is wrong with the others: a fault depends on the type of
the entry and on the fields that it concerns, and on nothing else.

* `EntryField`, `EntryFault.concerns` — the fields of entries, and which of them a fault is about;
* `Entry.DiffersIn` — entries that are the same but for one field;
* `AlikeBut` — faults that are the same but for those that concern a field;
* `AlikeBut.of_field` — a check of one field is of this kind, and so are checks in a row;
* `Entry.faults_alike` — the faults of entries that are the same but for one field, or for the
  domain.
-/

/-! ### Fields and their faults -/

/-- A field of an entry. -/
inductive EntryField where
  | name
  | type
  | content
  | ttl
  | proxied
  | comment
  | priority
  | weight
  | port
  | target
  deriving DecidableEq, Repr

namespace EntryField

/-- The key of a field. -/
def key : EntryField → String
  | name => "name"
  | type => "type"
  | content => "content"
  | ttl => "ttl"
  | proxied => "proxied"
  | comment => "comment"
  | priority => "priority"
  | weight => "weight"
  | port => "port"
  | target => "target"

/-- The value of a field. -/
def of (e : Entry) : EntryField → Option Value
  | name => e.name
  | type => e.type
  | content => e.content
  | ttl => e.ttl
  | proxied => e.proxied
  | comment => e.comment
  | priority => e.priority
  | weight => e.weight
  | port => e.port
  | target => e.target

end EntryField

/-- Whether a fault is about a field. An alias at the apex outside of the proxy is a matter of its
    name and of its proxy setting. -/
def EntryFault.concerns (f : EntryField) : EntryFault → Bool
  | missingField key | wrongKind key _ | missingServiceField key | invalidServiceField key _ =>
    key = f.key
  | unsupportedType _ => f = .type
  | invalidName _ | nameTooLong _ | invalidServiceName _ => f = .name
  | apexAliasWithoutProxy => f = .name || f = .proxied
  | invalidIpv4 _ | invalidIpv6 _ | invalidTarget _ => f = .content
  | proxyNotSupported _ => f = .proxied
  | invalidPriority _ => f = .priority
  | invalidTtl _ => f = .ttl

/-- Whether a fault is about the length of the full name. -/
def EntryFault.isTooLong : EntryFault → Bool
  | nameTooLong _ => true
  | _ => false

/-- Whether all faults are about a field. -/
def AllConcern (f : EntryField) (faults : List EntryFault) : Prop :=
  ∀ x ∈ faults, x.concerns f = true

namespace AllConcern

variable {f : EntryField}

@[simp] theorem nil : AllConcern f [] := List.forall_mem_nil _

@[simp] theorem cons {x : EntryFault} {xs : List EntryFault} :
    AllConcern f (x :: xs) ↔ x.concerns f = true ∧ AllConcern f xs :=
  List.forall_mem_cons

/-- The fault of a check is all that it finds. -/
theorem ofOption {α : Type} {x : EntryFault} (hx : x.concerns f = true) (value : Option α) :
    AllConcern f (Checked.ofOption x value).faults := by
  cases value with
  | none => exact cons.mpr ⟨hx, nil⟩
  | some a => exact nil

theorem requiredString (v : Option Value) : AllConcern f (requiredString f.key v).faults := by
  unfold ZoneSync.requiredString
  split <;> simp [Checked.fault, Checked.ok, EntryFault.concerns]

theorem optionalString (v : Option Value) : AllConcern f (optionalString f.key v).faults := by
  unfold ZoneSync.optionalString
  split <;> simp [Checked.fault, Checked.ok, EntryFault.concerns]

theorem requiredText (v : Option Value) : AllConcern f (requiredText f.key v).faults := by
  cases v with
  | none => simp [ZoneSync.requiredText, Checked.fault, EntryFault.concerns]
  | some v => exact ofOption (by simp [EntryFault.concerns]) _

theorem checkServiceNumber (v : Option Value) :
    AllConcern f (checkServiceNumber f.key v).faults := by
  cases v with
  | none => simp [ZoneSync.checkServiceNumber, Checked.fault, EntryFault.concerns]
  | some v => exact ofOption (by simp [EntryFault.concerns]) _

theorem checkServiceTarget (v : Option Value) :
    AllConcern .target (checkServiceTarget v).faults := by
  cases v with
  | none => simp [ZoneSync.checkServiceTarget, Checked.fault, EntryFault.concerns, EntryField.key]
  | some v => exact ofOption (by simp [EntryFault.concerns, EntryField.key]) _

theorem checkPriority (v : Option Value) : AllConcern .priority (checkPriority v).faults := by
  cases v with
  | none => simp [ZoneSync.checkPriority, Checked.fault, EntryFault.concerns, EntryField.key]
  | some v => exact ofOption (by simp [EntryFault.concerns]) _

theorem checkProxied (type : Option RecordType) (v : Option Value) :
    AllConcern .proxied (checkProxied type v).faults := by
  unfold ZoneSync.checkProxied
  split
  · exact nil
  · split
    · dsimp only
      split <;> simp [EntryFault.concerns]
    · exact nil
  · simp [Checked.fault, EntryFault.concerns, EntryField.key]

theorem checkTtl (v : Option Value) : AllConcern .ttl (checkTtl v).faults := by
  unfold ZoneSync.checkTtl
  split
  · exact nil
  · exact nil
  · exact ofOption (by simp [EntryFault.concerns]) _

theorem nameFaults (name : String) (type : Option RecordType) (domain : String) :
    AllConcern .name (nameFaults name type domain) := by
  unfold ZoneSync.nameFaults
  dsimp only
  split_ifs <;> simp [EntryFault.concerns]

end AllConcern

namespace Checked

variable {α : Type}

/-- The fault of a further condition, if it is not met. -/
def refusal (c : Checked α) (p : α → Bool) (fault : α → EntryFault) : List EntryFault :=
  match c.value with
  | some x => if p x then [] else [fault x]
  | none => []

/-- A further condition leaves the faults that are known, and may find one more. -/
theorem faults_guard (c : Checked α) (p : α → Bool) (fault : α → EntryFault) :
    (c.guard p fault).faults = c.faults ++ c.refusal p fault := by
  unfold guard refusal
  cases c.value with
  | none => simp
  | some x => by_cases h : p x = true <;> simp [h]

theorem allConcern_refusal {f : EntryField} (c : Checked α) (p : α → Bool)
    {fault : α → EntryFault} (h : ∀ x, (fault x).concerns f = true) :
    AllConcern f (c.refusal p fault) := by
  unfold refusal
  split
  · split
    · exact .nil
    · exact AllConcern.cons.mpr ⟨h _, .nil⟩
  · exact .nil

end Checked

/-! ### Two entries -/

/-- Entries are the same in every field but one. -/
def Entry.DiffersIn (f : EntryField) (e e' : Entry) : Prop :=
  ∀ g, g ≠ f → g.of e = g.of e'

/-- Faults are the same, in the same order, but for those that concern a field. -/
def AlikeBut (f : EntryField) (xs ys : List EntryFault) : Prop :=
  xs.filter (!·.concerns f) = ys.filter (!·.concerns f)

namespace AlikeBut

variable {f : EntryField} {e e' : Entry}

theorem of_eq {xs ys : List EntryFault} (h : xs = ys) : AlikeBut f xs ys := congrArg _ h

/-- Faults that all concern the field do not count. -/
theorem of_allConcern {xs ys : List EntryFault} (hxs : AllConcern f xs) (hys : AllConcern f ys) :
    AlikeBut f xs ys := by
  have hnone : ∀ {zs}, AllConcern f zs → zs.filter (!·.concerns f) = [] := by
    intro zs hzs
    refine List.filter_eq_nil_iff.mpr fun x hx => ?_
    simp [hzs x hx]
  rw [AlikeBut, hnone hxs, hnone hys]

theorem append {xs xs' ys ys' : List EntryFault} (h : AlikeBut f xs ys)
    (h' : AlikeBut f xs' ys') : AlikeBut f (xs ++ xs') (ys ++ ys') := by
  rw [AlikeBut, List.filter_append, List.filter_append, h, h']

/-- A check of one field: it is the same check of both entries, or all that it finds concerns the
    field in which they differ. -/
theorem of_field (h : e.DiffersIn f e') (g : EntryField) {check : Option Value → List EntryFault}
    (hcheck : ∀ v, AllConcern g (check v)) : AlikeBut f (check (g.of e)) (check (g.of e')) := by
  by_cases hg : g = f
  · subst hg
    exact of_allConcern (hcheck _) (hcheck _)
  · rw [h g hg]
    exact of_eq rfl

/-- The check of an alias at the apex looks at two fields, and what it finds concerns both. -/
theorem isBareApex (h : e.DiffersIn f e') :
    AlikeBut f
      (if isBareApex e (requiredString "name" e.name).value then [.apexAliasWithoutProxy] else [])
      (if isBareApex e' (requiredString "name" e'.name).value then [.apexAliasWithoutProxy]
        else []) := by
  have hconcern : ∀ b : Bool, f = .name ∨ f = .proxied →
      AllConcern f (if b then [.apexAliasWithoutProxy] else []) := by
    intro b hf
    cases b with
    | false => exact .nil
    | true => simpa [EntryFault.concerns] using hf
  by_cases hf : f = .name ∨ f = .proxied
  · exact of_allConcern (hconcern _ hf) (hconcern _ hf)
  · rw [not_or] at hf
    have hname : e.name = e'.name := h .name (Ne.symm hf.1)
    have hproxied : e.proxied = e'.proxied := h .proxied (Ne.symm hf.2)
    refine of_eq ?_
    rw [ZoneSync.isBareApex, ZoneSync.isBareApex, hname, hproxied]

/-- What the checks of a value find, for each type. -/
theorem checkValue (h : e.DiffersIn f e') (type : RecordType) :
    AlikeBut f (checkValue type e (requiredString "name" e.name).value).faults
      (checkValue type e' (requiredString "name" e'.name).value).faults := by
  have hcontent : AlikeBut f (requiredText "content" e.content).faults
      (requiredText "content" e'.content).faults :=
    of_field h .content AllConcern.requiredText
  have hrefusal : ∀ (p : String → Bool) {fault : String → EntryFault},
      (∀ s, (fault s).concerns .content = true) →
      AlikeBut f ((requiredText "content" e.content).refusal p fault)
        ((requiredText "content" e'.content).refusal p fault) := by
    intro p fault hfault
    have hcheck : ∀ v, AllConcern .content ((requiredText "content" v).refusal p fault) :=
      fun v => Checked.allConcern_refusal _ p hfault
    exact of_field h .content hcheck
  cases type with
  | a =>
    simp only [ZoneSync.checkValue, Checked.map, Checked.faults_guard]
    exact hcontent.append (hrefusal _ fun _ => rfl)
  | aaaa =>
    simp only [ZoneSync.checkValue, Checked.map, Checked.faults_guard]
    exact hcontent.append (hrefusal _ fun _ => rfl)
  | cname =>
    -- The apex is checked between the presence and the form of the target.
    simp only [ZoneSync.checkValue, Checked.map, Checked.faults_guard]
    exact (hcontent.append (isBareApex h)).append (hrefusal _ fun _ => rfl)
  | mx => exact (of_field h .priority AllConcern.checkPriority).append hcontent
  | txt => exact hcontent
  | ns => exact hcontent
  | srv =>
    have hnumber : ∀ g : EntryField, AlikeBut f (checkServiceNumber g.key (g.of e)).faults
        (checkServiceNumber g.key (g.of e')).faults :=
      fun g => of_field h g AllConcern.checkServiceNumber
    exact (((hnumber .priority).append (hnumber .weight)).append (hnumber .port)).append
      (of_field h .target AllConcern.checkServiceTarget)
  | caa => exact of_eq rfl
  | other name => exact of_eq rfl

end AlikeBut

/-! ### Faults of entries -/

namespace Entry

variable {f : EntryField} {e e' : Entry}

/-- All that is found is reported. -/
theorem faults_eq (e : Entry) (domain : String) : e.faults domain = (e.check domain).faults := by
  unfold faults
  split
  · rename_i r hr
    exact (parse_eq_ok_iff.mp hr).1.symm
  · rename_i faults hparse
    unfold parse at hparse
    dsimp only at hparse
    split at hparse
    · exact nomatch hparse
    · exact (Except.error.inj hparse).symm

/-- The faults of entries of one type that are the same but for another field. -/
theorem alikeBut_check (h : e.DiffersIn f e') (hf : f ≠ .type) (domain : String) :
    AlikeBut f (e.check domain).faults (e'.check domain).faults := by
  -- The type is the same, and it decides which checks are made.
  have htype : e'.type = e.type := (h .type (Ne.symm hf)).symm
  have hname : AlikeBut f (requiredString "name" e.name).faults
      (requiredString "name" e'.name).faults :=
    .of_field h .name AllConcern.requiredString
  have hform : AlikeBut f
      ((requiredString "name" e.name).value.elim []
        (nameFaults · (checkType e.type).value domain))
      ((requiredString "name" e'.name).value.elim []
        (nameFaults · (checkType e.type).value domain)) := by
    have hcheck : ∀ v, AllConcern .name ((requiredString "name" v).value.elim []
        (nameFaults · (checkType e.type).value domain)) := by
      intro v
      cases (requiredString "name" v).value with
      | none => exact .nil
      | some name => exact AllConcern.nameFaults name _ domain
    exact .of_field h .name hcheck
  have hvalue : AlikeBut f
      ((checkType e.type).value.elim ⟨none, []⟩
        (checkValue · e (requiredString "name" e.name).value)).faults
      ((checkType e.type).value.elim ⟨none, []⟩
        (checkValue · e' (requiredString "name" e'.name).value)).faults := by
    cases (checkType e.type).value with
    | none => exact .of_eq rfl
    | some type => exact .checkValue h type
  simp only [CheckedEntry.faults, check, htype]
  exact (((((hname.append (.of_eq rfl)).append hform).append hvalue).append
    (.of_field h .proxied (AllConcern.checkProxied _))).append
    (.of_field h .ttl AllConcern.checkTtl)).append
    (.of_field h .comment AllConcern.optionalString)

/-- Only the length of the full name is a matter of the domain. -/
theorem nameFaults_filter (name : String) (type : Option RecordType) (domain domain' : String) :
    (nameFaults name type domain).filter (!·.isTooLong) =
      (nameFaults name type domain').filter (!·.isTooLong) := by
  unfold nameFaults
  dsimp only
  split_ifs <;> simp [EntryFault.isTooLong]

/-- **No fault masks another.** Entries that are the same but for a field other than the type have
    the same faults but for those that concern this field, and an entry has the same faults in all
    domains but for the length of its full name. -/
theorem faults_alike :
    (∀ (f : EntryField) (e e' : Entry) (domain : String), f ≠ .type → e.DiffersIn f e' →
      AlikeBut f (e.faults domain) (e'.faults domain)) ∧
    ∀ (e : Entry) (domain domain' : String),
      (e.faults domain).filter (!·.isTooLong) = (e.faults domain').filter (!·.isTooLong) := by
  refine ⟨fun f e e' domain hf h => ?_, fun e domain domain' => ?_⟩
  · rw [faults_eq, faults_eq]
    exact alikeBut_check h hf domain
  · rw [faults_eq, faults_eq]
    simp only [CheckedEntry.faults, check, List.filter_append]
    cases (requiredString "name" e.name).value with
    | none => rfl
    | some name =>
      simp only [Option.elim_some, nameFaults_filter name _ domain domain']

/-- An alias at the apex outside of the proxy, with too short a time to live. -/
def apexAlias (content : String) : Entry where
  name := some (.string "@")
  type := some (.string "CNAME")
  content := some (.string content)
  ttl := some (.number (.integer 5))
  proxied := some (.bool false)

/-- A target that is no host keeps none of the other faults from being found. -/
theorem faults_alike_apexAlias :
    (apexAlias "a b").DiffersIn .content (apexAlias "www.example.com") ∧
      (apexAlias "a b").faults "example.com" =
        [.apexAliasWithoutProxy, .invalidTarget "a b", .invalidTtl "5"] ∧
      (apexAlias "www.example.com").faults "example.com" =
        [.apexAliasWithoutProxy, .invalidTtl "5"] ∧
      AlikeBut .content ((apexAlias "a b").faults "example.com")
        ((apexAlias "www.example.com").faults "example.com") := by
  have hdiffers : (apexAlias "a b").DiffersIn .content (apexAlias "www.example.com") := by
    intro g hg
    cases g <;> first | rfl | exact absurd rfl hg
  exact ⟨hdiffers, by decide +kernel, by decide +kernel,
    faults_alike.1 .content _ _ "example.com" (by decide) hdiffers⟩

end Entry

end ZoneSync
