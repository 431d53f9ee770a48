import ZoneSync.Nameserver.Answer
import ZoneSync.Proofs.Address.Blanks
import ZoneSync.Proofs.Address.Texts
import ZoneSync.Proofs.Text.Octets

namespace ZoneSync.Nameserver

/-!
# Texts of answers

The text of an answer does not say its type, but its characters say something of it. Addresses and
names are one word; names end in a dot, and addresses do not; data of several parts has blanks
between them; and a text record may have any text.

* `DnsName.IsServed`, `Answer.IsServed` — names as nameservers give them;
* `DnsName.isSolid_toString`, `DnsName.getLast?_toString` — the text of a name;
* `QueryType.Gives` — the texts of answers of a type;
* `QueryType.txt_gives`, `QueryType.exists_gives_iff` — which types have any text, and which have
  one at all;
* `QueryType.Gives.mem_of_isSolid`, `QueryType.Gives.mem_of_not_isSolid`,
  `QueryType.Gives.mem_of_getLast?_ne_dot`, `QueryType.Gives.colon_mem_iff` — the types that are
  left open by a text without the white space around it.
-/

open Text

/-! ### Names -/

namespace DnsName

/-- A name as nameservers give it: it ends at the root, and no label has white space. -/
structure IsServed (n : DnsName) : Prop where
  isAbsolute : n.isAbsolute = true
  labels : ∀ label ∈ n.labels, IsSolid label.toList

variable {n : DnsName}

theorem toList_toString (h : n.IsServed) :
    n.toString.toList = ['.'].intercalate (n.labels.map String.toList) ++ ['.'] := by
  rw [toString, if_pos h.isAbsolute, String.toList_append, String.toList_intercalate]
  rfl

theorem getLast?_toString (h : n.IsServed) : n.toString.toList.getLast? = some '.' := by
  rw [toList_toString h, List.getLast?_append]
  rfl

/-- There is no white space in the text of a name. -/
theorem isSolid_toString (h : n.IsServed) : IsSolid n.toString.toList := by
  have hdot : isBlank '.' = false := by decide
  have hlabels : ∀ piece ∈ n.labels.map String.toList, IsSolid piece := by
    intro piece hpiece
    obtain ⟨label, hlabel, rfl⟩ := List.mem_map.mp hpiece
    exact h.labels label hlabel
  rw [toList_toString h]
  exact (isSolid_intercalate hdot hlabels).append (isSolid_cons hdot isSolid_nil)

end DnsName

/-! ### Answers -/

namespace Answer

/-- The name that an answer points to. -/
def host? : Answer → Option DnsName
  | cname host | ns host => some host
  | mx _ exchange => some exchange
  | srv _ _ _ target => some target
  | a _ | aaaa _ | txt _ | other => none

/-- An answer as nameservers give it. -/
def IsServed (answer : Answer) : Prop := ∀ n ∈ answer.host?, n.IsServed

theorem isServed_of_root {answer : Answer} (h : answer.host? = some ⟨[], true⟩) :
    answer.IsServed := by
  intro n hn
  obtain rfl := Option.some.inj (h.symm.trans hn)
  exact ⟨rfl, nofun⟩

/-- The octets of a text as one string have this text. -/
theorem text?_txt_encode (text : String) : (txt [encode text.toList]).text? = some text := by
  have hread : decodeLossy (encode text.toList) = text := by
    rw [decodeLossy_encode, String.ofList_toList]
  rw [text?, List.map_singleton, hread, String.join_cons, String.join_nil, String.append_empty]

/-- A blank behind a number stays when a name follows, whatever stands between them. -/
theorem blank_mem_trim {p : UInt16} {n : DnsName} {text : String} (h : n.IsServed)
    (between : List Char)
    (htext : text.toList = (Nat.repr p.toNat).toList ++ ' ' :: (between ++ n.toString.toList)) :
    ' ' ∈ (trim text).toList := by
  have hdigit : ∃ c ∈ (Nat.repr p.toNat).toList, isBlank c = false := by
    rw [Nat.toList_repr]
    obtain ⟨c, hc⟩ := List.exists_mem_of_ne_nil _ (Nat.toDigits_ne_nil (b := 10) (n := p.toNat))
    exact ⟨c, hc, isBlank_of_isDigit (Nat.isDigit_of_mem_toDigits (by decide) (by decide) hc)⟩
  have hlast : ∀ c ∈ ((Nat.repr p.toNat).toList ++
      ' ' :: (between ++ n.toString.toList)).getLast?, isBlank c = false := by
    intro c hc
    rw [List.getLast?_append, List.getLast?_cons, List.getLast?_append,
      DnsName.getLast?_toString h, Option.some_or, Option.some_or, Option.getD_some] at hc
    obtain rfl := Option.some.inj hc
    decide
  rw [trim, String.toList_ofList, htext, strip_append hdigit hlast]
  exact List.mem_append_right _ List.mem_cons_self

end Answer

/-! ### Texts of a type -/

namespace QueryType

/-- The texts that nameservers give in answers of a type. -/
def Gives (type : QueryType) (text : String) : Prop :=
  ∃ answer : Answer, answer.type? = some type ∧ answer.IsServed ∧ answer.text? = some text

/-- Text records give any text. -/
theorem txt_gives (text : String) : txt.Gives text :=
  ⟨.txt [encode text.toList], rfl, nofun, Answer.text?_txt_encode text⟩

/-- There are answers of all types but one, whose data has no text here. -/
theorem exists_gives_iff {type : QueryType} :
    (∃ text, type.Gives text) ↔ type ≠ .caa := by
  constructor
  · rintro ⟨text, answer, htype, -, -⟩ rfl
    cases answer <;> exact nomatch htype
  · intro h
    cases type with
    | a => exact ⟨_, .a ⟨#v[192, 0, 2, 9]⟩, rfl, nofun, rfl⟩
    | aaaa => exact ⟨_, .aaaa ⟨#v[0, 0, 0, 0, 0, 0, 0, 1]⟩, rfl, nofun, rfl⟩
    | cname => exact ⟨_, .cname ⟨[], true⟩, rfl, Answer.isServed_of_root rfl, rfl⟩
    | mx => exact ⟨_, .mx 0 ⟨[], true⟩, rfl, Answer.isServed_of_root rfl, rfl⟩
    | txt => exact ⟨_, .txt [], rfl, nofun, rfl⟩
    | ns => exact ⟨_, .ns ⟨[], true⟩, rfl, Answer.isServed_of_root rfl, rfl⟩
    | srv => exact ⟨_, .srv 0 0 0 ⟨[], true⟩, rfl, Answer.isServed_of_root rfl, rfl⟩
    | caa => exact absurd rfl h

variable {type : QueryType} {text : String}

/-- The types of answers that can be one word. -/
theorem Gives.mem_of_isSolid (h : type.Gives text) (hsolid : IsSolid (trim text).toList) :
    type ∈ [a, aaaa, cname, ns, txt] := by
  obtain ⟨answer, htype, hserved, htext⟩ := h
  have hnot : ' ' ∉ (trim text).toList := fun hmem => absurd (hsolid ' ' hmem) (by decide)
  cases answer with
  | mx preference exchange =>
    refine absurd (Answer.blank_mem_trim (p := preference) (hserved exchange rfl) [] ?_) hnot
    rw [← Option.some.inj htext]
    simp
  | srv priority weight port target =>
    refine absurd (Answer.blank_mem_trim (p := priority) (hserved target rfl)
      (Nat.repr weight.toNat ++ " " ++ Nat.repr port.toNat ++ " ").toList ?_) hnot
    rw [← Option.some.inj htext]
    simp
  | other => exact nomatch htext
  | _ =>
    obtain rfl := Option.some.inj htype
    decide

/-- The types of answers that can be more than one word. -/
theorem Gives.mem_of_not_isSolid (h : type.Gives text) (hsolid : ¬ IsSolid (trim text).toList) :
    type ∈ [mx, srv, txt] := by
  obtain ⟨answer, htype, hserved, htext⟩ := h
  -- A word is trimmed already.
  have hword : ¬ IsSolid text.toList := by
    intro hword
    rw [hword.trim_eq_self] at hsolid
    exact hsolid hword
  cases answer with
  | a address =>
    obtain rfl := Option.some.inj htext
    exact absurd (Ipv4.isSolid_of_parseChars? address.parseChars?_toString) hword
  | aaaa address =>
    obtain rfl := Option.some.inj htext
    exact absurd (Ipv6.isSolid_of_parseChars? address.parseChars?_toString) hword
  | cname host =>
    obtain rfl := Option.some.inj htext
    exact absurd (DnsName.isSolid_toString (hserved host rfl)) hword
  | ns host =>
    obtain rfl := Option.some.inj htext
    exact absurd (DnsName.isSolid_toString (hserved host rfl)) hword
  | other => exact nomatch htext
  | _ =>
    obtain rfl := Option.some.inj htype
    decide

/-- Of one word, only addresses and texts may end in something other than a dot. -/
theorem Gives.mem_of_getLast?_ne_dot (h : type.Gives text)
    (hsolid : IsSolid (trim text).toList) (hlast : (trim text).toList.getLast? ≠ some '.') :
    type ∈ [a, aaaa, txt] := by
  have hmem := h.mem_of_isSolid hsolid
  obtain ⟨answer, htype, hserved, htext⟩ := h
  have hname : ∀ n : DnsName, n.IsServed → n.toString ≠ text := by
    rintro n hn rfl
    rw [(DnsName.isSolid_toString hn).trim_eq_self] at hlast
    exact hlast (DnsName.getLast?_toString hn)
  cases answer with
  | cname host => exact absurd (Option.some.inj htext) (hname host (hserved host rfl))
  | ns host => exact absurd (Option.some.inj htext) (hname host (hserved host rfl))
  | other => exact nomatch htext
  | _ =>
    obtain rfl := Option.some.inj htype
    revert hmem
    decide

/-- Addresses of the two families are told apart by a colon. -/
theorem Gives.colon_mem_iff (h : type.Gives text) (htype : type = a ∨ type = aaaa) :
    ':' ∈ (trim text).toList ↔ type = aaaa := by
  obtain ⟨answer, hanswer, -, htext⟩ := h
  cases answer with
  | a address =>
    obtain rfl := Option.some.inj htext
    obtain rfl := Option.some.inj hanswer
    rw [(Ipv4.isSolid_of_parseChars? address.parseChars?_toString).trim_eq_self]
    exact iff_of_false (Ipv6.of_isQuad address.isQuad_toString).2 (by decide)
  | aaaa address =>
    obtain rfl := Option.some.inj htext
    obtain rfl := Option.some.inj hanswer
    rw [(Ipv6.isSolid_of_parseChars? address.parseChars?_toString).trim_eq_self]
    exact iff_of_true (Ipv6.colon_mem_of_isIpv6Literal (Ipv6.parseChars?_isSome_iff.mp
      (Option.isSome_of_eq_some address.parseChars?_toString))) rfl
  | other => exact nomatch htext
  | _ =>
    obtain rfl := Option.some.inj hanswer
    exact absurd htype (by decide)

end QueryType

end ZoneSync.Nameserver
