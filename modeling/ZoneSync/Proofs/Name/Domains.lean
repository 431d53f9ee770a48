import ZoneSync.Proofs.Record.Identity
import ZoneSync.Proofs.Text.Pieces

namespace ZoneSync

open Text

/-!
# Domains and labels

Whether a name lies in a domain is found out from the end of its text. What counts are its labels:
those of the domain have to be the last ones of the name, so that `notexample.com` is not taken for
a name under `example.com`.

* `Name.labels` — the labels of a name in its normal form;
* `Name.inDomain_iff` — a name lies in a domain when its last labels are those of the domain;
* `Name.inDomain_refl`, `inDomain_trans` — domains within domains;
* `Name.inDomain_labelwise` — all of it, with what it says of live records and of full names.
-/

namespace Name

/-- The labels of a name in its normal form. -/
def labels (name : String) : List String := dottedLabels (normalize name)

theorem labels_eq (name : String) :
    labels name = (splitOn '.' (normalizeChars name.toList)).map String.ofList := by
  rw [labels, dottedLabels, toList_normalize]

/-- The labels of a name are the last ones of another when its pieces are. -/
theorem labels_suffix_iff {name domain : String} :
    labels domain <:+ labels name ↔
      splitOn '.' (normalizeChars domain.toList) <:+ splitOn '.' (normalizeChars name.toList) := by
  rw [labels_eq, labels_eq,
    List.suffix_map_iff_of_injective fun _ _ h => String.ofList_injective h]

variable {name domain outer : String}

/-- **Domains by labels.** A name lies in a domain exactly if the labels of the domain are its last
    labels. -/
theorem inDomain_iff : inDomain name domain = true ↔ labels domain <:+ labels name := by
  rw [labels_suffix_iff, splitOn_suffix_iff, inDomain, Bool.or_eq_true, decide_eq_true_eq,
    List.isSuffixOf_iff_suffix]

/-- A name lies in the domain that it is. -/
theorem inDomain_refl (name : String) : inDomain name name = true :=
  inDomain_iff.mpr List.suffix_rfl

/-- A domain within another holds names of the other only. -/
theorem inDomain_trans (h : inDomain name domain = true) (houter : inDomain domain outer = true) :
    inDomain name outer = true :=
  inDomain_iff.mpr ((inDomain_iff.mp houter).trans (inDomain_iff.mp h))

/-- **Membership in domains.** A name lies in a domain exactly if the labels of the domain are its
    last labels. Every domain lies in itself, and a domain within another holds names of the other
    only. The normal form of a name decides, so that live records of one key are in the domain
    together, and all full names made with a domain that is not just dots are in it. -/
theorem inDomain_labelwise :
    (∀ name domain, inDomain name domain = true ↔ labels domain <:+ labels name) ∧
      (∀ name, inDomain name name = true) ∧
      (∀ name domain outer, inDomain name domain = true → inDomain domain outer = true →
        inDomain name outer = true) ∧
      (∀ name name' domain, normalize name = normalize name' →
        inDomain name domain = inDomain name' domain) ∧
      (∀ (l l' : LiveRecord) domain, l.key = l'.key →
        inDomain l.record.name domain = inDomain l'.record.name domain) ∧
      ∀ name domain, (∃ c ∈ domain.toList, c ≠ '.') →
        inDomain (qualify name domain) domain = true := by
  refine ⟨?_, inDomain_refl, ?_, ?_, ?_, ?_⟩
  · exact fun _ _ => inDomain_iff
  · exact fun _ _ _ => inDomain_trans
  · exact fun _ _ domain h => inDomain_congr h domain
  · exact fun _ _ domain h => inDomain_of_key_eq h domain
  · exact fun name _ h => inDomain_qualify name h

/-- A live record with another spelling of the name `mail` in the domain `Office.example.com.`. -/
def officeMail : LiveRecord where
  id := "1"
  record := { name := "MAIL.office.example.com", type := .a, value := .content "192.0.2.9" }

/-- The same name with a dot at its end. -/
def officeMailRoot : LiveRecord where
  id := "2"
  record := { name := "mail.office.example.com.", type := .a, value := .content "192.0.2.8" }

/-- Names and domains in several spellings, one domain within the other. -/
theorem inDomain_labelwise_officeMail :
    inDomain (qualify "mail" "Office.example.com.") "Office.example.com." = true ∧
      inDomain "Office.example.com." "example.com" = true ∧
      inDomain (qualify "mail" "Office.example.com.") "example.com" = true ∧
      inDomain officeMail.record.name "example.com" = true ∧
      inDomain officeMailRoot.record.name "example.com" = true ∧
      ¬ labels "example.com" <:+ labels "notexample.com" := by
  obtain ⟨hlabels, _, htrans, hnormal, hkey, hqualify⟩ := inDomain_labelwise
  have hmail := hqualify "mail" "Office.example.com." ⟨'O', by decide, by decide⟩
  have hoffice : inDomain "Office.example.com." "example.com" = true := by decide
  have hfull := htrans _ _ _ hmail hoffice
  have hlive : inDomain officeMail.record.name "example.com" = true :=
    (hnormal _ (qualify "mail" "Office.example.com.") _ (by decide)).trans hfull
  refine ⟨hmail, hoffice, hfull, hlive, ?_, ?_⟩
  · exact (hkey officeMailRoot officeMail _ (by decide)).trans hlive
  · rw [← hlabels]
    decide

end Name

end ZoneSync
