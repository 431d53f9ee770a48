import ZoneSync.Nameserver.Answer
import ZoneSync.Proofs.Text.Octets

namespace ZoneSync.Nameserver

/-!
# Texts in character strings

A nameserver serves the octets of a text in strings of at most 255, and cuts them where it likes.
A resolver decodes each string before it puts them together, so a character that lies in more than
one string is lost.

* `joinDecoded` — the strings decoded one by one and put together;
* `countFirst_flatten_le` — the characters that are read are no fewer than the ones that are served;
* `isUTF8FirstByte_of_length_le` — they are more if a string begins within a character;
* `joinDecoded_of_flatten_eq` — they are the ones that are served if no string does;
* `Answer.txt_faithful_iff` — when the text of an answer is the text that is served.
-/

open Text

/-- Character strings decoded one by one and put together. -/
def joinDecoded (strings : List (List UInt8)) : String := String.join (strings.map decodeLossy)

theorem joinDecoded_cons (octets : List UInt8) (strings : List (List UInt8)) :
    joinDecoded (octets :: strings) = decodeLossy octets ++ joinDecoded strings :=
  String.join_cons

theorem length_joinDecoded_cons (octets : List UInt8) (strings : List (List UInt8)) :
    (joinDecoded (octets :: strings)).length =
      (decodeOctets octets).length + (joinDecoded strings).length := by
  rw [joinDecoded_cons, String.length_append, decodeLossy, String.length_ofList, List.length_map]

/-! ### How many characters are read -/

/-- For each character that is served one is read at least. -/
theorem countFirst_flatten_le (strings : List (List UInt8)) :
    countFirst strings.flatten ≤ (joinDecoded strings).length := by
  induction strings with
  | nil => exact Nat.zero_le _
  | cons octets strings ih =>
    have := countFirst_le_length_decodeOctets octets
    rw [List.flatten_cons, countFirst_append, length_joinDecoded_cons]
    omega

/-- No more are read only if each string begins where a character does. -/
theorem isUTF8FirstByte_of_length_le {strings : List (List UInt8)}
    (h : (joinDecoded strings).length ≤ countFirst strings.flatten) :
    ∀ octets ∈ strings, ∀ o ∈ octets.head?, o.IsUTF8FirstByte := by
  induction strings with
  | nil => exact fun _ hmem => nomatch hmem
  | cons octets strings ih =>
    rw [List.flatten_cons, countFirst_append, length_joinDecoded_cons] at h
    have hfirst := countFirst_le_length_decodeOctets octets
    have hrest := countFirst_flatten_le strings
    rw [List.forall_mem_cons]
    refine ⟨fun o ho => ?_, ih (by omega)⟩
    obtain ⟨os, rfl⟩ := List.head?_eq_some_iff.1 ho
    -- An octet that is read although no character begins with it is one too many.
    by_contra hwithin
    have := countFirst_lt_length_decodeOctets o os
    rw [countFirst_cons, if_neg hwithin] at h
    omega

/-! ### Which characters are read -/

/-- If each string begins where a character does, so do the strings together. -/
theorem isUTF8FirstByte_of_head?_flatten {strings : List (List UInt8)}
    (hbegins : ∀ octets ∈ strings, ∀ o ∈ octets.head?, o.IsUTF8FirstByte) :
    ∀ o ∈ strings.flatten.head?, o.IsUTF8FirstByte := by
  intro o ho
  rw [List.head?_flatten] at ho
  obtain ⟨octets, hmem, hhead⟩ := List.exists_of_findSome?_eq_some ho
  exact hbegins octets hmem o hhead

/-- Characters of which none lies in two strings are read as they are. -/
theorem joinDecoded_of_flatten_eq {cs : List Char} {strings : List (List UInt8)}
    (hcut : strings.flatten = encode cs)
    (hbegins : ∀ octets ∈ strings, ∀ o ∈ octets.head?, o.IsUTF8FirstByte) :
    joinDecoded strings = String.ofList cs := by
  induction strings generalizing cs with
  | nil =>
    have hcs : cs.length = 0 := by rw [← countFirst_encode, ← hcut]; rfl
    rw [List.length_eq_zero_iff.1 hcs]
    rfl
  | cons octets strings ih =>
    rw [List.forall_mem_cons] at hbegins
    obtain ⟨cs₁, cs₂, rfl, rfl, hrest⟩ := exists_of_encode_eq_append hcut.symm
      (isUTF8FirstByte_of_head?_flatten hbegins.2)
    rw [joinDecoded_cons, decodeLossy_encode, ih hrest hbegins.2, String.ofList_append]

/-! ### The text of an answer -/

namespace Answer

/-- The text of an answer is the text that is served exactly if each of its strings begins where a
    character of the text does. -/
theorem txt_faithful_iff {text : String} {strings : List (List UInt8)}
    (hcut : strings.flatten.toByteArray = text.toUTF8) :
    (txt strings).text? = some text ↔
      ∀ octets ∈ strings, ∀ o ∈ octets.head?, o.IsUTF8FirstByte := by
  have hflatten : strings.flatten = encode text.toList := by
    rw [← List.toByteArray_inj, hcut, toByteArray_encode]
  have htext : (txt strings).text? = some (joinDecoded strings) := rfl
  rw [htext, Option.some.injEq]
  constructor
  · intro hjoin
    refine isUTF8FirstByte_of_length_le (Nat.le_of_eq ?_)
    rw [hjoin, hflatten, countFirst_encode, String.length_toList]
  · intro hbegins
    rw [joinDecoded_of_flatten_eq hflatten hbegins, String.ofList_toList]

/-- It is for a text that is cut between two characters. -/
theorem txt_faithful_iff_twoStrings :
    ([[0x61], [0xC3, 0xA9]] : List (List UInt8)).flatten.toByteArray = "aé".toUTF8 ∧
      (txt [[0x61], [0xC3, 0xA9]]).text? = some "aé" := by
  refine ⟨by decide, (txt_faithful_iff (by decide)).2 ?_⟩
  simp only [List.forall_mem_cons, List.head?_cons, Option.mem_some_iff, forall_eq']
  decide

/-- It is not for every text and every way to cut it. -/
theorem not_txt_faithful :
    ¬ ∀ (text : String) (strings : List (List UInt8)), (∀ octets ∈ strings, octets.length ≤ 255) →
      strings.flatten.toByteArray = text.toUTF8 → (txt strings).text? = some text := by
  intro h
  have hserved := h "é" [[0xC3], [0xA9]] (by decide) (by decide)
  have hread : (txt [[0xC3], [0xA9]]).text? = some "\ufffd\ufffd" := by
    simp [text?, decodeLossy, decodeOctets, Lead.of?, continueChar, String.join]
  rw [hread] at hserved
  exact absurd hserved (by decide)

end Answer

end ZoneSync.Nameserver
