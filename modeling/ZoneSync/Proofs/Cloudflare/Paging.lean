import ZoneSync.Proofs.Cloudflare.Changes
import ZoneSync.Proofs.Json.Fields

namespace ZoneSync

/-!
# Listings come to an end

Every answer says anew how many pages there are, so that the server decides how long a listing goes
on. It still ends: a number of pages has 32 bits, and so has the number of every page asked for.

* `Json.Announces` — the number of pages that an answer announces;
* `ShowsPage`, `readPage_eq_ok_iff` — the answers that hold a page, and no others are read as one;
* `EndsAt` — a listing ends with a page that is not there, or that is the last one announced;
* `Client.ReadsPages`, `Client.PagesReadBy.readsPages` — the pages that are asked for, and what
  comes of them;
* `Client.list_ends` — every listing ends, and it has all records or none.
-/

/-! ### Announcements -/

namespace Json

/-- Whether the word of pages gives their number; without the number they are none. -/
def PagesIn (info : Json) (pages : UInt32) : Prop :=
  match info.part? ["total_pages"] "total_pages" with
  | none => pages = 0
  | some n => n.uint32? = some pages

/-- Whether an answer announces so many pages; without word of pages there is one. -/
def Announces (j : Json) (pages : UInt32) : Prop :=
  match j.part? ["success", "errors", "result", "result_info"] "result_info" with
  | none | some .null => pages = 1
  | some info => info.PagesIn pages

theorem PagesIn.unique {info : Json} {pages pages' : UInt32} (h : info.PagesIn pages)
    (h' : info.PagesIn pages') : pages = pages' := by
  unfold PagesIn at h h'
  cases hpart : info.part? ["total_pages"] "total_pages" with
  | none =>
    rw [hpart] at h h'
    exact h.trans h'.symm
  | some n =>
    rw [hpart] at h h'
    exact Option.some.inj (h.symm.trans h')

/-- An answer announces one number of pages. -/
theorem Announces.unique {j : Json} {pages pages' : UInt32} (h : j.Announces pages)
    (h' : j.Announces pages') : pages = pages' := by
  unfold Announces at h h'
  cases hpart : j.part? ["success", "errors", "result", "result_info"] "result_info" with
  | none =>
    rw [hpart] at h h'
    exact h.trans h'.symm
  | some info =>
    rw [hpart] at h h'
    cases info with
    | null => exact h.trans h'.symm
    | _ => exact PagesIn.unique h h'

end Json

namespace Cloudflare

open Http

theorem pagesIn_of_totalPages? {info : Json} {pages : UInt32} (h : totalPages? info = some pages) :
    info.PagesIn pages := by
  unfold totalPages? at h
  simp only [Option.bind_eq_bind, Option.bind_eq_some_iff] at h
  obtain ⟨fields, hfields, h⟩ := h
  unfold Json.Fields.orElse? at h
  rw [Json.get?_eq_part? hfields (by decide)] at h
  unfold Json.PagesIn
  cases hpart : info.part? ["total_pages"] "total_pages" with
  | none =>
    rw [hpart] at h
    exact (Option.some.inj h).symm
  | some n =>
    rw [hpart] at h
    exact h

/-- The number of pages that an answer is read with is the one that it announces. -/
theorem Envelope.announces_of_ofJson? {α : Type} {result? : Json → Option α} {j : Json}
    {e : Envelope α} (h : Envelope.ofJson? result? j = some e) :
    j.Announces (e.totalPages.getD 1) := by
  unfold Envelope.ofJson? at h
  simp only [Option.bind_eq_bind, Option.bind_eq_some_iff, Option.pure_def,
    Option.some.injEq] at h
  obtain ⟨fields, hfields, _, _, _, _, _, _, total, htotal, rfl⟩ := h
  unfold Json.Fields.orElse? at htotal
  rw [Json.get?_eq_part? hfields (by decide)] at htotal
  unfold Json.Announces
  cases hpart : j.part? ["success", "errors", "result", "result_info"] "result_info" with
  | none =>
    rw [hpart] at htotal
    rw [← Option.some.inj htotal]
    rfl
  | some info =>
    rw [hpart] at htotal
    cases info with
    | null =>
      rw [← Option.some.inj htotal]
      rfl
    | _ =>
      -- Word of pages that is not null has been read for their number.
      simp only [Json.nullable?, Option.map_eq_some_iff] at htotal
      obtain ⟨pages, hpages, rfl⟩ := htotal
      exact pagesIn_of_totalPages? hpages

/-! ### Answers with a page -/

/-- Whether an exchange is answered with records, as a page of so many: with a status of success, a
    body that can be read, and word of success in it. Without a result there are no records. -/
def ShowsPage (x : Exchange) (records : List LiveRecord) (pages : UInt32) : Prop :=
  ∃ response ∈ x.reply, response.status.isSuccess = true ∧
    ∃ j, Json.read? response.body = some j ∧
      ∃ e, Envelope.ofJson? (Json.listOf? Entry.ofJson?) j = some e ∧ e.success = true ∧
        records = (e.result.getD []).map Entry.toLive ∧ j.Announces pages

/-- Whether a listing ends with an exchange for page `n`: there is no page, or no other one is
    announced. -/
def EndsAt (n : Nat) (x : Exchange) : Prop :=
  ∀ records pages, ShowsPage x records pages → pages.toNat ≤ n

namespace Client

/-- The answers that hold a page are those that are read as one. -/
theorem readPage_eq_ok_iff {n : Nat} {x : Exchange} {records : List LiveRecord} {pages : UInt32} :
    readPage n x = .ok (records, pages) ↔ ShowsPage x records pages := by
  rw [readPage, readEnvelope_bind_eq_ok_iff]
  simp only [Except.ok.injEq]
  unfold AnsweredWith ShowsPage
  constructor
  · rintro ⟨e, ⟨response, hreply, hstatus, hbody, hsuccess⟩, heq⟩
    obtain ⟨hrecords, hpages⟩ := Prod.mk.inj heq
    obtain ⟨j, hj, he⟩ := Option.bind_eq_some_iff.mp hbody
    exact ⟨response, hreply, hstatus, j, hj, e, he, hsuccess, hrecords.symm,
      hpages ▸ Envelope.announces_of_ofJson? he⟩
  · rintro ⟨response, hreply, hstatus, j, hj, e, he, hsuccess, rfl, hpages⟩
    refine ⟨e, ⟨response, hreply, hstatus, Option.bind_eq_some_iff.mpr ⟨j, hj, he⟩, hsuccess⟩, ?_⟩
    rw [Envelope.page, (Envelope.announces_of_ofJson? he).unique hpages]

/-! ### Listings -/

/-- Whether the pages from one on are read by these exchanges. -/
structure ReadsPages (c : Client) (zone : String) (first : Nat)
    (result : Except Error (List LiveRecord)) (asked : List Exchange) : Prop where
  /-- The pages are asked for one after the other, each of them once. -/
  requests : requests asked = (List.range' first asked.length).map (c.pageRequest zone)
  /-- Their numbers have 32 bits. -/
  bounded : first + asked.length ≤ UInt32.size
  ne_nil : asked ≠ []
  /-- The last page asked for is the first one at which a listing ends. -/
  ends_iff : ∀ i x, asked[i]? = some x → (EndsAt (first + i) x ↔ i + 1 = asked.length)
  /-- If there is no such page, its error is all that comes of the listing. -/
  failed : ∀ x, asked.getLast? = some x → (∀ records pages, ¬ ShowsPage x records pages) →
    ∃ e, readPage (first + asked.length - 1) x = .error e ∧ result = .error e
  /-- Otherwise the records of all pages are listed, in order. -/
  listed : ∀ x, asked.getLast? = some x → (∃ records pages, ShowsPage x records pages) →
    ∃ parts, List.Forall₂ (fun x records => ∃ pages, ShowsPage x records pages) asked parts ∧
      result = .ok parts.flatten

namespace ReadsPages

variable {c : Client} {zone : String} {n : Nat} {q : Http.Request} {reply : Option Response}
  {records : List LiveRecord} {pages : UInt32} {rest : Except Error (List LiveRecord)}
  {es : List Exchange}

/-- A page that is not there is the last one asked for. -/
theorem of_error (hn : n < UInt32.size) (hrequest : c.pageRequest zone n = .ok q) {e : Error}
    (hread : readPage n ⟨q, reply⟩ = .error e) :
    c.ReadsPages zone n (.error e) [⟨q, reply⟩] := by
  have hnone : ∀ records pages, ¬ ShowsPage ⟨q, reply⟩ records pages := by
    intro records pages hshows
    exact nomatch hread.symm.trans (readPage_eq_ok_iff.mpr hshows)
  refine ⟨?_, hn, List.cons_ne_nil _ _, ?_, ?_, ?_⟩
  · exact congrArg (· :: []) hrequest.symm
  · rintro (_ | i) x hx
    · obtain rfl := Option.some.inj hx
      exact iff_of_true (fun records pages h => absurd h (hnone records pages)) rfl
    · exact nomatch hx
  · rintro x hx -
    obtain rfl := Option.some.inj hx
    exact ⟨e, hread, rfl⟩
  · rintro x hx ⟨records, pages, hshows⟩
    obtain rfl := Option.some.inj hx
    exact absurd hshows (hnone records pages)

/-- A page that is announced as the last one is the last one asked for. -/
theorem of_last (hn : n < UInt32.size) (hrequest : c.pageRequest zone n = .ok q)
    (hshows : ShowsPage ⟨q, reply⟩ records pages) (hlast : pages.toNat ≤ n) :
    c.ReadsPages zone n (.ok records) [⟨q, reply⟩] := by
  refine ⟨?_, hn, List.cons_ne_nil _ _, ?_, ?_, ?_⟩
  · exact congrArg (· :: []) hrequest.symm
  · rintro (_ | i) x hx
    · obtain rfl := Option.some.inj hx
      -- An exchange shows one page only, so that it is enough to look at this one.
      refine iff_of_true (fun records' pages' h => ?_) rfl
      have hsame := (readPage_eq_ok_iff (n := n).mpr h).symm.trans (readPage_eq_ok_iff.mpr hshows)
      rw [(Prod.mk.inj (Except.ok.inj hsame)).2]
      exact hlast
    · exact nomatch hx
  · intro x hx hnone
    obtain rfl := Option.some.inj hx
    exact absurd hshows (hnone records pages)
  · intro x hx _
    exact ⟨[records], .cons ⟨pages, hshows⟩ .nil, by rw [List.flatten_singleton]⟩

/-- A page with another one announced behind it is followed by that page. -/
theorem cons (hrequest : c.pageRequest zone n = .ok q)
    (hshows : ShowsPage ⟨q, reply⟩ records pages) (hmore : n < pages.toNat)
    (h : c.ReadsPages zone (n + 1) rest es) :
    c.ReadsPages zone n ((records ++ ·) <$> rest) (⟨q, reply⟩ :: es) := by
  have hlast : (⟨q, reply⟩ :: es).getLast? = es.getLast? := List.getLast?_cons_of_ne_nil h.ne_nil
  refine ⟨?_, ?_, List.cons_ne_nil _ _, ?_, ?_, ?_⟩
  · rw [List.length_cons, List.range'_succ, List.map_cons, hrequest, ← h.requests]
    rfl
  · have := h.bounded
    rw [List.length_cons]
    omega
  · rintro (_ | i) x hx
    · obtain rfl := Option.some.inj hx
      refine iff_of_false (fun hends => ?_) ?_
      · exact absurd (hends records pages hshows) (Nat.not_le_of_lt hmore)
      · have := List.length_pos_iff.mpr h.ne_nil
        simp only [List.length_cons]
        omega
    · -- Page `n + (i + 1)` of this listing is page `n + 1 + i` of the rest.
      have hrest := h.ends_iff i x hx
      rw [Nat.add_assoc, Nat.add_comm 1 i] at hrest
      rw [hrest, List.length_cons, Nat.add_right_cancel_iff]
  · rw [hlast, List.length_cons, ← Nat.add_assoc, Nat.add_right_comm]
    intro x hx hnone
    obtain ⟨e, hread, rfl⟩ := h.failed x hx hnone
    exact ⟨e, hread, rfl⟩
  · rw [hlast]
    intro x hx hx'
    obtain ⟨parts, hparts, rfl⟩ := h.listed x hx hx'
    exact ⟨records :: parts, .cons ⟨pages, hshows⟩ hparts, rfl⟩

end ReadsPages

variable {c : Client} {zone : String}

/-- Pages that can be asked for are read until one of them is the last, or is not there. -/
theorem PagesReadBy.readsPages {n : Nat} {result : Except Error (List LiveRecord)}
    {es : List Exchange} (h : c.PagesReadBy zone n result es)
    (hsend : Sendable (c.recordsUrl zone) c.token) (hn : n < UInt32.size) :
    c.ReadsPages zone n result es := by
  induction h with
  | unsent hrequest =>
    obtain ⟨q, hq⟩ := Request.exists_of_iff.mpr hsend
    exact nomatch hrequest.symm.trans hq
  | failed hrequest hread => exact .of_error hn hrequest hread
  | last hrequest hread hlast => exact .of_last hn hrequest (readPage_eq_ok_iff.mp hread) hlast
  | @more n q reply records total rest es hrequest hread hmore _ ih =>
    -- There are fewer than `2 ^ 32` pages, so that the next number is one of 32 bits as well.
    have htotal := total.toNat_lt_size
    exact .cons hrequest (readPage_eq_ok_iff.mp hread) hmore (ih (by omega))

/-- Pages that cannot be asked for come to an error. -/
theorem PagesReadBy.of_not_sendable {n : Nat} {result : Except Error (List LiveRecord)}
    {es : List Exchange} (h : c.PagesReadBy zone n result es)
    (hsend : ¬ Sendable (c.recordsUrl zone) c.token) : (∃ e, result = .error e) ∧ es = [] := by
  have hunsent {q : Http.Request} : c.pageRequest zone n ≠ .ok q :=
    fun hq => hsend (Request.exists_of_iff.mp ⟨q, hq⟩)
  cases h with
  | unsent _ => exact ⟨⟨_, rfl⟩, rfl⟩
  | failed hq _ => exact absurd hq hunsent
  | last hq _ _ => exact absurd hq hunsent
  | more hq _ _ _ => exact absurd hq hunsent

/-- A listing on a server that has a state of its own, with the exchanges. -/
def listOn {σ : Type} (c : Client) (send : Transport (StateM σ)) (s : Session) (server : σ) :
    (Except Error (List LiveRecord) × Session) × List Exchange :=
  ((((c.list send.logged).run.run s).run []).run server).1

/-- **Listings end, with all records or with none.** Whatever a server replies, a listing comes to a
    result. When the zone is found, it asks for the pages 1, 2, ... once each, up to the first one
    that is not there or that is announced as the last. The error of that page is all that comes of
    the listing; without an error the records of all pages are listed. -/
theorem list_ends {σ : Type} (c : Client) (send : Transport (StateM σ)) (s : Session)
    (server : σ) :
    ∃ found lookup asked, c.ZoneFoundBy s (found, (c.listOn send s server).1.2) lookup ∧
      (c.listOn send s server).2 = lookup ++ asked ∧
      (∀ e, found = .error e → (c.listOn send s server).1.1 = .error e ∧ asked = []) ∧
      ∀ zone, found = .ok zone →
        (¬ Sendable (c.recordsUrl zone) c.token →
          (∃ e, (c.listOn send s server).1.1 = .error e) ∧ asked = []) ∧
        (Sendable (c.recordsUrl zone) c.token →
          c.ReadsPages zone 1 (c.listOn send s server).1.1 asked) := by
  obtain ⟨es, hes, found, lookup, asked, hfound, rfl, hlisted⟩ :=
    always_iff_forall.mp (c.logs_list send s []) server
  refine ⟨found, lookup, asked, hfound, hes, ?_, ?_⟩
  · rintro e rfl
    exact hlisted
  · rintro zone rfl
    replace hlisted : c.PagesReadBy zone 1 (c.listOn send s server).1.1 asked := hlisted
    exact ⟨hlisted.of_not_sendable, fun hsend => hlisted.readsPages hsend (by decide)⟩

end Client

end Cloudflare

end ZoneSync
