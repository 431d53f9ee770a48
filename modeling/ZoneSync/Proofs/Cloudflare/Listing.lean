import ZoneSync.Proofs.Cloudflare.Requests
import ZoneSync.Proofs.Http.Sendable

namespace ZoneSync.Cloudflare

open Http

/-!
# Listings

A listing asks for one page after the other, and each answer says anew how many pages there are. An
answer without word of that is taken for the last one, and an answer without records for an empty
page.

* `Client.PagesReadBy`, `Client.logs_pagesFrom` — how the pages from one on are read;
* `Client.ListedBy`, `Client.logs_list` — a listing: the zone, and its pages from the first one on;
* `Client.ListedBy.unique` — which is settled by the replies;
* `Page`, `ServedBy` — answers that hold a zone in pages, with parts of them missing;
* `Client.list_served` — what a listing of such answers comes to, and when it is whole.
-/

/-! ### Runs -/

/-- The records of an answer, and the number of pages. -/
def Envelope.page (e : Envelope (List Entry)) : List LiveRecord × UInt32 :=
  ((e.result.getD []).map Entry.toLive, e.totalPages.getD 1)

namespace Client

/-- The request for a page. -/
def pageRequest (c : Client) (zone : String) (n : Nat) : Except SendFailure Request :=
  Request.of .get (c.recordsUrl zone) [("page", Nat.repr n), ("per_page", Nat.repr pageSize)]
    c.token none

/-- The page that an exchange comes to. -/
def readPage (n : Nat) (x : Exchange) : Except Error (List LiveRecord × UInt32) :=
  readEnvelope (Json.listOf? Entry.ofJson?) ("DNS records page " ++ Nat.repr n) x >>= fun e =>
    .ok e.page

/-- How the pages from one on are read by these exchanges. -/
inductive PagesReadBy (c : Client) (zone : String) :
    Nat → Except Error (List LiveRecord) → List Exchange → Prop where
  | unsent {n : Nat} {e : SendFailure} :
    c.pageRequest zone n = .error e → PagesReadBy c zone n (.error (sendError e)) []
  | failed {n : Nat} {q : Request} {reply : Option Response} {e : Error} :
    c.pageRequest zone n = .ok q → readPage n ⟨q, reply⟩ = .error e →
      PagesReadBy c zone n (.error e) [⟨q, reply⟩]
  /-- As far as the last answer says, there is no other page. -/
  | last {n : Nat} {q : Request} {reply : Option Response} {records : List LiveRecord}
    {total : UInt32} :
    c.pageRequest zone n = .ok q → readPage n ⟨q, reply⟩ = .ok (records, total) →
      total.toNat ≤ n → PagesReadBy c zone n (.ok records) [⟨q, reply⟩]
  | more {n : Nat} {q : Request} {reply : Option Response} {records : List LiveRecord}
    {total : UInt32} {rest : Except Error (List LiveRecord)} {es : List Exchange} :
    c.pageRequest zone n = .ok q → readPage n ⟨q, reply⟩ = .ok (records, total) →
      n < total.toNat → PagesReadBy c zone (n + 1) rest es →
      PagesReadBy c zone n ((records ++ ·) <$> rest) (⟨q, reply⟩ :: es)

/-- Whether a listing comes to a result by these exchanges: the zone is found, and then its pages
    are read from the first one on. -/
def ListedBy (c : Client) (s : Session) (p : Except Error (List LiveRecord) × Session)
    (es : List Exchange) : Prop :=
  ∃ found lookup asked, c.ZoneFoundBy s (found, p.2) lookup ∧ es = lookup ++ asked ∧
    match found with
    | .ok zone => c.PagesReadBy zone 1 p.1 asked
    | .error e => p.1 = .error e ∧ asked = []

variable {c : Client} {zone : String}

/-- Pages that were read could be asked for. -/
theorem PagesReadBy.sendable {n : Nat} {live : List LiveRecord} {es : List Exchange}
    (h : c.PagesReadBy zone n (.ok live) es) : Sendable (c.recordsUrl zone) c.token := by
  generalize hresult : Except.ok live = result at h
  cases h with
  | unsent => exact nomatch hresult
  | failed => exact nomatch hresult
  | last hrequest => exact Request.exists_of_iff.mp ⟨_, hrequest⟩
  | more hrequest => exact Request.exists_of_iff.mp ⟨_, hrequest⟩

/-- The zone is only looked up. -/
theorem ZoneFoundBy.method_eq_get {s : Session} {p : Except Error String × Session}
    {es : List Exchange} (h : c.ZoneFoundBy s p es) : ∀ x ∈ es, x.request.method = .get := by
  unfold ZoneFoundBy at h
  split at h
  · rw [h.2]
    exact List.forall_mem_nil _
  · rw [h.2]
    exact List.forall_mem_nil _
  · obtain ⟨hfetched, _⟩ := h
    unfold FetchedBy at hfetched
    split at hfetched
    · rw [hfetched.2]
      exact List.forall_mem_nil _
    · rename_i hrequest
      obtain ⟨reply, _, rfl⟩ := hfetched
      exact List.forall_mem_singleton.mpr (Request.method_eq_of_eq_ok hrequest)

/-- Pages are only read. -/
theorem PagesReadBy.method_eq_get {n : Nat} {result : Except Error (List LiveRecord)}
    {es : List Exchange} (h : c.PagesReadBy zone n result es) :
    ∀ x ∈ es, x.request.method = .get := by
  induction h with
  | unsent => exact List.forall_mem_nil _
  | failed hrequest => exact List.forall_mem_singleton.mpr (Request.method_eq_of_eq_ok hrequest)
  | last hrequest => exact List.forall_mem_singleton.mpr (Request.method_eq_of_eq_ok hrequest)
  | more hrequest _ _ _ ih =>
    exact List.forall_mem_cons.mpr ⟨Request.method_eq_of_eq_ok hrequest, ih⟩

/-- A listing changes nothing. -/
theorem ListedBy.method_eq_get {s : Session} {p : Except Error (List LiveRecord) × Session}
    {es : List Exchange} (h : c.ListedBy s p es) : ∀ x ∈ es, x.request.method = .get := by
  obtain ⟨found, lookup, asked, hfound, rfl, hread⟩ := h
  refine List.forall_mem_append.mpr ⟨hfound.method_eq_get, ?_⟩
  cases found with
  | ok zone => exact hread.method_eq_get
  | error e =>
    rw [hread.2]
    exact List.forall_mem_nil _

section Unique

variable {s : Session} {es es' later later' : List Exchange}

/-- The pages that are read are settled by the replies, and so is how many of them are read. -/
theorem PagesReadBy.unique {n : Nat} {result result' : Except Error (List LiveRecord)}
    (h : c.PagesReadBy zone n result es) (h' : c.PagesReadBy zone n result' es')
    (hes : es ++ later = es' ++ later') : result = result' ∧ es = es' := by
  -- The first reply is the same, and it decides which way the reading goes.
  induction h generalizing result' es' with
  | unsent => cases h' <;> simp_all
  | failed => cases h' <;> simp_all
  | last =>
    cases h' with
    | more => simp_all; omega
    | _ => simp_all
  | more hq hread hmore hrest ih =>
    cases h' with
    | unsent => simp_all
    | failed => simp_all
    | last => simp_all; omega
    | more hq' hread' hmore' hrest' =>
      obtain ⟨hx, hes⟩ := List.cons.inj hes
      rw [hx] at hread
      obtain ⟨rfl, _⟩ := Prod.mk.inj (Except.ok.inj (hread.symm.trans hread'))
      obtain ⟨rfl, rfl⟩ := ih hrest' hes
      rw [hx]
      exact ⟨rfl, rfl⟩

/-- A listing is settled by its replies, whatever follows. -/
theorem ListedBy.unique {p p' : Except Error (List LiveRecord) × Session}
    (h : c.ListedBy s p es) (h' : c.ListedBy s p' es') (hes : es ++ later = es' ++ later') :
    p = p' ∧ es = es' := by
  obtain ⟨found, lookup, asked, hfound, rfl, hread⟩ := h
  obtain ⟨found', lookup', asked', hfound', rfl, hread'⟩ := h'
  rw [List.append_assoc, List.append_assoc] at hes
  obtain ⟨hp, rfl⟩ := hfound.unique hfound' hes
  obtain ⟨rfl, hsession⟩ := Prod.mk.inj hp
  have hasked : p.1 = p'.1 ∧ asked = asked' := by
    cases found with
    | ok zone => exact hread.unique hread' (List.append_cancel_left hes)
    | error e => exact ⟨hread.1.trans hread'.1.symm, hread.2.trans hread'.2.symm⟩
  exact ⟨Prod.ext hasked.1 hsession, by rw [hasked.2]⟩

end Unique

variable {m : Type → Type} [Monad m] [LawfulMonad m] (c : Client) (send : Transport m)

theorem logs_page (zone : String) (n : Nat) :
    Logs (FetchedBy (c.pageRequest zone n) (readPage n)) (c.page send.logged zone n).run := by
  have hrequest : Logs (FetchedBy (c.pageRequest zone n)
      (readEnvelope (Json.listOf? Entry.ofJson?) ("DNS records page " ++ Nat.repr n)))
      (c.request send.logged (Json.listOf? Entry.ofJson?) ("DNS records page " ++ Nat.repr n) .get
        (c.recordsUrl zone) [("page", Nat.repr n), ("per_page", Nat.repr pageSize)]).run :=
    logs_ask send _ _ _
  exact logs_bind_fetched hrequest fun e => rfl

theorem logs_pagesFrom (zone : String) (n : Nat) :
    Logs (c.PagesReadBy zone n) (c.pagesFrom send.logged zone n).run := by
  -- There are fewer than `2 ^ 32` pages to come.
  induction hroom : UInt32.size - n using Nat.strongRecOn generalizing n with
  | ind room ih =>
    rw [pagesFrom]
    refine Logs.bind_except (c.logs_page send zone n) ?_ ?_
    · intro e es h
      unfold FetchedBy at h
      split at h
      · rename_i hrequest
        obtain ⟨he, rfl⟩ := h
        rw [Except.error.inj he]
        exact .unsent hrequest
      · rename_i hrequest
        obtain ⟨reply, hread, rfl⟩ := h
        exact .failed hrequest hread.symm
    · rintro ⟨records, total⟩ es h
      unfold FetchedBy at h
      split at h
      · exact nomatch h.1
      · rename_i q hrequest
        obtain ⟨reply, hread, rfl⟩ := h
        dsimp only
        split
        · rename_i hmore
          have htotal := total.toNat_lt_size
          refine Logs.bind_except (ih _ ?_ (n + 1) rfl) ?_ ?_
          · omega
          · exact fun e es h => .more hrequest hread.symm hmore h
          · intro rest es h
            refine Logs.pure_of ?_
            rw [List.append_nil]
            exact .more hrequest hread.symm hmore h
        · rename_i hlast
          exact Logs.pure_of (.last hrequest hread.symm (Nat.le_of_not_lt hlast))

theorem logs_list (s : Session) :
    Logs (c.ListedBy s) ((c.list send.logged).run.run s) := by
  unfold list
  refine Logs.bind_action (c.logs_zone send s) ?_ ?_
  · intro e s' lookup h
    exact ⟨.error e, lookup, [], h, (List.append_nil lookup).symm, rfl, rfl⟩
  · intro zone s' lookup h
    refine (logs_ofExchange (c.logs_pagesFrom send zone 1)).imp ?_
    rintro ⟨result, _⟩ asked ⟨hread, rfl⟩
    exact ⟨.ok zone, lookup, asked, h, rfl, hread⟩

end Client

/-! ### Zones in pages -/

/-- A page of a zone, and which parts its answer has. -/
structure Page where
  records : List LiveRecord
  hasResult : Bool := true
  /-- There is word of the number of pages. -/
  hasInfo : Bool := true

namespace Page

/-- Whether an exchange is answered with a page, which is one of `total`. -/
def SentIn (total : Nat) (p : Page) (x : Exchange) : Prop :=
  ∃ response ∈ x.reply, response.status.isSuccess = true ∧
    ∃ e ∈ Envelope.ofText? (Json.listOf? Entry.ofJson?) response.body, e.success = true ∧
      e.result.map (·.map Entry.toLive) = (if p.hasResult then some p.records else none) ∧
      e.totalPages.map (·.toNat) = (if p.hasInfo then some total else none)

instance (total : Nat) (p : Page) (x : Exchange) : Decidable (p.SentIn total x) :=
  inferInstanceAs (Decidable (∃ response ∈ x.reply, _))

/-- The records that an answer shows. -/
def shown (p : Page) : List LiveRecord := if p.hasResult then p.records else []

end Page

/-- Whether exchanges are answered with pages, as far as there are both. -/
def ServedBy (total : Nat) (pages : List Page) (es : List Exchange) : Prop :=
  ∀ p ∈ pages.zip es, p.1.SentIn total p.2

instance (total : Nat) (pages : List Page) (es : List Exchange) :
    Decidable (ServedBy total pages es) :=
  inferInstanceAs (Decidable (∀ p ∈ pages.zip es, _))

/-- The pages that a listing reads: those up to the first one without word of their number. -/
def pagesRead : List Page → List Page
  | [] => []
  | p :: rest => p :: if p.hasInfo then pagesRead rest else []

theorem isPrefix_pagesRead (pages : List Page) : pagesRead pages <+: pages := by
  induction pages with
  | nil => exact List.nil_prefix
  | cons p rest ih =>
    rw [pagesRead, List.cons_prefix_cons]
    refine ⟨rfl, ?_⟩
    split
    · exact ih
    · exact List.nil_prefix

/-- An answer with a page is read as what it shows. -/
theorem exists_readPage_of_sentIn {total n : Nat} {p : Page} {x : Exchange}
    (h : p.SentIn total x) : ∃ pages, Client.readPage n x = .ok (p.shown, pages) ∧
      pages.toNat = if p.hasInfo then total else 1 := by
  obtain ⟨response, hreply, hstatus, e, he, hsuccess, hresult, hpages⟩ := h
  have hread : Client.readPage n x = .ok e.page := by
    rw [Option.mem_def] at hreply he
    simp only [Client.readPage, readEnvelope, hreply, answer, hstatus, he, hsuccess]
    rfl
  refine ⟨e.totalPages.getD 1, ?_, ?_⟩
  · have hshown : (e.result.getD []).map Entry.toLive =
        (e.result.map (·.map Entry.toLive)).getD [] := by
      cases e.result <;> rfl
    rw [hread, Envelope.page, hshown, hresult, Page.shown]
    split <;> rfl
  · have hnumber : (e.totalPages.getD 1).toNat = (e.totalPages.map (·.toNat)).getD 1 := by
      cases e.totalPages <;> rfl
    rw [hnumber, hpages]
    split <;> rfl

/-- The pages from one on are read up to the first one without word of their number. -/
theorem Client.PagesReadBy.of_servedBy {c : Client} {zone : String} {n total : Nat}
    {result : Except Error (List LiveRecord)} {es : List Exchange}
    (h : c.PagesReadBy zone n result es) (hsend : Sendable (c.recordsUrl zone) c.token)
    (hn : 1 ≤ n) {p : Page} {rest : List Page} (htotal : n + rest.length = total)
    (hserved : ServedBy total (p :: rest) es) :
    result = .ok ((pagesRead (p :: rest)).flatMap Page.shown) ∧
      es.length = (pagesRead (p :: rest)).length := by
  induction h generalizing p rest with
  | unsent hrequest =>
    obtain ⟨q, hq⟩ := Request.exists_of_iff.mpr hsend
    exact nomatch hrequest.symm.trans hq
  | failed _ hread =>
    obtain ⟨pages, hok, _⟩ := exists_readPage_of_sentIn (hserved _ List.mem_cons_self)
    exact nomatch hread.symm.trans hok
  | @last n q reply records pages' _ hread hlast =>
    obtain ⟨pages, hok, hpages⟩ := exists_readPage_of_sentIn (hserved _ List.mem_cons_self)
    obtain ⟨rfl, rfl⟩ := Prod.mk.inj (Except.ok.inj (hread.symm.trans hok))
    -- After the last page there is none.
    have hend : pagesRead (p :: rest) = [p] := by
      rw [pagesRead]
      split
      · rename_i hinfo
        rw [if_pos hinfo] at hpages
        have hnil : rest = [] := List.length_eq_zero_iff.mp (by omega)
        rw [hnil]
        rfl
      · rfl
    rw [hend]
    exact ⟨congrArg _ (List.append_nil _).symm, rfl⟩
  | @more n q reply records pages' result es _ hread hmore _ ih =>
    obtain ⟨pages, hok, hpages⟩ := exists_readPage_of_sentIn (hserved _ List.mem_cons_self)
    obtain ⟨rfl, rfl⟩ := Prod.mk.inj (Except.ok.inj (hread.symm.trans hok))
    by_cases hinfo : p.hasInfo = true
    · rw [if_pos hinfo] at hpages
      cases rest with
      | nil =>
        rw [List.length_nil] at htotal
        omega
      | cons p' rest =>
        obtain ⟨rfl, hlength⟩ := ih (by omega) (by rw [← htotal, List.length_cons]; omega)
          fun px hpx => hserved px (List.mem_cons_of_mem _ hpx)
        have hpage : pagesRead (p :: p' :: rest) = p :: pagesRead (p' :: rest) :=
          congrArg (p :: ·) (if_pos hinfo)
        rw [hpage, List.length_cons, List.length_cons, hlength]
        exact ⟨rfl, rfl⟩
    · rw [if_neg hinfo] at hpages
      omega

/-- What a listing of a zone in pages comes to. -/
structure ListsPages (pages : List Page) (result : Except Error (List LiveRecord))
    (asked : List Exchange) : Prop where
  asked_eq : asked.length = (pagesRead pages).length
  result_eq : result = .ok ((pagesRead pages).flatMap Page.shown)
  /-- It is whole, and known to be, exactly if all answers have a result and no record stands behind
      an answer without word of the number of pages. -/
  whole_iff : ((∀ p ∈ pages, p.hasResult = true) ∧ result = .ok (pages.flatMap (·.records))) ↔
    (∀ p ∈ pages, p.hasResult = true) ∧
      ∀ p ∈ pages.drop (pagesRead pages).length, p.records = []

theorem listsPages_of_read {pages : List Page} {result : Except Error (List LiveRecord)}
    {asked : List Exchange} (hresult : result = .ok ((pagesRead pages).flatMap Page.shown))
    (hasked : asked.length = (pagesRead pages).length) : ListsPages pages result asked := by
  refine ⟨hasked, hresult, and_congr_right fun hall => ?_⟩
  have hshown : (pagesRead pages).flatMap Page.shown = (pagesRead pages).flatMap (·.records) := by
    refine List.flatMap_congr fun p hp => ?_
    exact if_pos (hall p ((isPrefix_pagesRead pages).subset hp))
  have hwhole : pages.flatMap (·.records) = (pagesRead pages).flatMap (·.records) ++
      (pages.drop (pagesRead pages).length).flatMap (·.records) := by
    rw [← List.flatMap_append, List.prefix_iff_eq_append.mp (isPrefix_pagesRead pages)]
  rw [hresult, hshown, hwhole, Except.ok.injEq, List.self_eq_append_right,
    List.flatMap_eq_nil_iff]

/-- **Listings trust every answer.** The zone is found first. When the answers hold it in pages, the
    listing comes to what they show up to the first one without word of the number of pages, and no
    error tells whether that is all. -/
theorem Client.list_served {m : Type → Type} [Monad m] [LawfulMonad m] (c : Client)
    (send : Transport m) (s : Session) :
    Logs (fun p es => ∃ found lookup asked, c.ZoneFoundBy s (found, p.2) lookup ∧
        es = lookup ++ asked ∧
        (∀ e, found = .error e → p.1 = .error e ∧ asked = []) ∧
        ∀ zone, found = .ok zone →
          (¬ Sendable (c.recordsUrl zone) c.token → (∃ e, p.1 = .error e) ∧ asked = []) ∧
          (Sendable (c.recordsUrl zone) c.token → ∀ pages, pages ≠ [] →
            ServedBy pages.length pages asked → ListsPages pages p.1 asked))
      ((c.list send.logged).run.run s) := by
  refine (c.logs_list send s).imp ?_
  rintro p es ⟨found, lookup, asked, hfound, hes, hlisted⟩
  refine ⟨found, lookup, asked, hfound, hes, ?_, ?_⟩
  · rintro e rfl
    exact hlisted
  · rintro zone rfl
    replace hlisted : c.PagesReadBy zone 1 p.1 asked := hlisted
    refine ⟨fun hsend => ?_, fun hsend pages hpages hserved => ?_⟩
    · have hunsent {q : Request} : c.pageRequest zone 1 ≠ .ok q :=
        fun hq => hsend (Request.exists_of_iff.mp ⟨q, hq⟩)
      generalize p.1 = result at hlisted
      cases hlisted with
      | unsent _ => exact ⟨⟨_, rfl⟩, rfl⟩
      | failed hq _ => exact absurd hq hunsent
      | last hq _ _ => exact absurd hq hunsent
      | more hq _ _ _ => exact absurd hq hunsent
    · cases pages with
      | nil => exact absurd rfl hpages
      | cons p rest =>
        obtain ⟨hresult, hasked⟩ := hlisted.of_servedBy hsend (Nat.le_refl 1)
          (Nat.add_comm ..) hserved
        exact listsPages_of_read hresult hasked

/-! ### A zone of which a page is lost -/

/-- A transport that answers from a script, one reply after the other. -/
def scripted : Transport (StateM (List Response)) := fun _ => do
  match ← get with
  | reply :: rest =>
    set rest
    return some reply
  | [] => return none

/-- A listing of which the replies are known, with its exchanges. -/
def Client.listFrom (c : Client) (replies : List Response) :
    Except Error (List LiveRecord) × List Exchange :=
  let run := (((c.list scripted.logged).run.run {}).run []).run replies
  (run.1.1.1, run.1.2)

/-- A client for a zone with a known identifier. -/
def knownClient : Client where
  token := "secret"
  place := .byId "z1" none
  base := "http://localhost"
  dryRun := false

/-- A server of the zone `t`, which is its own identifier. -/
def nameserver (host : String) : LiveRecord where
  id := host
  record := { name := "t", type := .ns, value := .content host }

/-- A zone in three pages; the second answer says nothing of their number. -/
def threePages : List Page :=
  [{ records := [nameserver "a"] }, { records := [nameserver "b"], hasInfo := false },
    { records := [nameserver "c"] }]

/-- The answer with a server, and with more fields. -/
def serverReply (host more : String) : Response where
  status := .ok
  body := "\x7b\x22success\x22:true,\x22result\x22:[\x7b\x22id\x22:\x22" ++ host ++
    "\x22,\x22name\x22:\x22t\x22,\x22type\x22:\x22NS\x22,\x22content\x22:\x22" ++ host ++
    "\x22\x7d]" ++ more ++ "\x7d"

/-- The answers that hold this zone. -/
def threeReplies : List Response :=
  let info := ",\x22result_info\x22:\x7b\x22total_pages\x22:3\x7d"
  [serverReply "a" info, serverReply "b" "", serverReply "c" info]

theorem listFrom_threeReplies :
    (knownClient.listFrom threeReplies).1 = .ok [nameserver "a", nameserver "b"] ∧
      ServedBy 3 threePages (knownClient.listFrom threeReplies).2 := by
  decide +kernel

/-- The third page is not read, and would not be missed if it were empty. -/
theorem Client.list_served_threeReplies :
    ListsPages threePages (knownClient.listFrom threeReplies).1
      (knownClient.listFrom threeReplies).2 := by
  have hsend : Sendable (knownClient.recordsUrl "z1") knownClient.token := by
    have hrequest : (knownClient.pageRequest "z1" 1).isOk = true := by decide +kernel
    cases hq : knownClient.pageRequest "z1" 1 with
    | ok q => exact Request.exists_of_iff.mp ⟨q, hq⟩
    | error e => exact nomatch hq ▸ hrequest
  have hlists : ∀ replies, ServedBy 3 threePages (knownClient.listFrom replies).2 →
      ListsPages threePages (knownClient.listFrom replies).1
        (knownClient.listFrom replies).2 := by
    intro replies hserved
    have hrun := always_iff_forall.mp (knownClient.list_served scripted {} []) replies
    obtain ⟨es, hes, found, lookup, asked, ⟨hfound, hlookup⟩, hasked, _, hlisted⟩ := hrun
    obtain ⟨rfl, _⟩ := Prod.mk.inj hfound
    -- The zone is known, so that all exchanges are for pages.
    have hexchanges : (knownClient.listFrom replies).2 = asked := by
      rw [hlookup, List.nil_append] at hasked
      exact hes.trans hasked
    rw [hexchanges]
    exact (hlisted "z1" rfl).2 hsend threePages nofun (hexchanges ▸ hserved)
  exact hlists threeReplies listFrom_threeReplies.2

/-- A listing can be part of a zone, although every answer has its result and the first one says how
    many pages there are. -/
theorem not_list_whole :
    ¬ ∀ (c : Client) (zone : String) (replies : List Response) (pages : List Page)
        (records : List LiveRecord), c.place = .byId zone none →
      pages.head?.any (·.hasInfo) = true →
      ServedBy pages.length pages (c.listFrom replies).2 →
      (c.listFrom replies).1 = .ok records →
        (∀ p ∈ pages, p.hasResult = true) ∧ records = pages.flatMap (·.records) := by
  intro h
  obtain ⟨hlisted, hserved⟩ := listFrom_threeReplies
  obtain ⟨_, hwhole⟩ := h knownClient "z1" threeReplies threePages _ rfl rfl hserved hlisted
  exact absurd hwhole (by decide)

end ZoneSync.Cloudflare
