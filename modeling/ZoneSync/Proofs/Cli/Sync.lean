import ZoneSync.Cli.Run
import ZoneSync.Proofs.Cloudflare.Changes

namespace ZoneSync

/-!
# Runs that change the zone

Whether a run is a dry run is decided by the flag and a variable, and then kept in the configuration
and in the client that is made for it.

* `Cli.DryRunAsked` — a dry run is asked for;
* `Settings.dryRun_of_sync`, `Cloudflare.Client.dryRun_of_create` — the answer is passed on;
* `Cli.runSync_eq` — a run is one of the client, once there is a client;
* `Cli.SyncRun` — how a run can end, and with which requests;
* `Cli.sync_exact` — every run ends in one of these ways, and a dry run only reads.
-/

/-! ### Errors -/

theorem eq_ok_of_mapError_eq_ok {ε ε' α : Type} {x : Except ε α} {f : ε → ε'} {a : α}
    (h : x.mapError f = .ok a) : x = .ok a := by
  cases x with
  | ok a' => exact congrArg _ (Except.ok.inj h)
  | error e => exact nomatch h

/-! ### Configurations -/

theorem Settings.dryRun_of_sync {env : Variables} {file domain : String} {flag : Bool}
    {config : SyncConfig} (h : Settings.sync env file domain flag = .ok config) :
    config.dryRun = (flag || Settings.dryRunRequested env) := by
  obtain ⟨p, -, h⟩ := bind_eq_ok_iff.mp h
  obtain ⟨-, -, h⟩ := bind_eq_ok_iff.mp h
  rw [← Except.ok.inj h]

namespace Cloudflare.Client

theorem dryRun_of_of {token : String} {zoneId zoneName : Option String}
    {dryRun : Bool} {client : Client} (h : of token zoneId zoneName dryRun = .ok client) :
    client.dryRun = dryRun := by
  unfold of at h
  split at h
  · exact nomatch h
  · split at h
    · rw [← Except.ok.inj h]
    · exact nomatch h

theorem dryRun_of_ofConfig {config : ProviderConfig} {dryRun : Bool}
    {client : Client} (h : ofConfig dryRun config = .ok client) : client.dryRun = dryRun := by
  cases config with
  | custom factory settings => exact nomatch h
  | cloudflare token zoneId zoneName apiBase =>
    have hcreate : (of token zoneId zoneName dryRun >>= fun c =>
        .ok ((apiBase.map c.withBase).getD c)) = .ok client := by
      dsimp only [ofConfig] at h
      split at h
      · exact nomatch h
      · exact h
    obtain ⟨c, hc, h⟩ := bind_eq_ok_iff.mp hcreate
    rw [← Except.ok.inj h, ← dryRun_of_of hc]
    cases apiBase <;> rfl

theorem dryRun_of_create {config : SyncConfig} {client : Client}
    (h : (Cli.registry config).create config.provider = .ok client) :
    client.dryRun = config.dryRun := by
  unfold Registry.create at h
  split at h
  · rename_i factory hfactory
    by_cases hname : providerName = config.provider.typeName
    · have hregistered : (Cli.registry config).factory? providerName =
          some (Client.ofConfig config.dryRun) := Registry.factory?_register_self ..
      rw [← hname, hregistered] at hfactory
      rw [← Option.some.inj hfactory] at h
      exact dryRun_of_ofConfig h
    · have hnone : (Cli.registry config).factory? config.provider.typeName = none :=
        Registry.factory?_register_of_ne _ _ hname
      exact nomatch hnone.symm.trans hfactory
  · exact nomatch h

end Cloudflare.Client

namespace Cli

open Http Cloudflare

/-- Whether a dry run is asked for, by the flag or by the mode. Neither the case of the mode nor
    blanks around it count. -/
def DryRunAsked (env : Variables) (flag : Bool) : Prop :=
  flag = true ∨ ∃ mode, env Settings.modeVariable = some mode ∧
    Text.lowerAscii (Text.trim mode) = "dry-run"

theorem dryRunAsked_iff {env : Variables} {flag : Bool} :
    DryRunAsked env flag ↔ (flag || Settings.dryRunRequested env.trimmed) = true := by
  rw [Bool.or_eq_true, DryRunAsked, Settings.dryRunRequested, Variables.trimmed]
  refine or_congr_right ?_
  cases env Settings.modeVariable with
  | none => exact iff_of_false (fun ⟨_, h, _⟩ => nomatch h) nofun
  | some mode =>
    rw [Option.map_some, Text.nonempty]
    by_cases hblank : Text.trim mode = ""
    · rw [hblank]
      refine iff_of_false ?_ (by decide)
      rintro ⟨_, hmode, hdry⟩
      rw [← Option.some.inj hmode, hblank] at hdry
      exact absurd hdry (by decide)
    · rw [Option.filter_some, if_pos (decide_eq_true hblank)]
      dsimp only
      rw [decide_eq_true_eq]
      exact ⟨fun ⟨_, hmode, hdry⟩ => Option.some.inj hmode ▸ hdry, fun hdry => ⟨mode, rfl, hdry⟩⟩

variable {m : Type → Type}

/-- A system whose exchanges are put down. -/
def System.logged [Monad m] (sys : System m) : System (Logged Exchange m) where
  env := sys.env
  source file := StateT.lift (sys.source file)
  send := sys.send.logged
  query server name type := StateT.lift (sys.query server name type)
  pause n := StateT.lift (sys.pause n)

variable {sys : System m} {file : String} {flag : Bool} {s : DesiredState} {config : SyncConfig}
  {client : Cloudflare.Client}

/-- The client for a run is one for dry runs exactly if a dry run is asked for. -/
theorem dryRun_of_prepare (h : prepare sys file s flag = .ok (config, client)) :
    client.dryRun = config.dryRun ∧ (config.dryRun = true ↔ DryRunAsked sys.env flag) := by
  obtain ⟨config', hconfig, h⟩ := bind_eq_ok_iff.mp h
  obtain ⟨client', hclient, h⟩ := bind_eq_ok_iff.mp h
  obtain ⟨rfl, rfl⟩ := Prod.mk.inj (Except.ok.inj h)
  refine ⟨Client.dryRun_of_create (eq_ok_of_mapError_eq_ok hclient), ?_⟩
  rw [dryRunAsked_iff, Settings.dryRun_of_sync hconfig]

/-- What a run comes to, given what came of the plan. -/
def syncOutcome (dryRun : Bool) : Except Error (Plan × ApplyReport) → Outcome
  | .ok (plan, report) => .ofCheck report.isSuccess (plan.render ++ report.render dryRun)
  | .error e => .aborted (listingError e)

/-- A run that fails ends with an error, whatever would have followed. -/
theorem ofExcept_bind [Monad m] [LawfulMonad m] {α : Type} (x : ExceptT String m α)
    (f : α → ExceptT String m Outcome) :
    Outcome.ofExcept <$> (x >>= f).run = x.run >>= fun
      | .ok a => Outcome.ofExcept <$> (f a).run
      | .error message => pure (.aborted message) := by
  rw [ExceptT.run_bind, map_bind]
  refine bind_congr fun result => ?_
  cases result with
  | ok a => rfl
  | error message => exact map_pure ..

/-- A run is one of the client, once there is a client. -/
theorem runSync_eq [Monad m] [LawfulMonad m] (sys : System m) (file : String) (s : DesiredState)
    (flag : Bool) : Outcome.ofExcept <$> runSync sys file s flag =
      match prepare sys file s flag with
      | .error message => pure (.aborted message)
      | .ok (config, client) =>
        (fun p => syncOutcome config.dryRun p.1) <$>
          ((client.provider sys.send).sync s).run {} := by
  unfold runSync
  rw [ofExcept_bind]
  show pure (prepare sys file s flag) >>= _ = _
  rw [pure_bind]
  cases prepare sys file s flag with
  | error message => rfl
  | ok p =>
    obtain ⟨config, client⟩ := p
    dsimp only
    rw [ofExcept_bind, ExceptT.run_mk, bind_assoc, ← bind_pure_comp]
    refine bind_congr fun p => ?_
    rw [pure_bind]
    rcases p with ⟨_ | ⟨plan, report⟩, session⟩
    · rfl
    · exact map_pure ..

/-- Whether the document of a file is loaded, and a client is made for it. -/
structure Prepares (sys : System m) (file : String) (flag : Bool)
    (source : Except FileError String) (s : DesiredState) (client : Cloudflare.Client) : Prop where
  loaded : ∃ document, Document.ofSource source = .ok document ∧ document.load = .ok s
  prepared : ∃ config, prepare sys file s flag = .ok (config, client)

/-- How a run ends for the text of its file, and with which exchanges. -/
inductive SyncRun (sys : System m) (file : String) (flag : Bool)
    (source : Except FileError String) : Outcome → List Exchange → Prop where
  | unreadable {e : Error} :
    Document.ofSource source = .error e →
      SyncRun sys file flag source (.aborted ("cannot load " ++ file ++ ": " ++ e.chain)) []
  | invalid {document : Document} {report : Report} :
    Document.ofSource source = .ok document → document.load = .error report →
      SyncRun sys file flag source (.finished .failure report.render) []
  | unprepared {document : Document} {s : DesiredState} {message : String} :
    Document.ofSource source = .ok document → document.load = .ok s →
      prepare sys file s flag = .error message →
      SyncRun sys file flag source (.aborted message) []
  | unlisted {s : DesiredState} {client : Cloudflare.Client} {e : Error} {session : Session}
    {es : List Exchange} :
    Prepares sys file flag source s client → client.ListedBy {} (.error e, session) es →
      SyncRun sys file flag source (.aborted (listingError e)) es
  /-- In a dry run the listing is all that is asked for. -/
  | rehearsed {s : DesiredState} {client : Cloudflare.Client} {live : List LiveRecord}
    {session : Session} {es : List Exchange} {report : ApplyReport} :
    Prepares sys file flag source s client → DryRunAsked sys.env flag →
      client.ListedBy {} (.ok live, session) es → (s.plan live).Rehearsed report →
      SyncRun sys file flag source
        (.finished .success ((s.plan live).render ++ report.render true)) es
  | carriedOut {s : DesiredState} {client : Cloudflare.Client} {live : List LiveRecord}
    {session : Session} {listing later : List Exchange} {zone : String} {report : ApplyReport} :
    Prepares sys file flag source s client → ¬ DryRunAsked sys.env flag →
      client.ListedBy {} (.ok live, session) listing → client.Knows zone session →
      client.Sends zone (s.plan live) later → (s.plan live).ReportedBy report →
      SyncRun sys file flag source
        (.ofCheck report.isSuccess ((s.plan live).render ++ report.render false))
        (listing ++ later)

/-- A dry run only reads. -/
theorem SyncRun.method_eq_get {source : Except FileError String} {outcome : Outcome}
    {es : List Exchange} (h : SyncRun sys file flag source outcome es)
    (hdry : DryRunAsked sys.env flag) : ∀ x ∈ es, x.request.method = .get := by
  cases h with
  | unreadable => exact List.forall_mem_nil _
  | invalid => exact List.forall_mem_nil _
  | unprepared => exact List.forall_mem_nil _
  | unlisted _ hlisted => exact hlisted.method_eq_get
  | rehearsed _ _ hlisted => exact hlisted.method_eq_get
  | carriedOut _ hlive => exact absurd hdry hlive

/-- Once there is a client, the run ends as that of the client. -/
theorem Prepares.syncRun {source : Except FileError String}
    (h : Prepares sys file flag source s client) {dryRun : Bool} (hclient : client.dryRun = dryRun)
    (hasked : dryRun = true ↔ DryRunAsked sys.env flag)
    {result : Except Error (Plan × ApplyReport)} {es : List Exchange}
    (hsynced : client.SyncedBy s result es) :
    SyncRun sys file flag source (syncOutcome dryRun result) es := by
  cases hsynced with
  | unlisted hlisted => exact .unlisted h hlisted
  | rehearsed hdry hlisted hrehearsed =>
    rw [hclient] at hdry
    rw [syncOutcome, hdry, hrehearsed.isSuccess]
    exact .rehearsed h (hasked.mp hdry) hlisted hrehearsed
  | carriedOut hlive hlisted hknows hsends hreported =>
    rw [hclient] at hlive
    rw [syncOutcome, hlive]
    refine .carriedOut h (fun hdry => ?_) hlisted hknows hsends hreported
    exact nomatch hlive.symm.trans (hasked.mpr hdry)

/-- **A dry run is safe, and any other run asks for exactly what it plans.** Once the file is read,
    a run ends in one of the ways of `SyncRun`, whatever is in the file and whatever the server
    says. If a dry run is asked for, all requests only read. -/
theorem sync_exact [Monad m] [LawfulMonad m] (sys : System m) (file level : String)
    (flag : Bool) :
    ∃ rest, run sys.logged ⟨file, level, .sync flag⟩ = StateT.lift (sys.source file) >>= rest ∧
      ∀ source, Logs (fun outcome es => SyncRun sys file flag source outcome es ∧
        (DryRunAsked sys.env flag → ∀ x ∈ es, x.request.method = .get)) (rest source) := by
  refine ⟨_, rfl, fun source => ?_⟩
  refine Logs.imp (P := SyncRun sys file flag source)
    (fun outcome es h => ⟨h, h.method_eq_get⟩) ?_
  dsimp only
  cases hsource : Document.ofSource source with
  | error e => exact Logs.pure_of (.unreadable hsource)
  | ok document =>
    dsimp only
    unfold runOn
    cases hload : document.load with
    | error report => exact Logs.pure_of (.invalid hsource hload)
    | ok s =>
      show Logs _ (runSync sys.logged file s flag >>= fun r => pure (Outcome.ofExcept r))
      have hprepares : prepare sys.logged file s flag = prepare sys file s flag := rfl
      rw [bind_pure_comp, runSync_eq, hprepares]
      cases hprepare : prepare sys file s flag with
      | error message => exact Logs.pure_of (.unprepared hsource hload hprepare)
      | ok p =>
        obtain ⟨config, client⟩ := p
        obtain ⟨hdryRun, hasked⟩ := dryRun_of_prepare hprepare
        have hprepared : Prepares sys file flag source s client :=
          ⟨⟨document, hsource, hload⟩, config, hprepare⟩
        refine Logs.map ((client.logs_sync sys.send s).imp fun p es hsynced => ?_)
        exact hprepared.syncRun hdryRun hasked hsynced

/-! ### A preview of two changes, and the run itself -/

/-- A document with one address. -/
def previewText : String :=
  "domain: example.com\nfrontend: [\x7bname: www, type: A, content: 192.0.2.9\x7d]\n"

/-- The answer with another address. -/
def previewReply : Http.Response where
  status := .ok
  body := "\x7b\x22success\x22:true,\x22result\x22:[\x7b\x22id\x22:\x22a\x22,\x22name\x22:" ++
    "\x22old.example.com\x22,\x22type\x22:\x22A\x22,\x22content\x22:\x22192.0.2.1\x22\x7d]\x7d"

/-- The answers of a server that adds a record, but refuses to remove one. -/
def deskReplies : List Http.Response :=
  [previewReply,
    { status := .ok
      body := "\x7b\x22success\x22:true,\x22result\x22:\x7b\x22id\x22:\x22b\x22\x7d\x7d" },
    { status := ⟨409⟩, body := "" }]

/-- Variables that ask for a dry run. -/
def previewVariables : Variables :=
  ([(Settings.tokenVariable, "secret"), (Settings.zoneVariable, "z1"),
    (Settings.baseVariable, "http://localhost"), (Settings.modeVariable, " Dry-Run ")].lookup ·)

/-- The variables of the preview, but for the mode. -/
def deskVariables : Variables := fun name =>
  if name = Settings.modeVariable then none else previewVariables name

/-- A system with this document, and with a server that answers from a script. -/
def previewSystem (env : Variables) : System (StateM (List Http.Response)) where
  env
  source _ := pure (.ok previewText)
  send := scripted
  query _ _ _ := pure (.error .noConnections)
  pause _ := pure ()

/-- A run on this system without the flag, with its exchanges. -/
def previewRun (env : Variables) (replies : List Http.Response) : Outcome × List Exchange :=
  (((run (previewSystem env).logged ⟨defaultRecordsFile, "info", .sync false⟩).run []).run
    replies).1

/-- One address is to be created, and the other one deleted. In the preview all that is sent is the
    request for the listing; without the mode both changes are asked for, and one is refused. -/
theorem sync_exact_preview :
    (SyncRun (previewSystem previewVariables) defaultRecordsFile false (.ok previewText)
        (previewRun previewVariables [previewReply]).1
        (previewRun previewVariables [previewReply]).2 ∧
      (previewRun previewVariables [previewReply]).1.status = .success ∧
      (previewRun previewVariables [previewReply]).2.map (·.request.method) = [.get]) ∧
    (¬ DryRunAsked deskVariables false ∧
      SyncRun (previewSystem deskVariables) defaultRecordsFile false (.ok previewText)
        (previewRun deskVariables deskReplies).1 (previewRun deskVariables deskReplies).2 ∧
      (previewRun deskVariables deskReplies).1.status = .failure ∧
      (previewRun deskVariables deskReplies).2.map (·.request.method) =
        [.get, .post, .delete]) := by
  have hruns : ∀ env replies,
      SyncRun (previewSystem env) defaultRecordsFile false (.ok previewText)
        (previewRun env replies).1 (previewRun env replies).2 ∧
      (DryRunAsked env false → ∀ x ∈ (previewRun env replies).2, x.request.method = .get) := by
    intro env replies
    obtain ⟨rest, hrun, hrest⟩ := sync_exact (previewSystem env) defaultRecordsFile "info" false
    have hsame : previewRun env replies = (((rest (.ok previewText)).run []).run replies).1 := by
      rw [previewRun, hrun]
      rfl
    obtain ⟨es, hes, hsync⟩ := always_iff_forall.mp (hrest (.ok previewText) []) replies
    have hexchanges : (previewRun env replies).2 = es := by
      rw [hsame]
      exact hes
    rwa [← hsame, ← hexchanges] at hsync
  have hasked : DryRunAsked previewVariables false := .inr ⟨" Dry-Run ", rfl, by decide⟩
  have hlive : ¬ DryRunAsked deskVariables false := by
    rintro (hflag | ⟨mode, hmode, -⟩)
    · exact nomatch hflag
    · exact nomatch hmode
  have hpreview : (previewRun previewVariables [previewReply]).1.status = .success ∧
      (previewRun previewVariables [previewReply]).2.length = 1 := by decide +kernel
  have hdesk : (previewRun deskVariables deskReplies).1.status = .failure ∧
      (previewRun deskVariables deskReplies).2.map (·.request.method) = [.get, .post, .delete] := by
    decide +kernel
  obtain ⟨hsync, hget⟩ := hruns previewVariables [previewReply]
  refine ⟨⟨hsync, hpreview.1, ?_⟩, hlive, (hruns deskVariables deskReplies).1, hdesk⟩
  obtain ⟨x, hx⟩ := List.length_eq_one_iff.mp hpreview.2
  rw [hx] at hget ⊢
  exact congrArg (fun method => [method]) (hget hasked x List.mem_cons_self)

end Cli

end ZoneSync
