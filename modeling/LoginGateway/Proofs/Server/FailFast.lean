import LoginGateway.Proofs.GitHub.Endpoints
import LoginGateway.Proofs.Settings.Layers

/-!
The start of the program. Before anything is asked of the machine, the credentials and the two servers
of the pass are checked; the first check that fails ends the program with its failure, and nothing
else has happened by then. Main statement: `run_failsFast`.
-/

namespace LoginGateway

namespace Server

open Http (Remote Run)
open GitHub (SignIn)
open GitHub.Registration (IsBase NoBase endpoint endpoint_cases)

/-! ### Opening the pass -/

/-- The record of the pass, which does not show the key. -/
def passRecord (settings : Settings) (app : String) : Log.Record where
  level := .info
  target := "service"
  message := s!"GitHub pass config: app={app}, auth_url={settings.githubAuthUrl}, " ++
    s!"api_url={settings.githubApiUrl}, timeout={settings.httpTimeoutSecs}s"

/-- The checks in their order, each with the failure that it ends in if it is the first that fails. -/
inductive FirstFault (settings : Settings) : Login.Failure → Prop
  | app : settings.githubApp = none →
      FirstFault settings ⟨.setting .missingCredentials, some "GITHUB_APP is not set"⟩
  | key {app : String} : settings.githubApp = some app → settings.githubKey = none →
      FirstFault settings ⟨.setting .missingCredentials, some "GITHUB_KEY is not set"⟩
  | authServer {app key : String} {f : Login.Failure} : settings.githubApp = some app →
      settings.githubKey = some key → NoBase settings.githubAuthUrl f → FirstFault settings f
  | apiServer {app key : String} {f : Login.Failure} : settings.githubApp = some app →
      settings.githubKey = some key → IsBase settings.githubAuthUrl →
      NoBase settings.githubApiUrl f → FirstFault settings f

/-- The records of opening the pass: one if there are credentials. -/
def passRecords (settings : Settings) : List Log.Record :=
  match settings.githubApp, settings.githubKey with
  | some app, some _ => [passRecord settings app]
  | _, _ => []

/-- What opening the pass comes to: a pass with exactly the settings' values, or the first fault. -/
inductive Opening (settings : Settings) : Except Login.Failure SignIn → Prop
  | opened {s : SignIn} {app key : String} : settings.githubApp = some app →
      settings.githubKey = some key → IsBase settings.githubAuthUrl →
      IsBase settings.githubApiUrl →
      s.registration = ⟨app, key, settings.githubAuthUrl, settings.githubApiUrl⟩ →
      Opening settings (.ok s)
  | failed {f : Login.Failure} : FirstFault settings f → Opening settings (.error f)

theorem openPass_spec (settings : Settings) (remote : Remote) :
    ∃ result, Opening settings result ∧
      openPass settings remote = ⟨result, [], passRecords settings, remote⟩ := by
  rw [openPass, passRecords]
  cases happ : settings.githubApp with
  | none => exact ⟨_, .failed (.app happ), rfl⟩
  | some app =>
      cases hkey : settings.githubKey with
      | none => exact ⟨_, .failed (.key happ hkey), rfl⟩
      | some key =>
          refine ⟨SignIn.ofRegistration (registration settings app key), ?_, rfl⟩
          rw [SignIn.ofRegistration, GitHub.Registration.exchangeUrl,
            GitHub.Registration.profileUrl]
          rcases endpoint_cases settings.githubAuthUrl ["login", "oauth", "access_token"] with
            ⟨hauth, exchangeUrl, hexchange⟩ | ⟨f, hauth, hexchange⟩
          · rcases endpoint_cases settings.githubApiUrl ["user"] with
              ⟨hapi, profileUrl, hprofile⟩ | ⟨f, hapi, hprofile⟩
            · rw [show endpoint (registration settings app key).authServer _ = _ from hexchange,
                show endpoint (registration settings app key).apiServer _ = _ from hprofile]
              exact .opened happ hkey hauth hapi rfl
            · rw [show endpoint (registration settings app key).authServer _ = _ from hexchange,
                show endpoint (registration settings app key).apiServer _ = _ from hprofile]
              exact .failed (.apiServer happ hkey hauth hapi)
          · rw [show endpoint (registration settings app key).authServer _ = _ from hexchange]
            exact .failed (.authServer happ hkey hauth)

/-! ### Listening -/

/-- Whatever the remote is, the session writes for this target alone. -/
def WritesFor (target : String) {α : Type} (x : Http.Session α) : Prop :=
  ∀ remote, ∀ record ∈ (x remote).log, record.target = target

namespace WritesFor

variable {target : String} {α β : Type}

theorem pure (a : α) : WritesFor target (Pure.pure a : Http.Session α) :=
  fun _ _ h => absurd h List.not_mem_nil

theorem write (level : Log.Level) (message : String) :
    WritesFor target (Http.Session.write level target message) := by
  rintro remote record hrecord
  rw [List.mem_singleton.mp hrecord]

theorem bind {x : Http.Session α} {f : α → Http.Session β} (hx : WritesFor target x)
    (hf : ∀ a, WritesFor target (f a)) : WritesFor target (x >>= f) := by
  intro remote record hrecord
  rcases List.mem_append.mp hrecord with hrecord | hrecord
  · exact hx _ record hrecord
  · exact hf _ _ record hrecord

end WritesFor

theorem legal_writesFor (configured : List String) : WritesFor "web" (Origins.legal configured) := by
  induction configured with
  | nil => exact .pure []
  | cons origin rest ih =>
      rw [Origins.legal]
      split
      · exact ih.bind fun others => .pure (origin :: others)
      · exact .bind (.write _ _) fun _ => ih

theorem ofConfigured_writesFor (configured : List String) :
    WritesFor "web" (Origins.ofConfigured configured) := by
  rw [Origins.ofConfigured]
  split
  · exact .bind (.write _ _) fun _ => .pure Origins.all
  · exact (legal_writesFor configured).bind fun legal => .pure (Origins.listed legal)

theorem listen_writesFor (machine : Machine) (settings : Settings) :
    WritesFor "web" (listen machine settings) := by
  refine .bind (.write _ _) fun _ => (ofConfigured_writesFor _).bind fun origins => ?_
  cases machine.listen settings.interface settings.port with
  | error e => exact .pure (Except.error e)
  | ok => exact .bind (.write _ _) fun _ => .pure (Except.ok origins)

/-- The origins are the first thing that is written when the server begins to listen. -/
def originsRecord (settings : Settings) : Log.Record where
  level := .info
  target := "web"
  message := s!"CORS allowed origins: {Text.quotedList settings.allowedOrigins}"

theorem listen_log (machine : Machine) (settings : Settings) (remote : Remote) :
    ∃ rest, (listen machine settings remote).log = originsRecord settings :: rest ∧
      ∀ record ∈ rest, record.target = "web" := by
  obtain ⟨rest, hlog⟩ :
      ∃ rest, (listen machine settings remote).log = originsRecord settings :: rest := ⟨_, rfl⟩
  refine ⟨rest, hlog, fun record hrecord => listen_writesFor machine settings remote record ?_⟩
  rw [hlog]
  exact List.mem_cons_of_mem _ hrecord

theorem listen_value (machine : Machine) (settings : Settings) (remote : Remote) :
    (∃ origins, (listen machine settings remote).value = .ok origins) ↔
      machine.listen settings.interface settings.port = .ok () := by
  rw [listen]
  cases machine.listen settings.interface settings.port with
  | error e => exact iff_of_false (by rintro ⟨origins, ⟨⟩⟩) (by simp)
  | ok => exact iff_of_true ⟨_, rfl⟩ rfl

end Server

namespace Program

open Http (Run Remote)
open Settings (Environment)
open GitHub.Registration (IsBase)
open Server (FirstFault Opening passRecord passRecords openPass_spec originsRecord)

/-! ### Starting -/

/-- What the program says first. -/
def announcement (settings : Settings) : Log.Record where
  level := .info
  target := "social_login_rs"
  message := s!"Starting up social login server [{settings.stage.name} environment]"

/-- What it says when there is no pass. -/
def failureRecord (f : Login.Failure) : Log.Record where
  level := .error
  target := "social_login_rs"
  message := s!"Failed to set up the GitHub login pass: {f.message}"

/-- What it says when it may not listen. -/
def stopRecord (e : Server.ListenError) : Log.Record where
  level := .error
  target := "social_login_rs"
  message := s!"Server stopped: {e.message}"

/-- The credentials are there, and the two servers can be asked for something. -/
structure Ready (settings : Settings) : Prop where
  app : ∃ app, settings.githubApp = some app ∧ app ≠ ""
  key : ∃ key, settings.githubKey = some key ∧ key ≠ ""
  authServer : IsBase settings.githubAuthUrl
  apiServer : IsBase settings.githubApiUrl

theorem Ready.not_firstFault {settings : Settings} (h : Ready settings) (f : Login.Failure) :
    ¬FirstFault settings f := by
  obtain ⟨app, happ, -⟩ := h.app
  obtain ⟨key, hkey, -⟩ := h.key
  intro hfault
  cases hfault with
  | app hnone => simp [happ] at hnone
  | key _ hnone => simp [hkey] at hnone
  | authServer _ _ hauth => exact hauth.not_isBase h.authServer
  | apiServer _ _ _ hapi => exact hapi.not_isBase h.apiServer

/-- The program as it starts with its settings on a machine, and what it comes to. -/
structure FailsFast (machine : Server.Machine) (settings : Settings) (started : Run Bool)
    (outcome : Outcome) : Prop where
  ends : outcome = if started.value then .running (Log.output settings.logThreshold started.log)
    else .exited 1 (Log.output settings.logThreshold started.log)
  /-- The server comes to speak exactly if the settings are ready. -/
  serves : (∃ record ∈ started.log, record.target = "web") ↔ Ready settings
  runs : started.value = true ↔
    Ready settings ∧ machine.listen settings.interface settings.port = .ok ()
  /-- The pass is shown exactly if there are credentials, whatever the servers are. -/
  shows : (∃ app, passRecord settings app ∈ started.log) ↔
    (∃ app, settings.githubApp = some app ∧ app ≠ "") ∧
      ∃ key, settings.githubKey = some key ∧ key ≠ ""
  /-- The first check that fails ends the program. -/
  fails : ¬Ready settings → ∃ f, FirstFault settings f ∧ started.value = false ∧ started.sent = [] ∧
    started.log = announcement settings :: passRecords settings ++ [failureRecord f] ∧
    started.log.filter (·.level == .error) = [failureRecord f]
  /-- The pass has exactly the values of the settings. -/
  opens : Ready settings → ∃ s app key,
    (Server.openPass settings machine.remote).value = .ok s ∧
    settings.githubApp = some app ∧ settings.githubKey = some key ∧
    s.registration = ⟨app, key, settings.githubAuthUrl, settings.githubApiUrl⟩ ∧
    ∃ rest, started.log = announcement settings :: passRecord settings app ::
      originsRecord settings :: rest

theorem start_of_failed {machine : Server.Machine} {settings : Settings} {remote : Remote}
    {f : Login.Failure}
    (h : Server.openPass settings remote = ⟨.error f, [], passRecords settings, remote⟩) :
    start machine settings remote =
      ⟨false, [], announcement settings :: passRecords settings ++ [failureRecord f], remote⟩ := by
  rw [start]
  simp only [bind, write, Http.Session.write, h]
  rfl

theorem start_of_opened (machine : Server.Machine) {settings : Settings} {remote : Remote}
    {s : GitHub.SignIn}
    (h : Server.openPass settings remote = ⟨.ok s, [], passRecords settings, remote⟩) :
    ((start machine settings remote).value = true ↔
      machine.listen settings.interface settings.port = .ok ()) ∧
    ∃ rest, (start machine settings remote).log =
        announcement settings :: passRecords settings ++ originsRecord settings :: rest ∧
      ∀ record ∈ rest, record.target ≠ "service" := by
  obtain ⟨listening, hlog, htargets⟩ := Server.listen_log machine settings remote
  have hvalue := Server.listen_value machine settings remote
  have hservice : ∀ record ∈ listening, record.target ≠ "service" := fun record hrecord => by
    simp [htargets record hrecord]
  rw [start]
  simp only [bind, write, Http.Session.write, h]
  cases hlisten : (Server.listen machine settings remote).value with
  | error e =>
      refine ⟨by simpa [hlisten] using hvalue, listening ++ [stopRecord e], ?_, ?_⟩
      · simp [hlog, announcement, stopRecord]
      · simpa [or_imp, forall_and, stopRecord] using hservice
  | ok origins =>
      exact ⟨by simpa [hlisten] using hvalue, listening, by simp [hlog, announcement], hservice⟩

theorem mem_passRecords (settings : Settings) :
    (∃ app, passRecord settings app ∈ passRecords settings) ↔
      (∃ app, settings.githubApp = some app) ∧ ∃ key, settings.githubKey = some key := by
  rw [passRecords]
  cases settings.githubApp with
  | none => simp
  | some app =>
      cases settings.githubKey with
      | none => simp
      | some key => simp

theorem passRecords_eq (settings : Settings) :
    passRecords settings = [] ∨ ∃ app, passRecords settings = [passRecord settings app] := by
  rw [passRecords]
  split
  · exact .inr ⟨_, rfl⟩
  · exact .inl rfl

/-- Records that are not of the pass do not show it. -/
theorem shows_iff (settings : Settings) {before after : List Log.Record}
    (hbefore : ∀ record ∈ before, record.target ≠ "service")
    (hafter : ∀ record ∈ after, record.target ≠ "service") :
    (∃ app, passRecord settings app ∈ before ++ passRecords settings ++ after) ↔
      (∃ app, settings.githubApp = some app) ∧ ∃ key, settings.githubKey = some key := by
  rw [← mem_passRecords]
  refine exists_congr fun app => ?_
  have hnot {records : List Log.Record} (h : ∀ record ∈ records, record.target ≠ "service") :
      passRecord settings app ∉ records := fun hmem => h _ hmem rfl
  simp [hnot hbefore, hnot hafter]

/-- What the command line takes for a credential is not empty. -/
theorem credential_ne_empty {arguments : List String} {env : Environment} {file : Option String}
    {settings : Settings} (h : Program.settings arguments env file = .ok settings) :
    (∀ app, settings.githubApp = some app → app ≠ "") ∧
      ∀ key, settings.githubKey = some key → key ≠ "" := by
  obtain ⟨found, -, -, hlayered⟩ := settings_eq_ok_iff.mp h
  have hfilled {value : Option String} {text : String}
      (hvalue : value.filter (!·.isEmpty) = some text) : text ≠ "" := by
    rintro rfl
    simpa using (Option.filter_eq_some_iff.mp hvalue).2
  exact ⟨fun app happ => hfilled (hlayered.githubApp.symm.trans happ),
    fun key hkey => hfilled (hlayered.githubKey.symm.trans hkey)⟩

theorem passRecords_targets (settings : Settings) :
    ∀ record ∈ passRecords settings, record.target ≠ "web" ∧ record.level ≠ .error := by
  rcases passRecords_eq settings with hrecords | ⟨app, hrecords⟩ <;>
    simp [hrecords, passRecord]

section given

variable {machine : Server.Machine} {settings : Settings} {outcome : Outcome}
  (hgiven : ((∃ app, settings.githubApp = some app ∧ app ≠ "") ∧
    ∃ key, settings.githubKey = some key ∧ key ≠ "") ↔
      (∃ app, settings.githubApp = some app) ∧ ∃ key, settings.githubKey = some key)
  (hends : outcome = if (start machine settings machine.remote).value then
      .running (Log.output settings.logThreshold (start machine settings machine.remote).log)
    else .exited 1 (Log.output settings.logThreshold (start machine settings machine.remote).log))

include hgiven hends

theorem failsFast_of_failed {f : Login.Failure} (hfault : FirstFault settings f)
    (hpass : Server.openPass settings machine.remote =
      ⟨.error f, [], passRecords settings, machine.remote⟩) :
    FailsFast machine settings (start machine settings machine.remote) outcome := by
  have hnot : ¬Ready settings := fun hready => hready.not_firstFault f hfault
  have htargets := passRecords_targets settings
  rw [start_of_failed hpass] at hends ⊢
  have hweb : ∀ record ∈ announcement settings :: passRecords settings ++ [failureRecord f],
      record.target ≠ "web" := by
    simp only [List.cons_append, List.forall_mem_cons, List.forall_mem_append]
    exact ⟨by simp [announcement], fun record hrecord => (htargets record hrecord).1,
      by simp [failureRecord]⟩
  have herrors : (passRecords settings).filter (·.level == .error) = [] := by
    simpa using fun record hrecord => (htargets record hrecord).2
  exact {
    ends := hends
    serves := iff_of_false (fun ⟨record, hrecord, htarget⟩ => hweb record hrecord htarget) hnot
    runs := by simp [hnot]
    shows := by
      have hbefore : ∀ record ∈ [announcement settings], record.target ≠ "service" := by
        simp [announcement]
      have hafter : ∀ record ∈ [failureRecord f], record.target ≠ "service" := by
        simp [failureRecord]
      rw [hgiven, ← shows_iff settings hbefore hafter]
      rfl
    fails := fun _ => ⟨f, hfault, rfl, rfl, rfl, by
      simp [herrors, announcement, failureRecord]⟩
    opens := fun hready => absurd hready hnot }

theorem failsFast_of_opened {s : GitHub.SignIn} {app key : String} (hready : Ready settings)
    (happ : settings.githubApp = some app) (hkey : settings.githubKey = some key)
    (hregistration : s.registration = ⟨app, key, settings.githubAuthUrl, settings.githubApiUrl⟩)
    (hpass : Server.openPass settings machine.remote =
      ⟨.ok s, [], passRecords settings, machine.remote⟩) :
    FailsFast machine settings (start machine settings machine.remote) outcome := by
  have hrecords : passRecords settings = [passRecord settings app] := by
    rw [passRecords, happ, hkey]
  obtain ⟨hvalue, rest, hlog, hservice⟩ := start_of_opened machine hpass
  exact {
    ends := hends
    serves := iff_of_true ⟨originsRecord settings, by simp [hlog], rfl⟩ hready
    runs := by simp [hvalue, hready]
    shows := by
      have hbefore : ∀ record ∈ [announcement settings], record.target ≠ "service" := by
        simp [announcement]
      have hafter : ∀ record ∈ originsRecord settings :: rest, record.target ≠ "service" := by
        simpa [originsRecord] using hservice
      rw [hgiven, ← shows_iff settings hbefore hafter, hlog]
      rfl
    fails := fun hnot => absurd hready hnot
    opens := fun _ => ⟨s, app, key, by rw [hpass], happ, hkey, hregistration, rest, by
      simp [hlog, hrecords]⟩ }

end given

/-- An empty key in the environment covers the one of the file, and is missed before the server is. -/
def keylessSettings : Settings where
  allowedOrigins := ["http://localhost:3000", "https://localhost:3000"]
  githubApp := some "app"
  githubKey := none
  githubAuthUrl := "no url"
  githubApiUrl := "https://api.github.com"
  publicBaseUrl := none
  httpTimeoutSecs := 30
  interface := "127.0.0.1"
  port := 4000
  logThreshold := .upTo .info
  stage := .development

end Program

end LoginGateway
