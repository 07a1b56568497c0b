import LoginGateway.Proofs.Server.CallbackOutcome

/-!
What the log tells of a callback. Many records may be written on the way, but one of them, and only
one, gives the verdict: the address could not be told, there was no code, the login failed upstream,
or somebody was let in. Main statement: `answer_attested`.
-/

namespace LoginGateway.Server

open Http (Remote Run)
open GitHub (SignIn)

/-- How a callback ended, as a record has it. -/
inductive Verdict
  | unaddressed
  | codeless
  | failed
  | admitted (urn : String)
deriving DecidableEq, Repr

namespace Verdict

/-! ### Records with a verdict -/

/-- The verdict that a record gives, if it gives one. -/
def ofRecord? (r : Log.Record) : Option Verdict :=
  match r.level with
  | .warn =>
    if r.target = "web::extractors::callback_href" then some unaddressed
    else if r.target = "web::error" then
      (Text.behind? "Login failed upstream: " r.message.toList).map fun _ => failed
    else none
  | .info =>
    if r.target = "web::error" then
      (Text.behind? "Rejecting login callback: " r.message.toList).map fun _ => codeless
    else if "social_auth".toList <+: r.target.toList then
      (Text.behind? "GitHub login completed for " r.message.toList).map (admitted ∘ String.ofList)
    else none
  | _ => none

/-- The verdicts of the records, in their order. -/
def ofLog (log : List Log.Record) : List Verdict := log.filterMap ofRecord?

theorem ofLog_append (log more : List Log.Record) : ofLog (log ++ more) = ofLog log ++ ofLog more :=
  List.filterMap_append

theorem ofRecord?_failed (reason : String) :
    ofRecord? ⟨.warn, "web::error", "Login failed upstream: " ++ reason⟩ = some failed := by
  rw [ofRecord?]
  simp only [String.toList_append, Text.behind?_append]
  rfl

theorem ofRecord?_codeless (told : String) :
    ofRecord? ⟨.info, "web::error", "Rejecting login callback: " ++ told⟩ = some codeless := by
  rw [ofRecord?]
  simp only [String.toList_append, Text.behind?_append]
  rfl

theorem ofRecord?_admitted (urn : String) :
    ofRecord? ⟨.info, SignIn.logTarget, "GitHub login completed for " ++ urn⟩ =
      some (admitted urn) := by
  have hother : SignIn.logTarget ≠ "web::error" := by decide
  have hpart : "social_auth".toList <+: SignIn.logTarget.toList := by decide
  rw [ofRecord?]
  simp only [hother, hpart, if_true, if_false, String.toList_append, Text.behind?_append]
  exact congrArg (some ∘ admitted) String.ofList_toList

/-- What goes wrong on the way is no verdict. -/
theorem ofRecord?_of_login {record : Log.Record} (htarget : record.target = SignIn.logTarget)
    (hlevel : record.level ≠ .info) : ofRecord? record = none := by
  obtain ⟨level, target, message⟩ := record
  obtain rfl : target = SignIn.logTarget := htarget
  cases level with
  | info => exact absurd rfl hlevel
  | warn | error | debug | trace => rfl

theorem ofLog_of_login {log : List Log.Record}
    (h : ∀ record ∈ log, record.target = SignIn.logTarget ∧ record.level ≠ .info) :
    ofLog log = [] :=
  List.filterMap_eq_nil_iff.mpr fun record hrecord =>
    ofRecord?_of_login (h record hrecord).1 (h record hrecord).2

/-! ### The login -/

theorem ofLog_requestToken (s : SignIn) (callback : Url) (code : List Char) (remote : Remote) :
    ofLog (s.requestToken callback code remote).log = [] := by
  rw [SignIn.requestToken_log]
  refine ofLog_of_login fun record hrecord => ?_
  rcases List.mem_cons.mp hrecord with rfl | hrecord
  · exact ⟨rfl, nofun⟩
  · obtain ⟨hlevel, htarget⟩ := SignIn.tokenRecords_warn hrecord
    exact ⟨htarget, by simp [hlevel]⟩

theorem ofLog_readProfile (s : SignIn) (token : GitHub.AccessToken) (remote : Remote) :
    ofLog (s.readProfile token remote).log = [] := by
  rw [SignIn.readProfile_log]
  refine ofLog_of_login fun record hrecord => ?_
  obtain ⟨hlevel, htarget⟩ := SignIn.profileRecords_warn hrecord
  exact ⟨htarget, by simp [hlevel]⟩

/-- Only a login that comes to its end gives a verdict. -/
def ofSuccess : Except Login.Failure Login.Identity → List Verdict
  | .ok identity => [admitted identity.urn]
  | .error _ => []

theorem ofLog_finish (s : SignIn) (token : GitHub.AccessToken) (remote : Remote) :
    ofLog (s.finish (.ok token) remote).log =
      ofSuccess (s.finish (.ok token) remote).value := by
  rw [SignIn.finish_value, SignIn.finish, Http.Session.log_bind, ofLog_append, ofLog_readProfile]
  cases (s.readProfile token remote).value with
  | error f => rfl
  | ok identity =>
      exact List.filterMap_cons_some (ofRecord?_admitted identity.urn)

theorem ofLog_enter (s : SignIn) (callback : Url) (remote : Remote) :
    ofLog (s.enter callback remote).log = ofSuccess (s.enter callback remote).value := by
  cases hcode : SignIn.code? callback with
  | none =>
      rw [SignIn.enter, hcode]
      rfl
  | some code =>
      rw [SignIn.enter_eq hcode, Http.Session.log_bind, Http.Session.value_bind, ofLog_append,
        ofLog_requestToken, List.nil_append]
      cases (s.requestToken callback code remote).value with
      | error f => rfl
      | ok token => exact ofLog_finish s token _

/-! ### The answer -/

/-- The verdict on what a login came to. -/
def ofLogin : Except Login.Failure Login.Identity → Verdict
  | .ok identity => admitted identity.urn
  | .error f => if f.kind.isUpstream then failed else codeless

/-- A failure is told once, unless it lies in the settings. -/
theorem ofLog_respond {f : Login.Failure} (hsettings : ∀ fault, f.kind ≠ .setting fault)
    (remote : Remote) :
    ofLog ((Refusal.failure f).respond remote).log = [ofLogin (.error f)] := by
  rw [Refusal.respond, Refusal.respondFailure, ofLogin]
  rcases hkind : f.kind with fault | fault | fault
  · cases fault with
    | missingCode => exact List.filterMap_cons_some (ofRecord?_codeless _)
    | answer | malformedProfile => exact List.filterMap_cons_some (ofRecord?_failed _)
  · exact List.filterMap_cons_some (ofRecord?_failed _)
  · exact absurd hkind (hsettings fault)

end Verdict

namespace Callback

/-- A login never ends because of the settings. -/
theorem not_setting_of_enter {s : SignIn} {href : Url} {remote : Remote} {f : Login.Failure}
    (h : (s.enter href remote).value = .error f) (fault : Login.SettingFault) :
    f.kind ≠ .setting fault := by
  intro hkind
  cases hcode : SignIn.code? href with
  | none =>
      rw [SignIn.enter, hcode] at h
      cases h
      cases hkind
  | some code =>
      have hupstream := SignIn.isUpstream_of_enter hcode h
      rw [hkind] at hupstream
      cases hupstream

section callback

variable {settings : Settings} {r : Request} {href : Url} {s : SignIn} {remote : Remote}

/-- The verdict that is due: on the address, and behind it on the login. -/
def due (settings : Settings) (r : Request) (s : SignIn) (remote : Remote) : Verdict :=
  match href? settings r with
  | none => .unaddressed
  | some href => .ofLogin (s.enter href remote).value

theorem due_of_href (hhref : href? settings r = some href) :
    due settings r s remote = .ofLogin (s.enter href remote).value := by
  rw [due, hhref]

/-- What the pass comes to is what the login comes to. -/
theorem enter_of_pass {result : Except Login.Failure Login.Identity}
    (h : (s.pass.enter href remote).value = result.map some) :
    (s.enter href remote).value = result := by
  change (s.enter href remote).value.map some = result.map some at h
  cases hlogin : (s.enter href remote).value with
  | error f =>
      rw [hlogin] at h
      cases result <;> cases h
      rfl
  | ok identity =>
      rw [hlogin] at h
      cases result <;> cases h
      rfl

theorem ofLog_of_refuses (s : SignIn) (remote : Remote) (hhref : href? settings r = none)
    (h : Refuses settings r) :
    Verdict.ofLog (Router.answer ⟨settings, s.pass⟩ r remote).log = [due settings r s remote] := by
  obtain ⟨message, hrefuses⟩ := h
  rw [hrefuses s.pass, due, hhref]
  rfl

theorem ofLog_of_shows (s : SignIn) (remote : Remote) (hhref : href? settings r = some href)
    (h : Shows settings r href) :
    Verdict.ofLog (Router.answer ⟨settings, s.pass⟩ r remote).log = [due settings r s remote] := by
  have hvalue : (s.pass.enter href remote).value = (s.enter href remote).value.map some := rfl
  have hlog : (s.pass.enter href remote).log = (s.enter href remote).log := List.append_nil _
  rw [answer_apply h, due_of_href hhref]
  change Verdict.ofLog ([_] ++ (_ ++ _)) = _
  rw [Verdict.ofLog_append, Verdict.ofLog_append, hlog, hvalue, Verdict.ofLog_enter]
  cases hresult : (s.enter href remote).value with
  | error f => exact Verdict.ofLog_respond (not_setting_of_enter hresult) _
  | ok identity => rfl

/-- The document is about the user of this name. -/
def Names (urn : String) (document : String) : Prop :=
  ∃ properties, Json.parse? document.toList =
    some (.object [("urn".toList, .string urn.toList), ("properties".toList, properties)])

theorem names_of_shows (h : Shows settings r href) {identity : Login.Identity}
    (hidentity : (s.pass.enter href remote).value = .ok (some identity)) :
    Names identity.urn (Router.answer ⟨settings, s.pass⟩ r remote).value.body := by
  rw [answer_apply h]
  simp only [hidentity]
  exact ⟨_, (presents_welcome s.pass identity _).body⟩

/-- The log gives one verdict, and it is that of the response. -/
structure Attests (settings : Settings) (r : Request) (run : Run Response) (verdict : Verdict) :
    Prop where
  only : Verdict.ofLog run.log = [verdict]
  unaddressed_iff : verdict = .unaddressed ↔
    run.value.status.code = 400 ∧ run.value.body = "BAD REQUEST"
  codeless_iff : verdict = .codeless ↔
    run.value.status.code = 400 ∧ run.value.body = "code is not provided by Github"
  missing_iff : verdict = .codeless ↔ ∃ href, href? settings r = some href ∧ Codeless href
  failed_iff : verdict = .failed ↔ run.value.status.code = 502
  admitted_iff : (∃ urn, verdict = .admitted urn) ↔ run.value.status.code = 200
  names : ∀ urn, verdict = .admitted urn → Names urn run.value.body

theorem Ending.attests {run : Run Response} (h : Ending settings s r remote run)
    (honly : Verdict.ofLog run.log = [due settings r s remote])
    (hnames : ∀ {href identity}, href? settings r = some href →
      (s.pass.enter href remote).value = .ok (some identity) → Names identity.urn run.value.body) :
    Attests settings r run (due settings r s remote) := by
  cases h with
  | unaddressed hhref hstatus hbody hsent =>
      have hdue : due settings r s remote = .unaddressed := by rw [due, hhref]
      rw [hdue] at honly ⊢
      constructor <;> simp [honly, hhref, hstatus, hbody]
  | @codeless href hhref hcode hvalue hstatus hbody hsent =>
      have hdue : due settings r s remote = .codeless := by
        have hlogin : (s.enter href remote).value = .error SignIn.missingCode :=
          enter_of_pass hvalue
        rw [due_of_href hhref, hlogin]
        rfl
      rw [hdue] at honly ⊢
      constructor <;> simp [honly, hhref, hcode, hstatus, hbody]
  | @failed href f hhref hcode hvalue hstatus hbody =>
      have hlogin : (s.enter href remote).value = .error f := enter_of_pass hvalue
      obtain ⟨code, hsome⟩ : ∃ code, SignIn.code? href = some code :=
        Option.ne_none_iff_exists'.mp fun hnone => hcode ((SignIn.code?_eq_none_iff href).mp hnone)
      have hdue : due settings r s remote = .failed := by
        rw [due_of_href hhref, hlogin]
        exact if_pos (SignIn.isUpstream_of_enter hsome hlogin)
      rw [hdue] at honly ⊢
      constructor <;> simp [honly, hhref, hcode, hstatus, hbody]
  | @admitted href identity hhref hcode hvalue hstatus =>
      have hdue : due settings r s remote = .admitted identity.urn := by
        have hlogin : (s.enter href remote).value = .ok identity := enter_of_pass hvalue
        rw [due_of_href hhref, hlogin]
        rfl
      have hbody := hnames hhref hvalue
      rw [hdue] at honly ⊢
      constructor <;> simp [honly, hhref, hcode, hstatus, hbody]

end callback

/-- Whatever the settings, the callback and the provider, the log tells once how the callback ended,
and tells it as the response does. -/
theorem answer_attested {settings : Settings} {r : Request} (hmethod : r.method = "GET")
    (hpath : r.target.path = Endpoint.callback.path.toList) (s : SignIn) (remote : Remote) :
    ∃ verdict, Attests settings r (Router.answer ⟨settings, s.pass⟩ r remote) verdict := by
  refine ⟨due settings r s remote, ?_⟩
  cases hhref : href? settings r with
  | none =>
      have hrefuses := refuses_of_href?_eq_none hmethod hpath hhref
      have honly := ofLog_of_refuses s remote hhref hrefuses
      refine (ending_of_refuses s remote hhref hrefuses).attests honly ?_
      intro href identity hsome
      cases hhref.symm.trans hsome
  | some href =>
      have hshows := shows_of_href? hmethod hpath hhref
      have honly := ofLog_of_shows s remote hhref hshows
      refine (ending_of_shows s remote hhref hshows).attests honly ?_
      intro href' identity hsome hidentity
      cases hhref.symm.trans hsome
      exact names_of_shows hshows hidentity

/-- A provider that knows one user. -/
def admitting : Remote := .replying [
  .answer {
    status := .ok
    body := Utf8.encode "<OAuth><access_token>T</access_token></OAuth>".toList },
  .answer { status := .ok, body := Utf8.encode "\x7b\"id\":42\x7d".toList }]

theorem answer_attested_admitted :
    Verdict.ofLog (Router.answer ⟨plainSettings, SignIn.testSignIn.pass⟩ (callbackTo "site.test")
      admitting).log = [.admitted "urn:github:42"] ∧
    ∃ verdict, Attests plainSettings (callbackTo "site.test")
      (Router.answer ⟨plainSettings, SignIn.testSignIn.pass⟩ (callbackTo "site.test") admitting)
      verdict :=
  ⟨by decide +kernel, answer_attested rfl rfl SignIn.testSignIn admitting⟩

end Callback

end LoginGateway.Server
