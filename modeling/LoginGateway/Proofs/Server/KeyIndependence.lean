import LoginGateway.Proofs.GitHub.LoginSteps
import LoginGateway.Proofs.Http.TwinRuns
import LoginGateway.Server.Launch
import LoginGateway.Server.Router

/-!
The key of the application goes out in the form that is posted for a token, and shows nowhere else.
Two servers with different keys write the same records when they start, and answer every request with
the same response, the same records and the same calls; only the posted forms differ, and with them
the length that is stated for them. Main statement: `openPass_keyed`.
-/

namespace LoginGateway

namespace Http

namespace Call

/-- The same call, but for what is posted with it. -/
structure Reposted (c d : Call) : Prop where
  method : c.method = d.method
  url : c.url = d.url
  headers : c.headers = d.headers
  body : c.method ≠ "POST" → c.body = d.body

/-- The same goes over the wire, but for the body of a post and the length of that body. -/
structure SameButForm (c d : Call) : Prop where
  method : c.method = d.method
  address : c.address = d.address
  headers : c.sentHeaders.remove "content-length" = d.sentHeaders.remove "content-length"
  unposted : c.method ≠ "POST" → c.sentHeaders = d.sentHeaders ∧ c.body = d.body

theorem Reposted.refl (c : Call) : Reposted c c := ⟨rfl, rfl, rfl, fun _ => rfl⟩

theorem SameButForm.refl (c : Call) : SameButForm c c := ⟨rfl, rfl, rfl, fun _ => ⟨rfl, rfl⟩⟩

theorem reposted_prepared (url : Url) (headers : Headers) (body body' : Option (List Char)) :
    Reposted (Client.prepared "POST" url headers body) (Client.prepared "POST" url headers body') :=
  ⟨rfl, rfl, rfl, fun hmethod => absurd rfl hmethod⟩

theorem keepsLine_reposted : KeepsLine Reposted where
  method _ _ h := h.method
  url _ _ h := h.url
  redirected c d h status next := by
    obtain ⟨method, url, headers, body⟩ := c
    obtain ⟨_, _, _, body'⟩ := d
    obtain ⟨rfl, rfl, rfl, hbody⟩ := h
    cases hkeeps : Client.keepsBody status with
    | true =>
        simp only [Client.redirected, hkeeps, if_true]
        exact ⟨rfl, rfl, rfl, hbody⟩
    | false =>
        simp only [Client.redirected, hkeeps]
        exact ⟨rfl, rfl, rfl, fun _ => rfl⟩

theorem sentHeaders_remove_length (c : Call) :
    c.sentHeaders.remove "content-length" =
      (c.headers.setDefault "host" c.hostText).remove "content-length" := by
  rw [sentHeaders]
  cases c.body with
  | none => rfl
  | some text => exact Headers.remove_set _ _ _

theorem Reposted.sameButForm {c d : Call} (h : Reposted c d) : SameButForm c d where
  method := h.method
  address := by rw [address, address, h.url]
  headers := by
    rw [sentHeaders_remove_length, sentHeaders_remove_length, h.headers, hostText, hostText, h.url]
  unposted hmethod := by
    have hbody := h.body hmethod
    refine ⟨?_, hbody⟩
    rw [sentHeaders, sentHeaders, h.headers, hostText, hostText, h.url, hbody]

end Call

end Http

/-! ### A login with another key -/

namespace GitHub.SignIn

open Http (Run Call Remote)

def withKey (s : SignIn) (key : String) : SignIn :=
  { s with registration := { s.registration with key := key } }

theorem describe_withKey (s : SignIn) (key : String) :
    (s.withKey key).registration.describe = s.registration.describe := by
  unfold withKey Registration.describe
  dsimp only

theorem ofRegistration_withKey (r : Registration) (key : String) :
    ofRegistration { r with key := key } = (ofRegistration r).map (·.withKey key) := by
  rw [ofRegistration, ofRegistration]
  change (r.exchangeUrl >>= fun _ => r.profileUrl >>= _) = _
  cases r.exchangeUrl with
  | error f => rfl
  | ok exchangeUrl =>
      cases r.profileUrl with
      | error f => rfl
      | ok profileUrl => rfl

theorem requestToken_withKey (s : SignIn) (key : String) (callback : Url) (code : List Char)
    (remote : Remote) :
    Run.Alike Call.Reposted Eq Eq (s.requestToken callback code remote)
      ((s.withKey key).requestToken callback code remote) := by
  rw [requestToken_eq, requestToken_eq]
  refine (Run.Alike.refl Call.Reposted.refl _ remote).bind_eq fun _ rest => ?_
  have hcall : Run.Alike Call.Reposted Eq Eq (s.exchangeCode callback code rest)
      ((s.withKey key).exchangeCode callback code rest) :=
    Http.Client.send_alike_eq Call.keepsLine_reposted rfl (Call.reposted_prepared _ _ _ _) rest
  exact hcall.bind_eq fun outcome last => .refl Call.Reposted.refl _ last

theorem enter_withKey (s : SignIn) (key : String) (callback : Url) (remote : Remote) :
    Run.Alike Call.Reposted Eq Eq (s.enter callback remote)
      ((s.withKey key).enter callback remote) := by
  cases hcode : code? callback with
  | none =>
      rw [enter, enter, hcode]
      exact .refl Call.Reposted.refl _ _
  | some code =>
      rw [enter_eq hcode, enter_eq hcode]
      refine (requestToken_withKey s key callback code remote).bind_eq fun result rest => ?_
      -- The profile is read without the key.
      have hfinish : (s.withKey key).finish result = s.finish result := by
        cases result <;> rfl
      rw [hfinish]
      exact .refl Call.Reposted.refl _ rest

end GitHub.SignIn

namespace Server

open Http (Run Call Remote)
open GitHub (SignIn)

/-! ### A request to two servers -/

/-- Two gateways that find the same addresses, and whose passes do the same at each of them. -/
structure Gateway.Alike (R : Call → Call → Prop) (g g' : Gateway) : Prop where
  base : g.settings.publicBaseUrl = g'.settings.publicBaseUrl
  provider : g.pass.provider = g'.pass.provider
  exit : g.pass.exit = g'.pass.exit
  enter : ∀ callback remote,
    Run.Alike R Eq Eq (g.pass.enter callback remote) (g'.pass.enter callback remote)

section requests

variable {R : Call → Call → Prop} {g g' : Gateway}

theorem Callback.url_eq (h : g.Alike R g') (r : Request) :
    Callback.url g.settings r = Callback.url g'.settings r := by
  rw [Callback.url, Callback.url, Callback.origin?, Callback.origin?, h.base]

theorem Callback.welcome_eq (h : g.Alike R g') : Callback.welcome g.pass = Callback.welcome g'.pass := by
  funext identity
  rw [Callback.welcome, Callback.welcome, h.provider, h.exit]

theorem Callback.answer_alike (hR : ∀ c, R c c) (h : g.Alike R g') (r : Request) (remote : Remote) :
    Run.Alike R Eq Eq (Callback.answer g.settings g.pass r remote)
      (Callback.answer g'.settings g'.pass r remote) := by
  rw [Callback.answer, Callback.answer, Callback.url_eq h, Callback.welcome_eq h]
  refine (Run.Alike.refl hR _ remote).bind_eq fun found rest => ?_
  cases found with
  | error refusal => exact .refl hR _ rest
  | ok callback =>
      refine (h.enter callback rest).bind_eq fun result last => ?_
      exact .refl hR _ last

theorem Router.get_alike (hR : ∀ c, R c c) (h : g.Alike R g') (r : Request) (e : Endpoint)
    (remote : Remote) : Run.Alike R Eq Eq (Router.get g r e remote) (Router.get g' r e remote) := by
  cases e with
  | callback => exact Callback.answer_alike hR h r remote
  | health => exact .refl hR _ remote
  | manual => exact .refl hR _ remote
  | manualPage => exact .refl hR _ remote

theorem Router.visit_alike (hR : ∀ c, R c c) (h : g.Alike R g') (r : Request) (e : Endpoint)
    (remote : Remote) :
    Run.Alike R Eq Eq (Router.visit g r e remote) (Router.visit g' r e remote) := by
  rw [Router.visit, Router.visit]
  split
  · exact (Router.get_alike hR h r e remote).bind_eq fun _ last => .refl hR _ last
  · split
    · exact (Router.get_alike hR h r e remote).bind_eq fun _ last => .refl hR _ last
    · exact .refl hR _ remote

theorem Router.dispatch_alike (hR : ∀ c, R c c) (h : g.Alike R g') (r : Request) (remote : Remote) :
    Run.Alike R Eq Eq (Router.dispatch g r remote) (Router.dispatch g' r remote) := by
  rw [Router.dispatch, Router.dispatch]
  cases Endpoint.ofPath? r.target.path with
  | none => exact .refl hR _ remote
  | some e => exact Router.visit_alike hR h r e remote

theorem Router.answer_alike (hR : ∀ c, R c c) (h : g.Alike R g') (r : Request) (remote : Remote) :
    Run.Alike R Eq Eq (Router.answer g r remote) (Router.answer g' r remote) :=
  (Router.dispatch_alike hR h r remote).bind_eq fun _ last => .refl hR _ last

end requests

/-! ### Two servers with different keys -/

theorem pass_alike (s : SignIn) (key : String) {settings settings' : Settings}
    (hbase : settings.publicBaseUrl = settings'.publicBaseUrl) :
    Gateway.Alike Call.Reposted ⟨settings, s.pass⟩ ⟨settings', (s.withKey key).pass⟩ where
  base := hbase
  provider := rfl
  exit := rfl
  enter callback remote :=
    (s.enter_withKey key callback remote).bind_eq fun _ last => .refl Call.Reposted.refl _ last

def keyed (settings : Settings) (key : String) : Settings := { settings with githubKey := some key }

/-- What servers with two keys come to, when nothing that is shown, written or answered tells them
apart. -/
inductive Unseen (settings : Settings) (key key' : String) :
    Except Login.Failure SignIn → Except Login.Failure SignIn → Prop
  | failed (f : Login.Failure) : Unseen settings key key' (.error f) (.error f)
  | opened {s s' : SignIn} : s.registration.describe = s'.registration.describe →
      (∀ r remote, Run.Alike Call.SameButForm Eq Eq
        (Router.answer ⟨keyed settings key, s.pass⟩ r remote)
        (Router.answer ⟨keyed settings key', s'.pass⟩ r remote)) →
      Unseen settings key key' (.ok s) (.ok s')

theorem ofRegistration_unseen (settings : Settings) (app key key' : String) :
    Unseen settings key key' (SignIn.ofRegistration (registration settings app key))
      (SignIn.ofRegistration (registration settings app key')) := by
  have hkey : SignIn.ofRegistration (registration settings app key') =
      (SignIn.ofRegistration (registration settings app key)).map (·.withKey key') :=
    SignIn.ofRegistration_withKey (registration settings app key) key'
  rw [hkey]
  cases SignIn.ofRegistration (registration settings app key) with
  | error f => exact .failed f
  | ok s =>
      refine .opened (s.describe_withKey key').symm fun r remote => ?_
      exact (Router.answer_alike Call.Reposted.refl (pass_alike s key' rfl) r remote).mono
        (fun _ _ h => h.sameButForm) fun _ _ h => h

/-- Two servers whose settings differ in the key write the same records when the pass is built. They
fail alike, or they show their registrations alike and answer every request with the same response
and the same records; the calls of an answer are the same but for the posted forms. -/
theorem openPass_keyed (settings : Settings) (key key' : String) (remote : Remote) :
    Run.Alike Call.SameButForm Eq (Unseen settings key key') (openPass (keyed settings key) remote)
      (openPass (keyed settings key') remote) := by
  cases happ : settings.githubApp with
  | none =>
      simp only [openPass, keyed, happ]
      exact .pure (.failed _) (.refl remote)
  | some app =>
      simp only [openPass, keyed, happ]
      refine (Run.Alike.refl Call.SameButForm.refl _ remote).bind_eq fun _ rest => ?_
      exact .pure (ofRegistration_unseen settings app key key') (.refl rest)

end Server

end LoginGateway
