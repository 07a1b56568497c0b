import LoginGateway.Proofs.GitHub.LoginSteps
import LoginGateway.Proofs.Server.PassPipeline

/-!
How a callback ends when users sign in through GitHub. Somebody is let in, or brought no code, or the
provider is at fault; what the provider sent has no part in what a user who is turned away reads. Main
statement: `answer_outcome`.
-/

namespace LoginGateway

/-! ### Failures behind a code -/

namespace Login.FailureKind

/-- The provider, or the way to it, is at fault. -/
def isUpstream : FailureKind → Bool
  | login .missingCode => false
  | login (.answer _) => true
  | login .malformedProfile => true
  | transport _ => true
  | setting _ => false

end Login.FailureKind

namespace GitHub.SignIn

open Login
open Http (Remote TransportError Received)

theorem isUpstream_of_isAnswer {k : FailureKind} (h : k.isAnswer = true) : k.isUpstream = true := by
  cases k with
  | login fault =>
      cases fault with
      | answer => rfl
      | missingCode | malformedProfile => cases h
  | transport | setting => cases h

theorem isUpstream_of_tokenFrom {outcome : Except TransportError Received} {f : Failure}
    (h : tokenFrom outcome = .error f) : f.kind.isUpstream = true := by
  cases outcome with
  | error e =>
      cases h
      rfl
  | ok r =>
      rw [tokenFrom] at h
      split at h
      · cases h
        rfl
      · split at h
        · cases h
          rfl
        · exact isUpstream_of_isAnswer (isAnswer_of_token h)

theorem isUpstream_of_identityOf {document : Option Json} {f : Failure}
    (h : identityOf document = .error f) : f.kind.isUpstream = true := by
  cases document with
  | none =>
      cases h
      rfl
  | some j =>
      rw [identityOf] at h
      split at h
      · rw [Profile.identity] at h
        split at h
        · cases h
        · cases h
          rfl
      · cases h
        rfl

theorem isUpstream_of_identityFrom {outcome : Except TransportError Received} {f : Failure}
    (h : identityFrom outcome = .error f) : f.kind.isUpstream = true := by
  cases outcome with
  | error e =>
      cases h
      rfl
  | ok r =>
      rw [identityFrom] at h
      split at h
      · cases h
        rfl
      · exact isUpstream_of_identityOf h

theorem isUpstream_of_requestToken {s : SignIn} {callback : Url} {code : List Char}
    {remote : Remote} {f : Failure} (h : (s.requestToken callback code remote).value = .error f) :
    f.kind.isUpstream = true := by
  rw [requestToken_eq] at h
  exact isUpstream_of_tokenFrom h

theorem isUpstream_of_readProfile {s : SignIn} {token : AccessToken} {remote : Remote} {f : Failure}
    (h : (s.readProfile token remote).value = .error f) : f.kind.isUpstream = true := by
  rw [readProfile_eq] at h
  exact isUpstream_of_identityFrom h

/-- Of a finished login only the value of the profile request counts. -/
theorem finish_value (s : SignIn) (token : AccessToken) (remote : Remote) :
    (s.finish (.ok token) remote).value = (s.readProfile token remote).value := by
  rw [finish, Http.Session.value_bind]
  cases (s.readProfile token remote).value <;> rfl

/-- Whoever brings a code can only fail upstream. -/
theorem isUpstream_of_enter {s : SignIn} {callback : Url} {code : List Char} {remote : Remote}
    {f : Failure} (hcode : code? callback = some code)
    (h : (s.enter callback remote).value = .error f) : f.kind.isUpstream = true := by
  rw [enter_eq hcode, Http.Session.value_bind] at h
  cases hexchange : (s.requestToken callback code remote).value with
  | error f' =>
      rw [hexchange] at h
      cases h
      exact isUpstream_of_requestToken hexchange
  | ok token =>
      rw [hexchange, finish_value] at h
      exact isUpstream_of_readProfile h

end GitHub.SignIn

/-! ### The outcome -/

namespace Server.Callback

open Http (Remote Run)
open GitHub (SignIn)

theorem told_of_isUpstream {f : Login.Failure} (h : f.kind.isUpstream = true) :
    told f = (.badGateway, "BAD GATEWAY") := by
  rw [told]
  rcases hkind : f.kind with fault | fault | fault
  · cases fault with
    | missingCode =>
        rw [hkind] at h
        cases h
    | answer fault => rfl
    | malformedProfile => rfl
  · rfl
  · rw [hkind] at h
    cases h

/-- No parameter of the address has the name `code`. -/
def Codeless (href : Url) : Prop := ∀ p ∈ href.queryPairs, p.1 ≠ "code".toList

/-- The four ways in which a callback ends. -/
inductive Ending (settings : Settings) (s : SignIn) (r : Request) (remote : Remote)
    (run : Run Response) : Prop
  | unaddressed : href? settings r = none → run.value.status.code = 400 →
      run.value.body = "BAD REQUEST" → run.sent = [] → Ending settings s r remote run
  | codeless {href : Url} : href? settings r = some href → Codeless href →
      (s.pass.enter href remote).value = .error SignIn.missingCode →
      run.value.status.code = 400 → run.value.body = "code is not provided by Github" →
      run.sent = [] → Ending settings s r remote run
  | failed {href : Url} {f : Login.Failure} : href? settings r = some href → ¬Codeless href →
      (s.pass.enter href remote).value = .error f →
      run.value.status.code = 502 → run.value.body = "BAD GATEWAY" →
      Ending settings s r remote run
  | admitted {href : Url} {identity : Login.Identity} :
      href? settings r = some href → ¬Codeless href →
      (s.pass.enter href remote).value = .ok (some identity) → run.value.status.code = 200 →
      Ending settings s r remote run

section ending

variable {settings : Settings} {r : Request}

theorem ending_of_refuses (s : SignIn) (remote : Remote) (hhref : href? settings r = none)
    (h : Refuses settings r) :
    Ending settings s r remote (Router.answer ⟨settings, s.pass⟩ r remote) := by
  obtain ⟨message, hrefuses⟩ := h
  rw [hrefuses s.pass]
  exact .unaddressed hhref rfl rfl rfl

theorem ending_of_shows (s : SignIn) (remote : Remote) {href : Url}
    (hhref : href? settings r = some href) (h : Shows settings r href) :
    Ending settings s r remote (Router.answer ⟨settings, s.pass⟩ r remote) := by
  have hvalue : (s.pass.enter href remote).value = (s.enter href remote).value.map some := rfl
  rw [answer_apply h]
  have hcodeless : SignIn.code? href = none ↔ Codeless href := SignIn.code?_eq_none_iff href
  cases hcode : SignIn.code? href with
  | none =>
      have henter : s.pass.enter href remote = ⟨.error SignIn.missingCode, [], [], remote⟩ := by
        have hlogin : s.enter href = pure (.error SignIn.missingCode) := by
          rw [SignIn.enter, hcode]
        change (Except.map some <$> s.enter href) remote = _
        rw [hlogin]
        rfl
      rw [henter]
      exact .codeless hhref (hcodeless.mp hcode) (by rw [henter]) rfl rfl rfl
  | some code =>
      have hnot : ¬Codeless href := fun h => by simp [hcodeless.mpr h] at hcode
      cases hresult : (s.enter href remote).value with
      | error f =>
          rw [hresult] at hvalue
          have htold := told_of_isUpstream (SignIn.isUpstream_of_enter hcode hresult)
          obtain ⟨record, hrespond⟩ := respondFailure_apply f (s.pass.enter href remote).remote
          rw [htold] at hrespond
          refine .failed hhref hnot hvalue ?_ ?_
          · simp only [hvalue, Except.map, conclude, hrespond]
            rfl
          · simp only [hvalue, Except.map, conclude, hrespond]
            rfl
      | ok identity =>
          rw [hresult] at hvalue
          refine .admitted hhref hnot hvalue ?_
          simp only [hvalue]
          rfl

end ending

/-- How a callback ends: with status 200, 400 or 502. It is 200 for those who are let in, and 400 for
those whose address cannot be told or has no code; nobody is called for these. All others get 502. -/
structure Outcome (settings : Settings) (s : SignIn) (r : Request) (remote : Remote)
    (run : Run Response) : Prop where
  status : run.value.status.code = 200 ∨ run.value.status.code = 400 ∨ run.value.status.code = 502
  ok_iff : run.value.status.code = 200 ↔ ∃ href identity,
    href? settings r = some href ∧ (s.pass.enter href remote).value = .ok (some identity)
  badRequest_iff : run.value.status.code = 400 ↔ href? settings r = none ∨
    ∃ href, href? settings r = some href ∧ Codeless href
  unaddressed : href? settings r = none → run.value.body = "BAD REQUEST" ∧ run.sent = []
  codeless : ∀ href, href? settings r = some href → Codeless href →
    run.value.body = "code is not provided by Github" ∧ run.sent = []
  badGateway : run.value.status.code = 502 → run.value.body = "BAD GATEWAY"
  turnedAway : run.value.status.code ≠ 200 →
    run.value.body ∈ ["BAD REQUEST", "code is not provided by Github", "BAD GATEWAY"]

theorem Ending.outcome {settings : Settings} {s : SignIn} {r : Request} {remote : Remote}
    {run : Run Response} (h : Ending settings s r remote run) :
    Outcome settings s r remote run := by
  cases h with
  | unaddressed hhref hstatus hbody hsent =>
      constructor <;> simp [hhref, hstatus, hbody, hsent]
  | codeless hhref hcode hvalue hstatus hbody hsent =>
      constructor <;> simp [hhref, hcode, hvalue, hstatus, hbody, hsent]
  | failed hhref hcode hvalue hstatus hbody =>
      constructor <;> simp [hhref, hcode, hvalue, hstatus, hbody]
  | admitted hhref hcode hvalue hstatus =>
      constructor <;> simp [hhref, hcode, hvalue, hstatus]

/-- Whatever the settings and the provider, a callback ends in one of these ways, and a user who is
turned away reads one of three texts. -/
theorem answer_outcome {settings : Settings} {r : Request} (hmethod : r.method = "GET")
    (hpath : r.target.path = Endpoint.callback.path.toList) (s : SignIn) (remote : Remote) :
    Outcome settings s r remote (Router.answer ⟨settings, s.pass⟩ r remote) := by
  cases hhref : href? settings r with
  | none =>
      have hrefuses := refuses_of_href?_eq_none hmethod hpath hhref
      exact (ending_of_refuses s remote hhref hrefuses).outcome
  | some href =>
      have hshows := shows_of_href? hmethod hpath hhref
      exact (ending_of_shows s remote hhref hshows).outcome

theorem answer_outcome_named :
    Outcome plainSettings SignIn.testSignIn (callbackTo "site.test")
      (.replying [.answer { status := { code := 500 }, body := Utf8.encode "secret".toList }])
      (Router.answer ⟨plainSettings, SignIn.testSignIn.pass⟩ (callbackTo "site.test")
        (.replying [.answer { status := { code := 500 }, body := Utf8.encode "secret".toList }])) :=
  answer_outcome rfl rfl SignIn.testSignIn _

end Server.Callback

end LoginGateway
