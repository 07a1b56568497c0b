import LoginGateway.Proofs.GitHub.LoginSteps

/-!
The two phases of a login. Whatever the provider answers, a login first posts the code and then,
only if the last answer to that held a token, reads the profile with it; each phase is one chain of
redirections. Main statement: `enter_phases`.
-/

namespace LoginGateway.GitHub.SignIn

open Login
open Http (Session Remote Exchange Call Makes TransportError Received)
open Http.Client (Chain Concludes send_makes prepared_address)

/-- The last answer is one of status 200. -/
def EndsOk (wire : List Exchange) : Prop :=
  ∃ x a, wire.getLast? = some x ∧ x.reply = .answer a ∧ a.status = .ok

/-- The last answer is one of status 200 that came in to its end and holds the token. -/
def Yields (wire : List Exchange) (token : AccessToken) : Prop :=
  ∃ x a, wire.getLast? = some x ∧ x.reply = .answer a ∧ a.status = .ok ∧ a.missing = 0 ∧
    TokenDocument.token (String.ofList (Utf8.decodeLossy a.body)) = .ok token

theorem Yields.endsOk {wire : List Exchange} {token : AccessToken} (h : Yields wire token) :
    EndsOk wire := by
  obtain ⟨x, a, hlast, hreply, hstatus, -⟩ := h
  exact ⟨x, a, hlast, hreply, hstatus⟩

theorem text_eq_ok {r : Received} {text : String} (h : r.text = .ok text) :
    r.answer.missing = 0 ∧ text = String.ofList (Utf8.decodeLossy r.answer.body) := by
  rw [Received.text, Received.bytes] at h
  split at h
  · next hmissing => exact ⟨hmissing, by simpa [Except.map] using h.symm⟩
  · cases h

theorem tokenFrom_eq_ok {outcome : Except TransportError Received} {token : AccessToken}
    (h : tokenFrom outcome = .ok token) :
    ∃ r, outcome = .ok r ∧ r.status = .ok ∧ r.answer.missing = 0 ∧
      TokenDocument.token (String.ofList (Utf8.decodeLossy r.answer.body)) = .ok token := by
  cases outcome with
  | error e => cases h
  | ok r =>
      rw [tokenFrom] at h
      split at h
      · cases h
      · next hstatus =>
          cases htext : r.text with
          | error e =>
              rw [htext] at h
              cases h
          | ok text =>
              obtain ⟨hmissing, rfl⟩ := text_eq_ok htext
              rw [htext] at h
              exact ⟨r, rfl, Decidable.not_not.mp hstatus, hmissing, h⟩

theorem identityFrom_eq_ok {outcome : Except TransportError Received} {identity : Identity}
    (h : identityFrom outcome = .ok identity) : ∃ r, outcome = .ok r ∧ r.status = .ok := by
  cases outcome with
  | error e => cases h
  | ok r =>
      rw [identityFrom] at h
      split at h
      · cases h
      · next hstatus => exact ⟨r, rfl, Decidable.not_not.mp hstatus⟩

/-! ### Each phase by itself -/

theorem requestToken_concludes (s : SignIn) (callback : Url) (code : List Char) (remote : Remote) :
    ∃ wire outcome rest, Makes (s.requestToken callback code) remote wire (tokenFrom outcome) rest ∧
      Chain (s.exchangeCall callback code) wire ∧ Concludes wire outcome := by
  obtain ⟨wire, outcome, rest, hmakes, hchain, hconcludes⟩ :=
    send_makes (show "POST" ≠ "HEAD" by decide) s.exchangeUrl
      ((accepting "application/xml").set "content-type" "application/x-www-form-urlencoded")
      (some (Form.encode (s.exchangeForm callback code))) remote
  exact ⟨wire, outcome, rest, requestToken_makes hmakes, hchain, hconcludes⟩

theorem readProfile_concludes (s : SignIn) (token : AccessToken) (remote : Remote) :
    ∃ wire outcome rest, Makes (s.readProfile token) remote wire (identityFrom outcome) rest ∧
      Chain (s.profileCall token) wire ∧ Concludes wire outcome := by
  obtain ⟨wire, outcome, rest, hmakes, hchain, hconcludes⟩ :=
    send_makes (show "GET" ≠ "HEAD" by decide) s.profileUrl
      (token.authorize (accepting "application/json")) none remote
  exact ⟨wire, outcome, rest, readProfile_makes hmakes, hchain, hconcludes⟩

theorem yields_of_concludes {wire : List Exchange} {outcome : Except TransportError Received}
    {token : AccessToken} (h : Concludes wire outcome) (htoken : tokenFrom outcome = .ok token) :
    Yields wire token := by
  obtain ⟨r, rfl, hstatus, hmissing, htoken⟩ := tokenFrom_eq_ok htoken
  obtain ⟨x, a, hx, hreply, -, ha⟩ := h.last r rfl
  obtain rfl := ha hstatus
  exact ⟨x, r.answer, hx, hreply, hstatus, hmissing, htoken⟩

theorem endsOk_of_concludes {wire : List Exchange} {outcome : Except TransportError Received}
    {identity : Identity} (h : Concludes wire outcome)
    (hidentity : identityFrom outcome = .ok identity) : EndsOk wire := by
  obtain ⟨r, rfl, hstatus⟩ := identityFrom_eq_ok hidentity
  obtain ⟨x, a, hx, hreply, ha, -⟩ := h.last r rfl
  exact ⟨x, a, hx, hreply, ha.trans hstatus⟩

/-- What the login of a user with a code comes to: the exchange fails, and nothing follows, or it comes
to a token, and the rest is up to the profile. -/
inductive Concluded (s : SignIn) (exchange profile : List Exchange) :
    Except TransportError Received → Except Failure Identity → Prop
  | refused {outcome : Except TransportError Received} {f : Failure} : tokenFrom outcome = .error f →
      profile = [] → Concluded s exchange profile outcome (.error f)
  | admitted {outcome read : Except TransportError Received} {token : AccessToken} :
      tokenFrom outcome = .ok token → Chain (s.profileCall token) profile → Concludes profile read →
      Concluded s exchange profile outcome (identityFrom read)

theorem enter_concluded {callback : Url} {code : List Char} (hcode : code? callback = some code)
    (s : SignIn) (remote : Remote) :
    ∃ exchange profile outcome result rest,
      Makes (s.enter callback) remote (exchange ++ profile) result rest ∧
      Chain (s.exchangeCall callback code) exchange ∧ Concludes exchange outcome ∧
      Concluded s exchange profile outcome result := by
  obtain ⟨exchange, outcome, middle, hexchange, hchain, hconcludes⟩ :=
    requestToken_concludes s callback code remote
  cases htoken : tokenFrom outcome with
  | error f =>
      rw [htoken] at hexchange
      refine ⟨exchange, [], outcome, .error f, middle, ?_, hchain, hconcludes, .refused htoken rfl⟩
      rw [List.append_nil]
      exact enter_makes_of_no_token hcode hexchange
  | ok token =>
      rw [htoken] at hexchange
      obtain ⟨profile, read, rest, hprofile, hchain', hconcludes'⟩ :=
        readProfile_concludes s token middle
      exact ⟨exchange, profile, outcome, identityFrom read, rest,
        enter_makes_of_token hcode hexchange hprofile, hchain, hconcludes,
        .admitted htoken hchain' hconcludes'⟩

/-- A login is at most two chains, and the second one needs the token that the first one yields. -/
theorem signIn_chains (s : SignIn) (callback : Url) (remote : Remote) :
    ∃ exchange profile result rest,
      Makes (s.enter callback) remote (exchange ++ profile) result rest ∧
      (exchange = [] ∨
        ∃ code, code? callback = some code ∧ Chain (s.exchangeCall callback code) exchange) ∧
      (profile = [] ∨ ∃ token, Yields exchange token ∧ Chain (s.profileCall token) profile) ∧
      ∀ identity, result = .ok identity → EndsOk exchange ∧ EndsOk profile := by
  cases hcode : code? callback with
  | none =>
      refine ⟨[], [], .error missingCode, remote, enter_makes_of_no_code hcode remote,
        .inl rfl, .inl rfl, ?_⟩
      intro identity h
      cases h
  | some code =>
      obtain ⟨exchange, profile, outcome, result, rest, hmakes, hchain, hconcludes, hconcluded⟩ :=
        enter_concluded hcode s remote
      refine ⟨exchange, profile, result, rest, hmakes, .inr ⟨code, rfl, hchain⟩, ?_⟩
      cases hconcluded with
      | refused _ hnil => exact ⟨.inl hnil, fun identity h => by cases h⟩
      | @admitted read token htoken hchain' hconcludes' =>
          have hyields := yields_of_concludes hconcludes htoken
          exact ⟨.inr ⟨token, hyields, hchain'⟩, fun identity h =>
            ⟨hyields.endsOk, endsOk_of_concludes hconcludes' h⟩⟩

/-! ### Both phases -/

/-- The exchanges of the first phase: a POST of the code goes out, the others follow redirections,
and one of them is a POST only while every answer keeps the body. -/
structure TokenPhase (s : SignIn) (callback : Url) (wire : List Exchange) : Prop where
  starts : ∀ x, wire.head? = some x → ∃ code, code? callback = some code ∧
    x.call.method = "POST" ∧
    x.call.address = s.exchangeUrl.withoutUserinfo.withoutFragment.toString ∧
    x.call.body = some (Form.encode (s.exchangeForm callback code))
  redirects : wire.IsChain Exchange.LeadsTo
  short : wire.length ≤ Http.Client.redirectLimit + 1
  posts : ∀ (i : Nat) (y : Exchange), wire[i]? = some y → y.call.method = "POST" →
    ∀ x ∈ wire.take i, x.keepsBody

/-- The exchanges of the second phase: GETs, of which the first reads the profile and the others
follow redirections. There is none unless the first phase ended with a token. -/
structure ProfilePhase (s : SignIn) (exchange wire : List Exchange) : Prop where
  starts : ∀ x, wire.head? = some x →
    x.call.address = s.profileUrl.withoutUserinfo.withoutFragment.toString
  redirects : wire.IsChain Exchange.LeadsTo
  short : wire.length ≤ Http.Client.redirectLimit + 1
  gets : ∀ x ∈ wire, x.call.method = "GET"
  token : wire ≠ [] → ∃ token, Yields exchange token

theorem TokenPhase.nil (s : SignIn) (callback : Url) : TokenPhase s callback [] := by
  refine ⟨?_, .nil, by simp, ?_⟩
  · intro x hx
    cases hx
  · intro i y hy
    cases hy

theorem TokenPhase.of_chain {s : SignIn} {callback : Url} {code : List Char}
    {wire : List Exchange} (hcode : code? callback = some code)
    (h : Chain (s.exchangeCall callback code) wire) : TokenPhase s callback wire := by
  refine ⟨?_, h.redirects, h.short, ?_⟩
  · intro x hx
    rw [h.starts x hx]
    exact ⟨code, hcode, rfl, prepared_address _ _ _ _, rfl⟩
  · intro i y hy hpost
    have hcarried := h.carried i y hy
    split at hcarried
    · next hkeeps => simpa using hkeeps
    · rw [hcarried.1] at hpost
      exact absurd hpost (by decide)

theorem ProfilePhase.nil (s : SignIn) (exchange : List Exchange) : ProfilePhase s exchange [] := by
  refine ⟨?_, .nil, by simp, ?_, ?_⟩
  · intro x hx
    cases hx
  · intro x hx
    cases hx
  · intro h
    exact absurd rfl h

theorem ProfilePhase.of_chain {s : SignIn} {token : AccessToken} {exchange wire : List Exchange}
    (hyields : Yields exchange token) (h : Chain (s.profileCall token) wire) :
    ProfilePhase s exchange wire := by
  refine ⟨?_, h.redirects, h.short, ?_, fun _ => ⟨token, hyields⟩⟩
  · intro x hx
    rw [h.starts x hx]
    exact prepared_address _ _ _ _
  · intro x hx
    exact (h.method_eq hx).elim id id

/-- Whatever the provider answers, a login makes the exchanges of a token phase and after them those
of a profile phase, and a user gets in only if both ended well. -/
theorem enter_phases (s : SignIn) (callback : Url) (remote : Remote) :
    ∃ exchange profile result rest,
      Makes (s.pass.enter callback) remote (exchange ++ profile) result rest ∧
      TokenPhase s callback exchange ∧ ProfilePhase s exchange profile ∧
      ∀ outcome, result = .ok outcome → EndsOk exchange ∧ EndsOk profile := by
  obtain ⟨exchange, profile, result, rest, hmakes, hexchange, hprofile, hends⟩ :=
    signIn_chains s callback remote
  refine ⟨exchange, profile, _, rest, hmakes.map (Except.map some), ?_, ?_, ?_⟩
  · rcases hexchange with rfl | ⟨code, hcode, hchain⟩
    · exact .nil s callback
    · exact .of_chain hcode hchain
  · rcases hprofile with rfl | ⟨token, hyields, hchain⟩
    · exact .nil s exchange
    · exact .of_chain hyields hchain
  · intro outcome h
    cases result with
    | error f => cases h
    | ok identity => exact hends identity rfl

end LoginGateway.GitHub.SignIn
