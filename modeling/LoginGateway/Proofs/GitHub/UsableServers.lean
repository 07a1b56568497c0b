import LoginGateway.Proofs.GitHub.Endpoints
import LoginGateway.Proofs.GitHub.LoginOutcome
import LoginGateway.Proofs.Http.RequestTargets

/-!
Which passes can be used. To open a pass, its servers need to be addresses that can have segments
behind them; to exchange a code, the client must be able to send a request there. The second is more
than the first: a server that is no server of the web, or whose address is too long for a request line
or has another authority than a request line can have, passes for a server, and then every login that
brings a code fails before anybody is called. Main statement: `exchange_unbuildable_iff`.
-/

namespace LoginGateway.Http

/-! ### Replies -/

/-- The answer is one of those that the remote gives. -/
def Remote.Gives : Remote → Answer → Prop
  | .unreachable, _ => False
  | .replying replies, a => .answer a ∈ replies

theorem Reply.eq_of_settled {reply : Reply} {a : Answer} (h : reply.settled = .answer a) :
    reply = .answer a := by
  rw [Reply.settled.eq_def] at h
  split at h
  · split at h
    · cases h
    · exact h
  · cases h

theorem Serves.gives {remote rest : Remote} {wire : List Exchange} (h : Serves remote wire rest)
    {x : Exchange} (hx : x ∈ wire) {a : Answer} (ha : x.reply = .answer a) : remote.Gives a := by
  induction h with
  | done => cases hx
  | @next reply replies wire rest call _ ih =>
      rcases List.mem_cons.mp hx with rfl | hx
      · exact List.mem_cons.mpr (.inl (Reply.eq_of_settled ha).symm)
      · exact List.mem_cons_of_mem reply (ih hx)
  | spent call _ ih =>
      rcases List.mem_cons.mp hx with rfl | hx
      · cases ha
      · exact ih hx

end LoginGateway.Http

namespace LoginGateway.GitHub

open Http (Remote Exchange Makes TransportError Received Target)
open Http.Client (called destination? isWeb isTarget IsSendable Follows redirectLimit)

/-! ### Servers -/

namespace Registration

/-- A request can be made for this endpoint of the server. -/
structure IsUsable (server : String) (url : Url) : Prop where
  web : ∃ base, Url.parse server.toList = .ok base ∧ Url.IsWebScheme base.scheme
  fits : (Utf8.encode (called url).render).length ≤ Target.maxBytes
  authority : ∃ a, (called url).authority = some a ∧ Target.isAuthority a.render = true

theorem isPathChar_of_arePlain {more : List String} (hplain : ArePlain more) {text : String}
    (htext : text ∈ more) : ∀ c ∈ text.toList, Target.isPathChar c = true := by
  intro c hc
  rw [← (hplain text htext).2 true] at hc
  rcases Percent.mem_encode hc with ⟨-, hascii, hkept⟩ | hescape
  · simp only [Percent.segmentSet, Bool.or_eq_false_iff] at hkept
    exact Target.isPathChar_of_kept ⟨hascii, hkept.1.1.1⟩
  · exact Target.isPathChar_of_kept (Path.kept_of_isAlphanum hescape)

section endpoint

variable {server : String} {more : List String} (hne : more ≠ []) (hplain : ArePlain more)

include hne hplain

/-- An endpoint on the web is written as its server is, with more segments. -/
theorem exists_isWritten_endpoint {base url : Url} (hparse : Url.parse server.toList = .ok base)
    (hscheme : Url.IsWebScheme base.scheme) (h : endpoint server more = .ok url) :
    ∃ a segments, Url.IsWritten (called url) a segments := by
  obtain ⟨a, segments, hbase⟩ := Url.exists_isWritten hparse hscheme
  rw [endpoint_eq_ok hne hplain hparse hbase.path, Except.ok.injEq] at h
  subst h
  have hchars : ∀ p ∈ Url.remaining segments ++ more.map String.toList, ∀ c ∈ p,
      Target.isPathChar c = true := by
    intro p hp
    rcases List.mem_append.mp hp with hp | hp
    · exact hbase.pathChars p (Url.mem_of_mem_remaining hp)
    · obtain ⟨text, htext, rfl⟩ := List.mem_map.mp hp
      exact isPathChar_of_arePlain hplain htext
  obtain ⟨a', hcalled⟩ := (hbase.withPath (by simp [hne]) hchars).called
  exact ⟨a', _, hcalled⟩

/-- The client can send to an endpoint exactly if the server is one of the web, and neither its length
nor its authority keeps the address out of a request line. -/
theorem isSendable_iff_isUsable {url : Url} (h : endpoint server more = .ok url) :
    IsSendable url ↔ IsUsable server url := by
  have hread : ∃ base, Url.parse server.toList = .ok base ∧ base.scheme = url.scheme := by
    rcases endpoint_cases server more with ⟨⟨base, segments, hparse, hpath⟩, -⟩ | ⟨f, -, hf⟩
    · rw [endpoint_eq_ok hne hplain hparse hpath, Except.ok.injEq] at h
      exact ⟨base, hparse, h ▸ rfl⟩
    · rw [hf] at h
      cases h
  obtain ⟨base, hparse, hsame⟩ := hread
  have hweb : isWeb url = true ↔ Url.IsWebScheme base.scheme := by
    rw [isWeb, hsame, Url.IsWebScheme, Bool.or_eq_true, beq_iff_eq, beq_iff_eq]
  constructor
  · intro hsendable
    have hscheme := hweb.mp hsendable.web
    obtain ⟨a, segments, hwritten⟩ := exists_isWritten_endpoint hne hplain hparse hscheme h
    obtain ⟨hfits, hauthority⟩ := (Url.isTarget_iff hwritten).mp hsendable.target
    exact ⟨⟨base, hparse, hscheme⟩, hfits, a, hwritten.authority, hauthority⟩
  · rintro ⟨⟨base', hparse', hscheme⟩, hfits, a', ha', hauthority⟩
    obtain rfl := Except.ok.inj (hparse'.symm.trans hparse)
    obtain ⟨a, segments, hwritten⟩ := exists_isWritten_endpoint hne hplain hparse hscheme h
    obtain rfl := Option.some.inj (ha'.symm.trans hwritten.authority)
    exact ⟨hweb.mpr hscheme, (Url.isTarget_iff hwritten).mpr ⟨hfits, hauthority⟩⟩

end endpoint

end Registration

/-! ### Exchanges -/

namespace SignIn

open Login

theorem eq_cutBody_of_text {r : Received} {e : TransportError} (h : r.text = .error e) :
    e = .cutBody := by
  rw [Received.text, Received.bytes] at h
  split at h
  · cases h
  · cases h
    rfl

/-- An answer, whatever it says, is not taken for a call that could not be put together. -/
theorem built_of_tokenFrom {r : Received} {f : Failure} (h : tokenFrom (.ok r) = .error f) :
    f.kind ≠ .transport .unbuildable := by
  intro hkind
  rw [tokenFrom] at h
  split at h
  · cases h
    cases hkind
  · split at h
    · next htext =>
        obtain rfl := eq_cutBody_of_text htext
        cases h
        cases hkind
    · have hanswer := isAnswer_of_token h
      rw [Failure.isAnswer, hkind] at hanswer
      cases hanswer

/-- What becomes of the exchange of a code. If the client can send to its address, the request is sent
or nobody is reached. If it cannot, the login is over before anybody is called. -/
structure Exchanges (s : SignIn) (callback : Url) (code : List Char) (remote : Remote) : Prop where
  unbuildable : (∃ cause, (s.requestToken callback code remote).value =
    .error ⟨.transport .unbuildable, cause⟩) ↔ ¬IsSendable s.exchangeUrl
  sent : IsSendable s.exchangeUrl →
    (s.requestToken callback code remote).sent = [s.exchangeCall callback code] ∨
      (s.requestToken callback code remote).sent = [] ∧
        (s.requestToken callback code remote).value =
          .error (.ofTransport (.unsent (called s.exchangeUrl)))
  lost : ¬IsSendable s.exchangeUrl → Makes (s.pass.enter callback) remote []
    (.error (.ofTransport (.unbuildable (some (called s.exchangeUrl))))) remote

section exchange

variable {s : SignIn} {remote : Remote}

/-- A remote that sends nobody on is called once, or not at all. -/
theorem requestToken_sendable (h : IsSendable s.exchangeUrl)
    (hstays : ∀ a, remote.Gives a → destination? (called s.exchangeUrl) a = none)
    (callback : Url) (code : List Char) :
    ((s.requestToken callback code remote).sent = [s.exchangeCall callback code] ∨
        (s.requestToken callback code remote).sent = [] ∧
          (s.requestToken callback code remote).value =
            .error (.ofTransport (.unsent (called s.exchangeUrl)))) ∧
      ∀ f, (s.requestToken callback code remote).value = .error f →
        f.kind ≠ .transport .unbuildable := by
  obtain ⟨wire, outcome, rest, hmakes, hfollows⟩ : ∃ wire outcome rest,
      Makes (s.exchangeCode callback code) remote wire outcome rest ∧
        Follows redirectLimit (s.exchangeCall callback code) wire outcome :=
    Http.Client.send_sendable h (by decide) remote
  have htoken := requestToken_makes hmakes
  have hends {a : Http.Answer} (ha : ⟨s.exchangeCall callback code, .answer a⟩ ∈ wire) :
      destination? (called s.exchangeUrl) a = none :=
    hstays a (hmakes.served.gives ha rfl)
  rw [htoken.sent, htoken.value]
  generalize redirectLimit = left at hfollows
  cases hfollows with
  | unreached =>
      refine ⟨.inr ⟨rfl, rfl⟩, ?_⟩
      rintro f ⟨⟩ hkind
      cases hkind
  | closed =>
      refine ⟨.inl rfl, ?_⟩
      rintro f ⟨⟩ hkind
      cases hkind
  | arrived => exact ⟨.inl rfl, fun f => built_of_tokenFrom⟩
  | exhausted hnext => exact absurd (hnext.symm.trans (hends List.mem_cons_self)) (by simp)
  | barred hnext => exact absurd (hnext.symm.trans (hends List.mem_cons_self)) (by simp)
  | moved hnext => exact absurd (hnext.symm.trans (hends List.mem_cons_self)) (by simp)

theorem requestToken_unsendable (h : ¬IsSendable s.exchangeUrl) (callback : Url)
    (code : List Char) (remote : Remote) :
    Makes (s.requestToken callback code) remote []
      (.error (.ofTransport (.unbuildable (some (called s.exchangeUrl))))) remote :=
  requestToken_makes (Http.Client.send_unsendable h (by decide) remote)

/-- Whoever brings a code to a pass that was opened, and whatever the remote answers, if only it sends
nobody on: the exchange cannot be put together exactly if the server for it cannot be used, and
being opened does not tell whether it can. -/
theorem exchange_unbuildable_iff {r : Registration} (hopened : ofRegistration r = .ok s)
    {callback : Url} {code : List Char} (hcode : FirstCode callback code)
    (hstays : ∀ a, remote.Gives a → destination? (called s.exchangeUrl) a = none) :
    Exchanges s callback code remote ∧
      (IsSendable s.exchangeUrl ↔ Registration.IsUsable r.authServer s.exchangeUrl) := by
  obtain ⟨-, hexchange, -⟩ := ofRegistration_eq_ok_iff.mp hopened
  refine ⟨⟨⟨?_, ?_⟩, ?_, ?_⟩, Registration.isSendable_iff_isUsable (by decide) (by decide +kernel) hexchange⟩
  · rintro ⟨cause, hvalue⟩ h
    exact (requestToken_sendable h hstays callback code).2 _ hvalue rfl
  · intro h
    exact ⟨_, (requestToken_unsendable h callback code remote).value⟩
  · intro h
    exact (requestToken_sendable h hstays callback code).1
  · intro h
    exact (enter_makes_of_no_token ((code?_eq_some_iff callback code).mpr hcode)
      (requestToken_unsendable h callback code remote)).map (Except.map some)

end exchange

theorem exchange_unbuildable_iff_plain :
    ∃ s, ofRegistration ⟨"app", "key", "http://auth.test", "http://api.test"⟩ = .ok s ∧
      Registration.IsUsable "http://auth.test" s.exchangeUrl ∧
      Exchanges s (returnedWith "x") "x".toList (.replying [.closed]) := by
  have hopened : ofRegistration ⟨"app", "key", "http://auth.test", "http://api.test"⟩ =
      .ok ⟨⟨"app", "key", "http://auth.test", "http://api.test"⟩,
        pageAt "auth.test" ["login", "oauth", "access_token"] none,
        pageAt "api.test" ["user"] none⟩ :=
    ofRegistration_eq_ok_iff.mpr ⟨rfl, by decide +kernel, by decide +kernel⟩
  have hcode : FirstCode (returnedWith "x") "x".toList := firstCode_of_query rfl
  have hstays (a : Http.Answer) (ha : (Remote.replying [.closed]).Gives a) :
      destination? (called (pageAt "auth.test" ["login", "oauth", "access_token"] none)) a = none :=
    absurd ha (by simp [Remote.Gives])
  obtain ⟨hexchanges, husable⟩ := exchange_unbuildable_iff hopened hcode hstays
  exact ⟨_, hopened, husable.mp ⟨by decide, by decide +kernel⟩, hexchanges⟩

/-- A server that talks no protocol of the web. -/
def ftpRegistration : Registration :=
  { app := "app", key := "key", authServer := "ftp://auth.test", apiServer := "http://api.test" }

theorem exchange_unbuildable_of_opened :
    ¬∀ (r : Registration) (s : SignIn) (callback : Url) (code : List Char) (replies : List Http.Reply),
      ofRegistration r = .ok s → FirstCode callback code →
        (∀ a, .answer a ∈ replies → Http.Client.isRedirection a.status = false) →
          ∀ cause, (s.requestToken callback code (.replying replies)).value ≠
            .error ⟨.transport .unbuildable, cause⟩ := by
  intro hall
  have hopened : ofRegistration ftpRegistration = .ok ⟨ftpRegistration,
      { pageAt "auth.test" ["login", "oauth", "access_token"] none with scheme := "ftp".toList },
      pageAt "api.test" ["user"] none⟩ :=
    ofRegistration_eq_ok_iff.mpr ⟨rfl, by decide +kernel, by decide +kernel⟩
  refine hall _ _ (returnedWith "x") "x".toList [] hopened (firstCode_of_query rfl) (by simp) _
    (requestToken_unsendable ?_ _ _ _).value
  exact fun h => absurd h.web (by decide)

end SignIn

end LoginGateway.GitHub
