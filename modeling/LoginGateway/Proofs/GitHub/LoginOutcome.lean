import LoginGateway.Proofs.GitHub.LoginSteps
import LoginGateway.Proofs.Http.DirectCalls

/-!
What a login comes to when the provider sends nobody on. Each way out of a login is one rule, with
its result and the calls that were made (`ComesTo`); the rules say of every run what it comes to.
Main statement: `enter_comesTo_iff`.
-/

namespace LoginGateway.GitHub.SignIn

open Login
open Http (Session Remote Exchange Call Makes TransportError Received Reply Answer isHeaderValue)
open Http.Client (called isTarget destination? received)

/-! ### Rules -/

/-- What a reply to the code exchange comes to. -/
inductive TokenReply (s : SignIn) : Reply → Except Failure AccessToken → Prop
  | closed : TokenReply s .closed (.error (.ofTransport (.unsent (called s.exchangeUrl))))
  | status {a : Answer} : a.status ≠ .ok →
      TokenReply s (.answer a) (.error (.answer (.unexpectedStatus a.status.code)
        ("token exchange returned HTTP " ++ a.status.describe)))
  | notXml {a : Answer} : a.status = .ok → Xml.Node.parse? (Utf8.decodeLossy a.body) = none →
      TokenReply s (.answer a) (.error (.answer .malformedBody "XML"))
  | otherRoot {a : Answer} {root : Xml.Node} : a.status = .ok →
      Xml.Node.parse? (Utf8.decodeLossy a.body) = some root → root.isNamed "OAuth" = false →
      TokenReply s (.answer a) (.error (.answer .missingAccessToken
        ("expected <OAuth> root, found <" ++ String.ofList root.name ++ ">")))
  | noToken {a : Answer} {root : Xml.Node} : a.status = .ok →
      Xml.Node.parse? (Utf8.decodeLossy a.body) = some root → root.isNamed "OAuth" = true →
      (root.child? "access_token").bind Xml.Node.text? = none →
      TokenReply s (.answer a) (.error (.answer .missingAccessToken (TokenDocument.reason root)))
  | token {a : Answer} {root : Xml.Node} {text : List Char} : a.status = .ok →
      Xml.Node.parse? (Utf8.decodeLossy a.body) = some root → root.isNamed "OAuth" = true →
      (root.child? "access_token").bind Xml.Node.text? = some text →
      TokenReply s (.answer a) (.ok ⟨String.ofList text⟩)

/-- What a reply to the profile request comes to. -/
inductive ProfileReply (s : SignIn) : Reply → Except Failure Identity → Prop
  | closed : ProfileReply s .closed (.error (.ofTransport (.unsent (called s.profileUrl))))
  | status {a : Answer} : a.status ≠ .ok →
      ProfileReply s (.answer a) (.error (.answer (.unexpectedStatus a.status.code)
        ("user fetch returned HTTP " ++ a.status.describe)))
  | notJson {a : Answer} : a.status = .ok → (Utf8.decode? a.body).bind Json.read? = none →
      ProfileReply s (.answer a)
        (.error (.answer .malformedBody "error decoding response body"))
  | notObject {a : Answer} {j : Json} : a.status = .ok →
      (Utf8.decode? a.body).bind Json.read? = some j → j.isObject = false →
      ProfileReply s (.answer a)
        (.error (.answer .malformedBody "GitHub user response is not a JSON object"))
  | noId {a : Answer} {j : Json} : a.status = .ok →
      (Utf8.decode? a.body).bind Json.read? = some j → j.isObject = true →
      (j.get? "id".toList).bind Json.int64? = none →
      ProfileReply s (.answer a)
        (.error (.login .malformedProfile "GitHub user has no numeric id"))
  | identity {a : Answer} {j : Json} {id : Int} : a.status = .ok →
      (Utf8.decode? a.body).bind Json.read? = some j → j.isObject = true →
      (j.get? "id".toList).bind Json.int64? = some id →
      ProfileReply s (.answer a) (.ok ⟨Profile.urn id, Profile.properties j⟩)

/-- What a login comes to against these replies, and its calls. Nothing is called whose address
cannot stand in a request line. -/
inductive ComesTo (s : SignIn) (callback : Url) (replies : List Reply) :
    Except Failure Identity → List Call → Prop
  | noCode : (∀ p ∈ callback.queryPairs, p.1 ≠ "code".toList) →
      ComesTo s callback replies
        (.error (.login .missingCode "code is not provided by Github")) []
  | noExchangeTarget {code : List Char} : FirstCode callback code →
      isTarget (called s.exchangeUrl) = false →
      ComesTo s callback replies
        (.error (.ofTransport (.unbuildable (some (called s.exchangeUrl))))) []
  | noToken {code : List Char} {failure : Failure} : FirstCode callback code →
      isTarget (called s.exchangeUrl) = true →
      TokenReply s (replies.headD .closed) (.error failure) →
      ComesTo s callback replies (.error failure) [s.exchangeCall callback code]
  | illegalToken {code : List Char} {token : AccessToken} : FirstCode callback code →
      isTarget (called s.exchangeUrl) = true →
      TokenReply s (replies.headD .closed) (.ok token) → isHeaderValue token.secret = false →
      ComesTo s callback replies (.error (.ofTransport (.unbuildable none)))
        [s.exchangeCall callback code]
  | noProfileTarget {code : List Char} {token : AccessToken} : FirstCode callback code →
      isTarget (called s.exchangeUrl) = true →
      TokenReply s (replies.headD .closed) (.ok token) → isHeaderValue token.secret = true →
      isTarget (called s.profileUrl) = false →
      ComesTo s callback replies (.error (.ofTransport (.unbuildable (some (called s.profileUrl)))))
        [s.exchangeCall callback code]
  | profile {code : List Char} {token : AccessToken} {result : Except Failure Identity} :
      FirstCode callback code → isTarget (called s.exchangeUrl) = true →
      TokenReply s (replies.headD .closed) (.ok token) → isHeaderValue token.secret = true →
      isTarget (called s.profileUrl) = true →
      ProfileReply s (replies.tail.headD .closed) result →
      ComesTo s callback replies result [s.exchangeCall callback code, s.profileCall token]

/-- The answer is final, came in to its end, and sends the calls of a login nowhere else. -/
structure Direct (s : SignIn) (a : Answer) : Prop where
  final : 200 ≤ a.status.code
  whole : a.missing = 0
  endsExchange : destination? (called s.exchangeUrl) a = none
  endsProfile : destination? (called s.profileUrl) a = none

/-! ### The replies -/

section replies

variable {s : SignIn} {callback : Url} {code : List Char} {token : AccessToken} {reply : Reply}

theorem received_ok {call : Call} {a : Answer} (hmethod : call.method ≠ "HEAD")
    (hstatus : a.status = .ok) : received call (.answer a) = .ok ⟨a, call.url⟩ := by
  rw [received, Http.Client.withBodyOf_ok hmethod hstatus]

theorem text_of_whole {a : Answer} (hwhole : a.missing = 0) (url : Url) :
    Received.text ⟨a, url⟩ = .ok (String.ofList (Utf8.decodeLossy a.body)) := by
  rw [Received.text, Received.bytes, if_pos hwhole]
  rfl

theorem document?_of_whole {a : Answer} (hwhole : a.missing = 0) (url : Url) :
    document? ⟨a, url⟩ = (Utf8.decode? a.body).bind Json.read? := by
  rw [document?, Received.bytes, if_pos hwhole]
  rfl

theorem tokenFrom_received_status (callback : Url) (code : List Char) {a : Answer}
    (hstatus : a.status ≠ .ok) :
    tokenFrom (received (s.exchangeCall callback code) (.answer a)) =
      .error (.answer (.unexpectedStatus a.status.code)
        ("token exchange returned HTTP " ++ a.status.describe)) := by
  rw [received, tokenFrom, Received.status, Http.Client.withBodyOf_status, if_pos hstatus]

theorem tokenFrom_received_ok (callback : Url) (code : List Char) {a : Answer}
    (hstatus : a.status = .ok) (hwhole : a.missing = 0) :
    tokenFrom (received (s.exchangeCall callback code) (.answer a)) =
      TokenDocument.token (String.ofList (Utf8.decodeLossy a.body)) := by
  rw [received_ok (show "POST" ≠ "HEAD" by decide) hstatus, tokenFrom, if_neg, text_of_whole hwhole]
  exact not_not_intro hstatus

theorem TokenReply.tokenFrom_eq {result : Except Failure AccessToken}
    (h : TokenReply s reply result) (hwhole : ∀ a, reply = .answer a → a.missing = 0)
    (callback : Url) (code : List Char) :
    tokenFrom (received (s.exchangeCall callback code) reply) = result := by
  cases h with
  | closed => rfl
  | status hstatus => exact tokenFrom_received_status callback code hstatus
  | notXml hstatus hxml =>
      rw [tokenFrom_received_ok callback code hstatus (hwhole _ rfl), TokenDocument.token,
        String.toList_ofList, hxml]
  | otherRoot hstatus hxml hroot =>
      rw [tokenFrom_received_ok callback code hstatus (hwhole _ rfl), TokenDocument.token,
        String.toList_ofList, hxml]
      exact if_neg (ne_true_of_eq_false hroot)
  | noToken hstatus hxml hroot hnone =>
      rw [tokenFrom_received_ok callback code hstatus (hwhole _ rfl), TokenDocument.token,
        String.toList_ofList, hxml]
      exact (if_pos hroot).trans (by rw [hnone])
  | token hstatus hxml hroot htext =>
      rw [tokenFrom_received_ok callback code hstatus (hwhole _ rfl), TokenDocument.token,
        String.toList_ofList, hxml]
      exact (if_pos hroot).trans (by rw [htext])

theorem exists_tokenReply (s : SignIn) (reply : Reply) : ∃ result, TokenReply s reply result := by
  cases reply with
  | closed => exact ⟨_, .closed⟩
  | answer a =>
      by_cases hstatus : a.status = .ok
      · cases hxml : Xml.Node.parse? (Utf8.decodeLossy a.body) with
        | none => exact ⟨_, .notXml hstatus hxml⟩
        | some root =>
            cases hroot : root.isNamed "OAuth" with
            | false => exact ⟨_, .otherRoot hstatus hxml hroot⟩
            | true =>
                cases htext : (root.child? "access_token").bind Xml.Node.text? with
                | none => exact ⟨_, .noToken hstatus hxml hroot htext⟩
                | some text => exact ⟨_, .token hstatus hxml hroot htext⟩
      · exact ⟨_, .status hstatus⟩

theorem identityFrom_received_status (token : AccessToken) {a : Answer}
    (hstatus : a.status ≠ .ok) :
    identityFrom (received (s.profileCall token) (.answer a)) =
      .error (.answer (.unexpectedStatus a.status.code)
        ("user fetch returned HTTP " ++ a.status.describe)) := by
  rw [received, identityFrom, Received.status, Http.Client.withBodyOf_status, if_pos hstatus]

theorem identityFrom_received_ok (token : AccessToken) {a : Answer}
    (hstatus : a.status = .ok) (hwhole : a.missing = 0) :
    identityFrom (received (s.profileCall token) (.answer a)) =
      identityOf ((Utf8.decode? a.body).bind Json.read?) := by
  rw [received_ok (show "GET" ≠ "HEAD" by decide) hstatus, identityFrom, if_neg,
    document?_of_whole hwhole]
  exact not_not_intro hstatus

theorem ProfileReply.identityFrom_eq {result : Except Failure Identity}
    (h : ProfileReply s reply result) (hwhole : ∀ a, reply = .answer a → a.missing = 0)
    (token : AccessToken) : identityFrom (received (s.profileCall token) reply) = result := by
  cases h with
  | closed => rfl
  | status hstatus => exact identityFrom_received_status token hstatus
  | notJson hstatus hjson =>
      rw [identityFrom_received_ok token hstatus (hwhole _ rfl), hjson]
      rfl
  | notObject hstatus hjson hobject =>
      rw [identityFrom_received_ok token hstatus (hwhole _ rfl), hjson]
      exact if_neg (ne_true_of_eq_false hobject)
  | noId hstatus hjson hobject hid =>
      rw [identityFrom_received_ok token hstatus (hwhole _ rfl), hjson]
      simp only [identityOf, hobject, if_true, Profile.identity, hid]
  | identity hstatus hjson hobject hid =>
      rw [identityFrom_received_ok token hstatus (hwhole _ rfl), hjson]
      simp only [identityOf, hobject, if_true, Profile.identity, hid]

theorem exists_profileReply (s : SignIn) (reply : Reply) :
    ∃ result, ProfileReply s reply result := by
  cases reply with
  | closed => exact ⟨_, .closed⟩
  | answer a =>
      by_cases hstatus : a.status = .ok
      · cases hjson : (Utf8.decode? a.body).bind Json.read? with
        | none => exact ⟨_, .notJson hstatus hjson⟩
        | some j =>
            cases hobject : j.isObject with
            | false => exact ⟨_, .notObject hstatus hjson hobject⟩
            | true =>
                cases hid : (j.get? "id".toList).bind Json.int64? with
                | none => exact ⟨_, .noId hstatus hjson hobject hid⟩
                | some id => exact ⟨_, .identity hstatus hjson hobject hid⟩
      · exact ⟨_, .status hstatus⟩

end replies

/-! ### The whole login -/

section login

variable {s : SignIn} {callback : Url} {replies : List Reply}

theorem Direct.settled {a : Answer} (h : Direct s a) : (Reply.answer a).settled = .answer a := by
  have hfinal := h.final
  rw [Reply.settled, if_neg]
  omega

theorem headD_direct (hdirect : ∀ a, .answer a ∈ replies → Direct s a) {a : Answer}
    (ha : replies.headD .closed = .answer a) : Direct s a := by
  cases replies with
  | nil => cases ha
  | cons reply replies =>
      obtain rfl : reply = .answer a := ha
      exact hdirect a List.mem_cons_self

theorem settled_headD (hdirect : ∀ a, .answer a ∈ replies → Direct s a) :
    (replies.headD .closed).settled = replies.headD .closed := by
  cases hreply : replies.headD .closed with
  | closed => rfl
  | answer a => exact (headD_direct hdirect hreply).settled

theorem requestToken_direct (hscheme : s.exchangeUrl.scheme = "http".toList)
    (htarget : isTarget (called s.exchangeUrl) = true)
    (hdirect : ∀ a, .answer a ∈ replies → Direct s a) {code : List Char}
    {result : Except Failure AccessToken} (h : TokenReply s (replies.headD .closed) result) :
    Makes (s.requestToken callback code) (.replying replies)
      [⟨s.exchangeCall callback code, replies.headD .closed⟩] result (.replying replies.tail) := by
  have hsettled := settled_headD hdirect
  rw [← h.tokenFrom_eq (fun a ha => (headD_direct hdirect ha).whole) callback code, ← hsettled]
  refine requestToken_makes (Http.Client.send_direct hscheme htarget (by decide) ?_)
  intro a ha
  rw [hsettled] at ha
  exact (headD_direct hdirect ha).endsExchange

theorem requestToken_unaddressable (htarget : isTarget (called s.exchangeUrl) = false)
    (code : List Char) (remote : Remote) :
    Makes (s.requestToken callback code) remote []
      (.error (.ofTransport (.unbuildable (some (called s.exchangeUrl))))) remote :=
  requestToken_makes (Http.Client.send_unaddressable htarget (by decide) remote)

theorem authorize_legal (token : AccessToken) :
    (token.authorize (accepting "application/json")).fields.all (isHeaderValue ·.2) =
      isHeaderValue token.secret := by
  have hmedia : isHeaderValue "application/json" = true := by decide
  have hscheme : isHeaderValue "token " = true := by decide
  simp [AccessToken.authorize, accepting, Http.Headers.add, Http.isHeaderValue_append, hmedia,
    hscheme]

theorem readProfile_direct (hscheme : s.profileUrl.scheme = "http".toList)
    (htarget : isTarget (called s.profileUrl) = true) {token : AccessToken}
    (hlegal : isHeaderValue token.secret = true)
    (hdirect : ∀ a, .answer a ∈ replies → Direct s a)
    {result : Except Failure Identity} (h : ProfileReply s (replies.headD .closed) result) :
    Makes (s.readProfile token) (.replying replies)
      [⟨s.profileCall token, replies.headD .closed⟩] result (.replying replies.tail) := by
  have hsettled := settled_headD hdirect
  rw [← h.identityFrom_eq (fun a ha => (headD_direct hdirect ha).whole) token, ← hsettled]
  refine readProfile_makes (Http.Client.send_direct hscheme htarget ?_ ?_)
  · rw [authorize_legal, hlegal]
  · intro a ha
    rw [hsettled] at ha
    exact (headD_direct hdirect ha).endsProfile

theorem readProfile_illegal {token : AccessToken} (hlegal : isHeaderValue token.secret = false)
    (remote : Remote) :
    Makes (s.readProfile token) remote [] (.error (.ofTransport (.unbuildable none))) remote := by
  refine readProfile_makes (Http.Client.send_illegal ?_ remote)
  rw [authorize_legal, hlegal]

theorem readProfile_unaddressable (htarget : isTarget (called s.profileUrl) = false)
    {token : AccessToken} (hlegal : isHeaderValue token.secret = true) (remote : Remote) :
    Makes (s.readProfile token) remote []
      (.error (.ofTransport (.unbuildable (some (called s.profileUrl))))) remote := by
  refine readProfile_makes (Http.Client.send_unaddressable htarget ?_ remote)
  rw [authorize_legal, hlegal]

/-- The rules hold of every run. -/
theorem ComesTo.makes {result : Except Failure Identity} {calls : List Call}
    (h : ComesTo s callback replies result calls)
    (hexchange : s.exchangeUrl.scheme = "http".toList)
    (hprofile : s.profileUrl.scheme = "http".toList)
    (hdirect : ∀ a, .answer a ∈ replies → Direct s a) :
    ∃ wire rest, Makes (s.enter callback) (.replying replies) wire result rest ∧
      wire.map (·.call) = calls := by
  -- The second call finds the replies that the first one left.
  have htail : ∀ a, .answer a ∈ replies.tail → Direct s a := by
    intro a ha
    exact hdirect a (List.mem_of_mem_tail ha)
  cases h with
  | noCode hnone =>
      exact ⟨_, _, enter_makes_of_no_code ((code?_eq_none_iff callback).mpr hnone) _, rfl⟩
  | noExchangeTarget hcode htarget =>
      exact ⟨_, _, enter_makes_of_no_token ((code?_eq_some_iff callback _).mpr hcode)
        (requestToken_unaddressable htarget _ _), rfl⟩
  | noToken hcode htarget htoken =>
      exact ⟨_, _, enter_makes_of_no_token ((code?_eq_some_iff callback _).mpr hcode)
        (requestToken_direct hexchange htarget hdirect htoken), rfl⟩
  | illegalToken hcode htarget htoken hlegal =>
      exact ⟨_, _, enter_makes_of_token ((code?_eq_some_iff callback _).mpr hcode)
        (requestToken_direct hexchange htarget hdirect htoken) (readProfile_illegal hlegal _), rfl⟩
  | noProfileTarget hcode htarget htoken hlegal htarget' =>
      exact ⟨_, _, enter_makes_of_token ((code?_eq_some_iff callback _).mpr hcode)
        (requestToken_direct hexchange htarget hdirect htoken)
        (readProfile_unaddressable htarget' hlegal _), rfl⟩
  | profile hcode htarget htoken hlegal htarget' hidentity =>
      exact ⟨_, _, enter_makes_of_token ((code?_eq_some_iff callback _).mpr hcode)
        (requestToken_direct hexchange htarget hdirect htoken)
        (readProfile_direct hprofile htarget' hlegal htail hidentity), rfl⟩

theorem exists_comesTo (s : SignIn) (callback : Url) (replies : List Reply) :
    ∃ result calls, ComesTo s callback replies result calls := by
  cases hcode : code? callback with
  | none => exact ⟨_, _, .noCode ((code?_eq_none_iff callback).mp hcode)⟩
  | some code =>
      rw [code?_eq_some_iff] at hcode
      cases htarget : isTarget (called s.exchangeUrl) with
      | false => exact ⟨_, _, .noExchangeTarget hcode htarget⟩
      | true =>
          obtain ⟨token, htoken⟩ := exists_tokenReply s (replies.headD .closed)
          cases token with
          | error f => exact ⟨_, _, .noToken hcode htarget htoken⟩
          | ok token =>
              cases hlegal : isHeaderValue token.secret with
              | false => exact ⟨_, _, .illegalToken hcode htarget htoken hlegal⟩
              | true =>
                  cases htarget' : isTarget (called s.profileUrl) with
                  | false =>
                      exact ⟨_, _, .noProfileTarget hcode htarget htoken hlegal htarget'⟩
                  | true =>
                      obtain ⟨result, hidentity⟩ :=
                        exists_profileReply s (replies.tail.headD .closed)
                      exact ⟨_, _, .profile hcode htarget htoken hlegal htarget' hidentity⟩

theorem ComesTo.run_eq {result : Except Failure Identity} {calls : List Call}
    (h : ComesTo s callback replies result calls)
    (hexchange : s.exchangeUrl.scheme = "http".toList)
    (hprofile : s.profileUrl.scheme = "http".toList)
    (hdirect : ∀ a, .answer a ∈ replies → Direct s a) :
    (s.pass.enter callback (.replying replies)).value = result.map some ∧
      (s.pass.enter callback (.replying replies)).sent = calls := by
  obtain ⟨wire, rest, hmakes, hcalls⟩ := h.makes hexchange hprofile hdirect
  have hpass : Makes (s.pass.enter callback) _ _ _ _ := hmakes.map (Except.map some)
  exact ⟨hpass.value, hpass.sent.trans hcalls⟩

/-- Against a provider that sends nobody on, the rules say of every login what it comes to and which
calls it makes; they leave no other way out. -/
theorem enter_comesTo_iff (hexchange : s.exchangeUrl.scheme = "http".toList)
    (hprofile : s.profileUrl.scheme = "http".toList)
    (hdirect : ∀ a, .answer a ∈ replies → Direct s a)
    (result : Except Failure (Option Identity)) (calls : List Call) :
    ((s.pass.enter callback (.replying replies)).value = result ∧
      (s.pass.enter callback (.replying replies)).sent = calls) ↔
    ∃ r, result = r.map some ∧ ComesTo s callback replies r calls := by
  constructor
  · rintro ⟨rfl, rfl⟩
    obtain ⟨r, calls, h⟩ := exists_comesTo s callback replies
    obtain ⟨hvalue, hsent⟩ := h.run_eq hexchange hprofile hdirect
    exact ⟨r, hvalue, hsent ▸ h⟩
  · rintro ⟨r, rfl, h⟩
    exact h.run_eq hexchange hprofile hdirect

end login

theorem enter_comesTo_iff_refused :
    (testSignIn.pass.enter (returnedWith "x")
      (.replying [.answer { status := .internalServerError }])).value =
        .error (.answer (.unexpectedStatus 500)
          ("token exchange returned HTTP " ++ Http.Status.internalServerError.describe)) ∧
      (testSignIn.pass.enter (returnedWith "x")
        (.replying [.answer { status := .internalServerError }])).sent =
          [testSignIn.exchangeCall (returnedWith "x") "x".toList] := by
  refine (enter_comesTo_iff rfl rfl ?_ _ _).mpr ⟨.error _, rfl, .noToken (firstCode_of_query rfl)
    (by decide +kernel) (.status (by decide))⟩
  intro a ha
  obtain rfl : a = { status := .internalServerError } := by simpa using ha
  exact ⟨by decide, rfl, by decide, by decide⟩

/-- A host that can stand in a URL but not in a request line. -/
def bracedRegistration : Registration :=
  { app := "app", key := "key", authServer := "http://a\x7bb", apiServer := "http://api.test" }

theorem enter_calls_nobody :
    ∃ s, ofRegistration bracedRegistration = .ok s ∧
      s.exchangeUrl.scheme = "http".toList ∧ s.profileUrl.scheme = "http".toList ∧
      FirstCode (returnedWith "x") "x".toList ∧
      (s.pass.enter (returnedWith "x") (.replying [.closed])).value =
        .error (.ofTransport (.unbuildable (some s.exchangeUrl))) ∧
      (s.pass.enter (returnedWith "x") (.replying [.closed])).sent = [] := by
  have hexchange : bracedRegistration.exchangeUrl =
      .ok (pageAt "a\x7bb" ["login", "oauth", "access_token"] none) := by decide +kernel
  have hprofile : bracedRegistration.profileUrl = .ok (pageAt "api.test" ["user"] none) := by
    decide +kernel
  have hcode : FirstCode (returnedWith "x") "x".toList := firstCode_of_query rfl
  refine ⟨⟨bracedRegistration, pageAt "a\x7bb" ["login", "oauth", "access_token"] none,
    pageAt "api.test" ["user"] none⟩, ?_, rfl, rfl, hcode, ?_⟩
  · rw [ofRegistration, hexchange, hprofile]
    rfl
  · exact ComesTo.run_eq (.noExchangeTarget hcode (by decide +kernel)) rfl rfl (by simp)

end LoginGateway.GitHub.SignIn
