import LoginGateway.Proofs.GitHub.LoginOutcome
import LoginGateway.Proofs.Http.Authorization

/-!
Who is shown the access token. It stands in the authorization of the calls that read the profile, for
as long as none of them has left the host and port of the profile, and in no other call. A token that
cannot stand in a header goes nowhere. Main statement: `enter_confines_token`.
-/

namespace LoginGateway.GitHub.SignIn

open Login
open Http (Session Remote Exchange Call Makes IsBarredByte)
open Http.Client (samePlace broughtAuthorization basicAuthorization)

/-- An authorization of the call presents a token. -/
def CarriesToken (call : Call) : Prop :=
  ∃ text, "token " ++ text ∈ call.sentHeaders.values "authorization"

/-! ### Each phase by itself -/

theorem basicAuthorization_ne_token (name password : List Char) (text : String) :
    basicAuthorization name password ≠ "token " ++ text := by
  intro h
  have hfirst := congrArg (fun v : String => v.toList.head?) h
  simp [basicAuthorization] at hfirst

/-- What the fields of a call say of a token is all that the call says of one. -/
theorem token_mem_broughtAuthorization_iff (url : Url) (headers : Http.Headers) (text : String) :
    "token " ++ text ∈ broughtAuthorization url headers ↔
      "token " ++ text ∈ headers.values "authorization" := by
  rw [broughtAuthorization, List.mem_append, or_iff_right]
  cases Http.Client.userinfo? url with
  | none => simp
  | some p =>
      intro h
      rw [Option.map_some, Option.toList_some, List.mem_singleton] at h
      exact basicAuthorization_ne_token _ _ _ h.symm

theorem requestToken_shows_no_token (s : SignIn) (callback : Url) (code : List Char)
    (remote : Remote) :
    ∃ wire result rest, Makes (s.requestToken callback code) remote wire result rest ∧
      ∀ x ∈ wire, ¬CarriesToken x.call := by
  obtain ⟨wire, outcome, rest, hmakes, hvalues⟩ :=
    Http.Client.send_authorization "POST" s.exchangeUrl
      ((accepting "application/xml").set "content-type" "application/x-www-form-urlencoded")
      (some (Form.encode (s.exchangeForm callback code))) remote
  refine ⟨wire, tokenFrom outcome, rest, requestToken_makes hmakes, ?_⟩
  rintro x hx ⟨text, htext⟩
  obtain ⟨i, hi⟩ := List.getElem?_of_mem hx
  rw [hvalues i x hi] at htext
  split at htext
  · rw [token_mem_broughtAuthorization_iff] at htext
    simp [accepting] at htext
  · cases htext

theorem readProfile_shows_token (s : SignIn) (token : AccessToken) (remote : Remote) :
    ∃ wire result rest, Makes (s.readProfile token) remote wire result rest ∧
      ∀ (i : Nat) (x : Exchange), wire[i]? = some x → ∀ text,
        ("token " ++ text ∈ x.call.sentHeaders.values "authorization" ↔
          text = token.secret ∧ ∀ y ∈ wire.take (i + 1), samePlace s.profileUrl y.call.url) := by
  obtain ⟨wire, outcome, rest, hmakes, hvalues⟩ :=
    Http.Client.send_authorization "GET" s.profileUrl
      (token.authorize (accepting "application/json")) none remote
  refine ⟨wire, identityFrom outcome, rest, readProfile_makes hmakes, ?_⟩
  intro i x hx text
  have hfields : (token.authorize (accepting "application/json")).values "authorization" =
      ["token " ++ token.secret] := by
    simp [AccessToken.authorize, accepting]
  rw [hvalues i x hx, ← List.all_eq_true]
  split
  · next hplace =>
      rw [token_mem_broughtAuthorization_iff, hfields, List.mem_singleton, String.append_right_inj]
      exact (and_iff_left hplace).symm
  · next hplace => simp [hplace]

/-! ### The whole login -/

/-- In every login that comes to a token, the calls of the code exchange present none. The calls that
read the profile present this token and no other, exactly for as long as all of them were at the host
and port of the profile; there is no such call if the token has a byte that no header can hold. -/
theorem enter_confines_token {s : SignIn} {callback : Url} {code : List Char} {remote : Remote}
    {token : AccessToken} (hcode : FirstCode callback code)
    (htoken : (s.requestToken callback code remote).value = .ok token) :
    ∃ exchange middle profile result rest,
      Makes (s.requestToken callback code) remote exchange (.ok token) middle ∧
      Makes (s.pass.enter callback) remote (exchange ++ profile) result rest ∧
      (∀ x ∈ exchange, ¬CarriesToken x.call) ∧
      (∀ (i : Nat) (x : Exchange), profile[i]? = some x →
        (∀ text, "token " ++ text ∈ x.call.sentHeaders.values "authorization" →
          text = token.secret) ∧
        (CarriesToken x.call ↔ ∀ y ∈ profile.take (i + 1), samePlace s.profileUrl y.call.url)) ∧
      ((∃ b ∈ Utf8.encode token.secret.toList, IsBarredByte b) →
        profile = [] ∧ result = .error (.ofTransport (.unbuildable none))) := by
  obtain ⟨exchange, found, middle, hexchange, hnone⟩ :=
    requestToken_shows_no_token s callback code remote
  obtain rfl : found = .ok token := hexchange.value.symm.trans htoken
  obtain ⟨profile, result, rest, hprofile, hshows⟩ := readProfile_shows_token s token middle
  have hlogin := enter_makes_of_token ((code?_eq_some_iff callback code).mpr hcode) hexchange hprofile
  refine ⟨exchange, middle, profile, _, rest, hexchange, hlogin.map (Except.map some), hnone, ?_, ?_⟩
  · intro i x hx
    refine ⟨fun text htext => ((hshows i x hx text).mp htext).1, ?_⟩
    constructor
    · rintro ⟨text, htext⟩
      exact ((hshows i x hx text).mp htext).2
    · intro hplace
      exact ⟨token.secret, (hshows i x hx token.secret).mpr ⟨rfl, hplace⟩⟩
  · rintro ⟨b, hb, hbarred⟩
    have hlegal : Http.isHeaderValue token.secret = false := by
      rw [← Bool.not_eq_true, Http.isHeaderValue_iff]
      exact fun h => h b hb hbarred
    have hillegal := readProfile_illegal (s := s) hlegal middle
    refine ⟨hprofile.wire_unique hillegal, ?_⟩
    rw [hprofile.value.symm.trans hillegal.value]
    rfl

/-- A server that gives the token `T` and one that sends the reader of the profile away. -/
def tokenThenSentAway : List Http.Reply := [
  .answer {
    status := .ok
    body := Utf8.encode "<OAuth><access_token>T</access_token></OAuth>".toList },
  .answer { status := { code := 302 }, headers := ⟨[("location", "http://other.test/")]⟩ }]

theorem enter_confines_token_sent_away :
    ∃ exchange middle profile result rest,
      Makes (testSignIn.requestToken (returnedWith "x") "x".toList) (.replying tokenThenSentAway)
        exchange (.ok ⟨"T"⟩) middle ∧
      Makes (testSignIn.pass.enter (returnedWith "x")) (.replying tokenThenSentAway)
        (exchange ++ profile) result rest ∧
      (∀ x ∈ exchange, ¬CarriesToken x.call) ∧
      ∀ (i : Nat) (x : Exchange), profile[i]? = some x →
        (CarriesToken x.call ↔
          ∀ y ∈ profile.take (i + 1), samePlace testSignIn.profileUrl y.call.url) := by
  have hcode : FirstCode (returnedWith "x") "x".toList := firstCode_of_query rfl
  have htoken : (testSignIn.requestToken (returnedWith "x") "x".toList
      (.replying tokenThenSentAway)).value = .ok ⟨"T"⟩ := by decide +kernel
  obtain ⟨exchange, middle, profile, result, rest, hexchange, hlogin, hnone, hshows, -⟩ :=
    enter_confines_token hcode htoken
  exact ⟨exchange, middle, profile, result, rest, hexchange, hlogin, hnone,
    fun i x hx => (hshows i x hx).2⟩

end LoginGateway.GitHub.SignIn
