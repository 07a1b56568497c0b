import LoginGateway.GitHub.SignIn
import LoginGateway.Proofs.Http.Redirections
import LoginGateway.Proofs.Url.FormPairs

/-!
The two steps of a login. Each makes one call, and both what it comes to (`tokenFrom`,
`identityFrom`) and what it writes into the log (`tokenRecords`, `profileRecords`) are functions of
what came of the call. So a login is its two calls, with what is concluded from each.
-/

namespace LoginGateway.GitHub.SignIn

open Login
open Http (Session Remote Exchange Call Makes TransportError Received)
open Http.Client (prepared)

/-- The call that exchanges a code. -/
def exchangeCall (s : SignIn) (callback : Url) (code : List Char) : Call :=
  prepared "POST" s.exchangeUrl
    ((accepting "application/xml").set "content-type" "application/x-www-form-urlencoded")
    (some (Form.encode (s.exchangeForm callback code)))

/-- The call that reads the owner of a token. -/
def profileCall (s : SignIn) (token : AccessToken) : Call :=
  prepared "GET" s.profileUrl (token.authorize (accepting "application/json")) none

def exchangeCode (s : SignIn) (callback : Url) (code : List Char) :
    Session (Except TransportError Received) :=
  Http.Client.postForm s.exchangeUrl (accepting "application/xml") (s.exchangeForm callback code)

def fetchProfile (s : SignIn) (token : AccessToken) : Session (Except TransportError Received) :=
  Http.Client.get s.profileUrl (token.authorize (accepting "application/json"))

/-- What a code exchange comes to. -/
def tokenFrom : Except TransportError Received → Except Failure AccessToken
  | .error e => .error (.ofTransport e)
  | .ok r =>
    if r.status ≠ .ok then
      .error (.answer (.unexpectedStatus r.status.code)
        ("token exchange returned HTTP " ++ r.status.describe))
    else
      match r.text with
      | .error e => .error (.ofTransport e)
      | .ok text => TokenDocument.token text

/-- What the document of a profile comes to. -/
def identityOf : Option Json → Except Failure Identity
  | none => .error (.answer .malformedBody TransportError.cutBody.message)
  | some j =>
    if j.isObject then Profile.identity j
    else .error (.answer .malformedBody "GitHub user response is not a JSON object")

/-- What a profile request comes to. -/
def identityFrom : Except TransportError Received → Except Failure Identity
  | .error e => .error (.ofTransport e)
  | .ok r =>
    if r.status ≠ .ok then
      .error (.answer (.unexpectedStatus r.status.code)
        ("user fetch returned HTTP " ++ r.status.describe))
    else identityOf (document? r)

/-- The record of a refused answer, with as much of its body as came in whole. -/
def refusalRecord (log : String) (r : Received) : Log.Record :=
  ⟨.warn, logTarget, log ++ r.status.describe ++ ": " ++ r.text.toOption.getD ""⟩

/-- What a code exchange writes once its call is over. -/
def tokenRecords : Except TransportError Received → List Log.Record
  | .error _ => [⟨.warn, logTarget, "Failed to reach GitHub token endpoint:"⟩]
  | .ok r =>
    if r.status ≠ .ok then [refusalRecord "GitHub token exchange returned " r]
    else
      match r.text with
      | .error _ => []
      | .ok text =>
        match TokenDocument.token text with
        | .ok _ => []
        | .error f => [⟨.warn, logTarget, s!"Unusable GitHub token response: {f.message}"⟩]

/-- What a profile request writes once its call is over. -/
def profileRecords : Except TransportError Received → List Log.Record
  | .error _ => [⟨.warn, logTarget, "Failed to reach GitHub user endpoint:"⟩]
  | .ok r =>
    if r.status ≠ .ok then [refusalRecord "GitHub user fetch returned " r]
    else
      match document? r with
      | none => [⟨.warn, logTarget, "Failed to parse GitHub user response:"⟩]
      | some _ => []

/-- What is concluded from the call that exchanges a code. -/
def concludeToken (outcome : Except TransportError Received) :
    Session (Except Failure AccessToken) := fun remote =>
  ⟨tokenFrom outcome, [], tokenRecords outcome, remote⟩

/-- What is concluded from the call that reads a profile. -/
def concludeProfile (outcome : Except TransportError Received) :
    Session (Except Failure Identity) := fun remote =>
  ⟨identityFrom outcome, [], profileRecords outcome, remote⟩

theorem requestToken_eq (s : SignIn) (callback : Url) (code : List Char) :
    s.requestToken callback code = (do
      write .debug s!"Exchanging GitHub authorization code at {s.exchangeUrl.toString}"
      let outcome ← s.exchangeCode callback code
      concludeToken outcome) := by
  rw [requestToken]
  refine bind_congr fun _ => bind_congr fun outcome => ?_
  funext remote
  rw [concludeToken]
  cases outcome with
  | error e => rfl
  | ok r =>
      rw [tokenFrom, tokenRecords]
      by_cases hstatus : r.status ≠ .ok
      · simp only [if_pos hstatus]
        rfl
      · simp only [if_neg hstatus]
        cases r.text with
        | error e => rfl
        | ok text =>
            simp only
            cases TokenDocument.token text with
            | ok token => rfl
            | error f => rfl

theorem readProfile_eq (s : SignIn) (token : AccessToken) :
    s.readProfile token = s.fetchProfile token >>= concludeProfile := by
  rw [readProfile]
  refine bind_congr fun outcome => ?_
  funext remote
  rw [concludeProfile]
  cases outcome with
  | error e => rfl
  | ok r =>
      rw [identityFrom, profileRecords]
      by_cases hstatus : r.status ≠ .ok
      · simp only [if_pos hstatus]
        rfl
      · simp only [if_neg hstatus]
        cases document? r with
        | none => rfl
        | some j =>
            rw [identityOf]
            cases hobject : j.isObject <;> simp only [hobject] <;> rfl

theorem requestToken_makes {s : SignIn} {callback : Url} {code : List Char} {remote rest : Remote}
    {wire : List Exchange} {outcome : Except TransportError Received}
    (h : Makes (s.exchangeCode callback code) remote wire outcome rest) :
    Makes (s.requestToken callback code) remote wire (tokenFrom outcome) rest := by
  rw [requestToken_eq]
  exact .bind_silent (.write _ _ _ _) (h.silent_bind ⟨rfl, rfl, .done _, rfl⟩)

theorem readProfile_makes {s : SignIn} {token : AccessToken} {remote rest : Remote}
    {wire : List Exchange} {outcome : Except TransportError Received}
    (h : Makes (s.fetchProfile token) remote wire outcome rest) :
    Makes (s.readProfile token) remote wire (identityFrom outcome) rest := by
  rw [readProfile_eq]
  exact h.silent_bind ⟨rfl, rfl, .done _, rfl⟩

theorem requestToken_log (s : SignIn) (callback : Url) (code : List Char) (remote : Remote) :
    (s.requestToken callback code remote).log =
      ⟨.debug, logTarget, s!"Exchanging GitHub authorization code at {s.exchangeUrl.toString}"⟩ ::
        tokenRecords (s.exchangeCode callback code remote).value := by
  have hcall : (s.exchangeCode callback code remote).log = [] := Http.Client.send_log _ _ _ _ _
  rw [requestToken_eq, Session.log_bind, Session.log_bind]
  change [_] ++ ((s.exchangeCode callback code remote).log ++ _) = _
  rw [hcall]
  rfl

theorem readProfile_log (s : SignIn) (token : AccessToken) (remote : Remote) :
    (s.readProfile token remote).log = profileRecords (s.fetchProfile token remote).value := by
  have hcall : (s.fetchProfile token remote).log = [] := Http.Client.send_log _ _ _ _ _
  rw [readProfile_eq, Session.log_bind, hcall]
  rfl

theorem tokenRecords_warn {outcome : Except TransportError Received} {record : Log.Record}
    (h : record ∈ tokenRecords outcome) : record.level = .warn ∧ record.target = logTarget := by
  fun_cases tokenRecords outcome <;> simp_all [tokenRecords, refusalRecord]

theorem profileRecords_warn {outcome : Except TransportError Received} {record : Log.Record}
    (h : record ∈ profileRecords outcome) : record.level = .warn ∧ record.target = logTarget := by
  fun_cases profileRecords outcome <;> simp_all [profileRecords, refusalRecord]

/-- Whatever is wrong with the text of an answer, it is the answer that is at fault. -/
theorem isAnswer_of_token {text : String} {f : Failure}
    (h : TokenDocument.token text = .error f) : f.isAnswer = true := by
  rw [TokenDocument.token] at h
  split at h
  · rw [TokenDocument.tokenOf] at h
    split at h
    · split at h
      · cases h
      · cases h
        rfl
    · cases h
      rfl
  · cases h
    rfl

/-! ### A login as its steps -/

/-- What a login does once the code exchange is over. -/
def finish (s : SignIn) : Except Failure AccessToken → Session (Except Failure Identity)
  | .error f => pure (.error f)
  | .ok token => do
    match ← s.readProfile token with
    | .error f => pure (.error f)
    | .ok identity =>
      write .info s!"GitHub login completed for {identity.urn}"
      pure (.ok identity)

theorem enter_eq {callback : Url} {code : List Char} (hcode : code? callback = some code)
    (s : SignIn) : s.enter callback = s.requestToken callback code >>= s.finish := by
  rw [enter, hcode]
  refine bind_congr fun result => ?_
  cases result with
  | error f => rfl
  | ok token => rfl

section enter

variable {s : SignIn} {callback : Url} {code : List Char} {token : AccessToken}
  {identity : Identity} {failure : Failure} {remote middle rest : Remote}
  {exchange profile : List Exchange}

theorem enter_makes_of_no_code (hcode : code? callback = none) (remote : Remote) :
    Makes (s.enter callback) remote [] (.error missingCode) remote := by
  rw [enter, hcode]
  exact .pure _ _

theorem enter_makes_of_no_token (hcode : code? callback = some code)
    (hexchange : Makes (s.requestToken callback code) remote exchange (.error failure) middle) :
    Makes (s.enter callback) remote exchange (.error failure) middle := by
  rw [enter_eq hcode]
  exact hexchange.silent_bind (.pure _ _)

theorem enter_makes_of_token {result : Except Failure Identity}
    (hcode : code? callback = some code)
    (hexchange : Makes (s.requestToken callback code) remote exchange (.ok token) middle)
    (hprofile : Makes (s.readProfile token) middle profile result rest) :
    Makes (s.enter callback) remote (exchange ++ profile) result rest := by
  rw [enter_eq hcode]
  refine hexchange.bind (hprofile.silent_bind ?_)
  cases result with
  | error f => exact .pure _ _
  | ok identity => exact .bind_silent (.write _ _ _ _) (.pure _ _)

end enter

/-! ### The code -/

/-- The first value under the name `code` in the address. -/
def FirstCode (callback : Url) (code : List Char) : Prop :=
  ∃ before after, callback.queryPairs = before ++ ("code".toList, code) :: after ∧
    ∀ p ∈ before, p.1 ≠ "code".toList

theorem code?_eq_some_iff (callback : Url) (code : List Char) :
    code? callback = some code ↔ FirstCode callback code := by
  rw [code?, Option.map_eq_some_iff]
  constructor
  · rintro ⟨⟨name, value⟩, hfind, rfl⟩
    obtain ⟨hname, before, after, hpairs, hbefore⟩ := List.find?_eq_some_iff_append.mp hfind
    obtain rfl : name = "code".toList := by simpa using hname
    refine ⟨before, after, hpairs, ?_⟩
    intro p hp
    simpa using hbefore p hp
  · rintro ⟨before, after, hpairs, hbefore⟩
    refine ⟨("code".toList, code), ?_, rfl⟩
    refine List.find?_eq_some_iff_append.mpr ⟨beq_self_eq_true _, before, after, hpairs, ?_⟩
    intro p hp
    simpa using hbefore p hp

theorem code?_eq_none_iff (callback : Url) :
    code? callback = none ↔ ∀ p ∈ callback.queryPairs, p.1 ≠ "code".toList := by
  simp [code?]

theorem firstCode_of_query {callback : Url} {code : List Char}
    (h : callback.query = some (Form.encode [("code".toList, code)])) : FirstCode callback code := by
  refine ⟨[], [], ?_, by simp⟩
  rw [Url.queryPairs, h]
  exact Form.decode_encode _

/-! ### A pass -/

/-- A pass is opened with the registration and its two endpoints. -/
theorem ofRegistration_eq_ok_iff {r : Registration} {s : SignIn} :
    ofRegistration r = .ok s ↔ s.registration = r ∧ r.exchangeUrl = .ok s.exchangeUrl ∧
      r.profileUrl = .ok s.profileUrl := by
  obtain ⟨registration, exchangeUrl, profileUrl⟩ := s
  rw [ofRegistration]
  cases hexchange : r.exchangeUrl with
  | error f => simp [bind, Except.bind]
  | ok url =>
      cases hprofile : r.profileUrl with
      | error f => simp [bind, Except.bind]
      | ok url' => simp [bind, Except.bind, eq_comm]

/-! ### A login at fixed addresses -/

/-- The address of a page on a plain server. -/
def pageAt (host : String) (path : List String) (query : Option (List Char)) : Url where
  scheme := "http".toList
  authority := some { host := .name host.toList }
  path := .segments (path.map String.toList)
  query := query
  fragment := none

/-- The address under which a user comes back with a code. -/
def returnedWith (code : String) : Url :=
  pageAt "site.test" ["callback"] (some (Form.encode [("code".toList, code.toList)]))

def testSignIn : SignIn where
  registration := { app := "app", key := "key" }
  exchangeUrl := pageAt "auth.test" ["login", "oauth", "access_token"] none
  profileUrl := pageAt "api.test" ["user"] none

end LoginGateway.GitHub.SignIn
