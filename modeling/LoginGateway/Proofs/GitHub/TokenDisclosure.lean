import LoginGateway.Proofs.GitHub.LoginOutcome
import LoginGateway.Proofs.Http.TwinRuns

/-!
What two logins show of their tokens. Let the server answer the code exchange with one document or
with another, which bear two tokens, and let it do the same otherwise. Both logins come to the same
result. They write the same records, unless the document came under a status that refuses the
exchange; then the whole of it is in the log, and the token with it. Main statement:
`enter_hides_token_iff`.
-/

namespace LoginGateway.GitHub.SignIn

open Login
open Http (Remote Answer Reply Call Run Received TransportError)
open Http.Client (Outcomes withBodyOf)

/-- A body whose document has this token. -/
def Bears (body : Bytes) (token : AccessToken) : Prop :=
  TokenDocument.token (String.ofList (Utf8.decodeLossy body)) = .ok token

instance (body : Bytes) (token : AccessToken) : Decidable (Bears body token) :=
  inferInstanceAs (Decidable (_ = _))

/-- A reply that refuses the exchange, with a body that came in to its end. -/
def Refuses (outcome : Except TransportError Received) (body : Bytes) : Prop :=
  ∃ r, outcome = .ok r ∧ r.status ≠ .ok ∧ r.bytes = .ok body

/-! ### Two bodies of one answer -/

theorem text_of_cut {a : Answer} (hcut : a.missing ≠ 0) (url : Url) :
    Received.text ⟨a, url⟩ = .error .cutBody := by
  rw [Received.text, Received.bytes, if_neg hcut]
  rfl

/-- The same answer, or one answer with two bodies. -/
def Swapped (a : Answer) (body body' : Bytes) (x y : Answer) : Prop :=
  x = y ∨ x = { a with body := body } ∧ y = { a with body := body' }

theorem keepsHead_swapped (a : Answer) (body body' : Bytes) :
    Http.KeepsHead (Swapped a body body') := by
  rintro x y (rfl | ⟨rfl, rfl⟩)
  · exact ⟨rfl, rfl⟩
  · exact ⟨rfl, rfl⟩

theorem refuses_answer_iff (a : Answer) (url : Url) :
    Refuses (.ok ⟨a, url⟩) a.body ↔ a.status ≠ .ok ∧ a.missing = 0 := by
  constructor
  · rintro ⟨r, hr, hstatus, hbytes⟩
    cases hr
    refine ⟨hstatus, ?_⟩
    by_contra hcut
    rw [Received.bytes, if_neg hcut] at hbytes
    cases hbytes
  · rintro ⟨hstatus, hwhole⟩
    exact ⟨_, rfl, hstatus, if_pos hwhole⟩

/-- Of a document with a token nothing is written, unless its status refuses the exchange. -/
theorem tokenRecords_of_bears {a : Answer} {token : AccessToken} (h : Bears a.body token)
    (url : Url) :
    tokenRecords (.ok ⟨a, url⟩) =
      if a.status ≠ .ok then [refusalRecord "GitHub token exchange returned " ⟨a, url⟩] else [] := by
  rw [tokenRecords]
  refine if_congr Iff.rfl rfl ?_
  by_cases hwhole : a.missing = 0
  · rw [text_of_whole hwhole]
    simp only
    rw [h]
  · rw [text_of_cut hwhole]

theorem tokenFrom_of_bears {a : Answer} {token : AccessToken} (h : Bears a.body token) (url : Url) :
    tokenFrom (.ok ⟨a, url⟩) =
      if a.status ≠ .ok then
        .error (.answer (.unexpectedStatus a.status.code)
          ("token exchange returned HTTP " ++ a.status.describe))
      else if a.missing = 0 then .ok token
      else .error (.ofTransport .cutBody) := by
  rw [tokenFrom]
  refine if_congr Iff.rfl rfl ?_
  by_cases hwhole : a.missing = 0
  · rw [text_of_whole hwhole, if_pos hwhole]
    exact h
  · rw [text_of_cut hwhole, if_neg hwhole]

section swapped

variable {a : Answer} {body body' : Bytes} {token token' : AccessToken}
  {outcome outcome' : Except TransportError Received}

/-- Either the body is out of sight, or both bodies came in. -/
theorem outcomes_of_swapped (h : Outcomes (Swapped a body body') outcome outcome') :
    outcome = outcome' ∨ ∃ url, outcome = .ok ⟨{ a with body := body }, url⟩ ∧
      outcome' = .ok ⟨{ a with body := body' }, url⟩ := by
  cases h with
  | error e => exact .inl rfl
  | answer method url h =>
      rcases h with rfl | ⟨rfl, rfl⟩
      · exact .inl rfl
      · by_cases hdropped : method = "HEAD" ∨ a.status.code ∈ [101, 204, 304]
        · left
          rw [withBodyOf, withBodyOf, if_pos hdropped, if_pos hdropped]
        · right
          rw [withBodyOf, withBodyOf, if_neg hdropped, if_neg hdropped]
          exact ⟨url, rfl, rfl⟩

theorem tokenFrom_swapped (hbears : Bears body token) (hbears' : Bears body' token')
    (h : Outcomes (Swapped a body body') outcome outcome') :
    tokenFrom outcome = tokenFrom outcome' ∨
      tokenFrom outcome = .ok token ∧ tokenFrom outcome' = .ok token' := by
  obtain rfl | ⟨url, rfl, rfl⟩ := outcomes_of_swapped h
  · exact .inl rfl
  · rw [tokenFrom_of_bears (a := { a with body := body }) hbears,
      tokenFrom_of_bears (a := { a with body := body' }) hbears']
    split
    · exact .inl rfl
    · split
      · exact .inr ⟨rfl, rfl⟩
      · exact .inl rfl

theorem refusalRecord_inj (log : String) (url : Url) (hwhole : a.missing = 0) :
    refusalRecord log ⟨{ a with body := body }, url⟩ =
        refusalRecord log ⟨{ a with body := body' }, url⟩ ↔
      Utf8.decodeLossy body = Utf8.decodeLossy body' := by
  rw [refusalRecord, refusalRecord, text_of_whole (a := { a with body := body }) hwhole,
    text_of_whole (a := { a with body := body' }) hwhole]
  simp [Received.status, Except.toOption, String.append_right_inj, String.ofList_inj]

theorem tokenRecords_swapped (hbears : Bears body token) (hbears' : Bears body' token')
    (h : Outcomes (Swapped a body body') outcome outcome') :
    tokenRecords outcome = tokenRecords outcome' ↔
      (Refuses outcome body → Refuses outcome' body' →
        Utf8.decodeLossy body = Utf8.decodeLossy body') := by
  obtain rfl | ⟨url, rfl, rfl⟩ := outcomes_of_swapped h
  · refine iff_of_true rfl ?_
    rintro ⟨r, rfl, -, hbytes⟩ ⟨r', hr, -, hbytes'⟩
    cases hr
    rw [hbytes] at hbytes'
    cases hbytes'
    rfl
  · have hrefuses := refuses_answer_iff { a with body := body } url
    rw [tokenRecords_of_bears (a := { a with body := body }) hbears,
      tokenRecords_of_bears (a := { a with body := body' }) hbears']
    by_cases hrefused : a.status ≠ .ok ∧ a.missing = 0
    · have hrefuses' := refuses_answer_iff { a with body := body' } url
      rw [if_pos hrefused.1, if_pos hrefused.1, List.singleton_inj, refusalRecord_inj _ _ hrefused.2]
      exact ⟨fun hequal _ _ => hequal,
        fun hequal => hequal (hrefuses.mpr hrefused) (hrefuses'.mpr hrefused)⟩
    · refine iff_of_true ?_ fun hrefusing => absurd (hrefuses.mp hrefusing) hrefused
      by_cases hstatus : a.status ≠ .ok
      · have hcut : a.missing ≠ 0 := fun hwhole => hrefused ⟨hstatus, hwhole⟩
        rw [refusalRecord, refusalRecord, text_of_cut (a := { a with body := body }) hcut,
          text_of_cut (a := { a with body := body' }) hcut]
        rfl
      · rw [if_neg hstatus, if_neg hstatus]

end swapped

/-! ### The profile for two tokens -/

/-- Two calls that differ only in what they bring along. -/
def SameLine (c d : Call) : Prop := c.method = d.method ∧ c.url = d.url

theorem SameLine.refl (c : Call) : SameLine c c := ⟨rfl, rfl⟩

theorem keepsLine_sameLine : Http.KeepsLine SameLine where
  method _ _ h := h.1
  url _ _ h := h.2
  redirected c d h status next := by
    refine ⟨?_, rfl⟩
    cases hkeeps : Http.Client.keepsBody status <;>
      simp [Http.Client.redirected, Http.Client.withoutBody, hkeeps, h.1]

section profile

variable {token token' : AccessToken} (hlegal : Http.isHeaderValue token.secret = true)
  (hlegal' : Http.isHeaderValue token'.secret = true) (s : SignIn) (remote : Remote)

include hlegal hlegal'

theorem readProfile_alike :
    Run.Alike SameLine Eq Eq (s.readProfile token remote) (s.readProfile token' remote) := by
  rw [readProfile_eq, readProfile_eq]
  have hcall : Run.Alike SameLine Eq Eq (s.fetchProfile token remote)
      (s.fetchProfile token' remote) := by
    refine Http.Client.send_alike_eq keepsLine_sameLine ?_ ?_ remote
    · rw [authorize_legal, authorize_legal, hlegal, hlegal']
    · exact ⟨rfl, rfl⟩
  exact hcall.bind_eq fun _ last => .refl SameLine.refl _ last

theorem finish_alike :
    Run.Alike SameLine Eq Eq (s.finish (.ok token) remote) (s.finish (.ok token') remote) :=
  (readProfile_alike hlegal hlegal' s remote).bind_eq fun _ last => .refl SameLine.refl _ last

end profile

/-! ### The whole login -/

/-- A server that gives a certain answer with this body, and other replies before and after. -/
def answering (before : List Reply) (a : Answer) (after : List Reply) (body : Bytes) : Remote :=
  .replying (before ++ .answer { a with body := body } :: after)

theorem enter_value {callback : Url} {code : List Char} (hcode : code? callback = some code)
    (s : SignIn) (remote : Remote) :
    (s.enter callback remote).value =
      (s.finish (tokenFrom (s.exchangeCode callback code remote).value)
        (s.exchangeCode callback code remote).remote).value := by
  rw [enter_eq hcode, requestToken_eq]
  rfl

theorem enter_log {callback : Url} {code : List Char} (hcode : code? callback = some code)
    (s : SignIn) (remote : Remote) :
    (s.enter callback remote).log =
      ⟨.debug, logTarget, s!"Exchanging GitHub authorization code at {s.exchangeUrl.toString}"⟩ ::
        ((s.exchangeCode callback code remote).log ++
          tokenRecords (s.exchangeCode callback code remote).value ++
          (s.finish (tokenFrom (s.exchangeCode callback code remote).value)
            (s.exchangeCode callback code remote).remote).log) := by
  rw [enter_eq hcode, requestToken_eq]
  rfl

section exchange

variable (before : List Reply) (a : Answer) (after : List Reply) (body body' : Bytes)

theorem answering_alike :
    Remote.Alike (Swapped a body body') (answering before a after body)
      (answering before a after body') := by
  have hsame (replies : List Reply) :
      List.Forall₂ (Reply.Alike (Swapped a body body')) replies replies := by
    refine List.forall₂_same.mpr fun reply _ => ?_
    cases reply with
    | closed => exact .closed
    | answer x => exact .answer (.inl rfl)
  exact .replying (List.rel_append (hsame before)
    (.cons (.answer (.inr ⟨rfl, rfl⟩)) (hsame after)))

variable (s : SignIn) (callback : Url) (code : List Char)

theorem exchangeCode_alike :
    Run.Alike Eq (Swapped a body body') (Outcomes (Swapped a body body'))
      (s.exchangeCode callback code (answering before a after body))
      (s.exchangeCode callback code (answering before a after body')) :=
  Http.Client.send_alike Http.keepsLine_eq (keepsHead_swapped a body body') rfl rfl
    (answering_alike before a after body body')

theorem exchangeCode_remote :
    (s.exchangeCode callback code (answering before a after body)).remote =
      .replying ((before ++ .answer { a with body := body } :: after).drop
        (s.exchangeCode callback code (answering before a after body)).sent.length) := by
  obtain ⟨wire, outcome, rest, hmakes, -⟩ := Http.Client.send_follows "POST" s.exchangeUrl
    ((accepting "application/xml").set "content-type" "application/x-www-form-urlencoded")
    (some (Form.encode (s.exchangeForm callback code))) (answering before a after body)
  exact hmakes.rest_eq

end exchange

/-- Let a call of the code exchange be answered with one document or another, and let these bear two
tokens that can stand in a header. Both logins come to the same result. They write the same records
exactly if the exchange is not refused with these bodies, or the bodies are one text: of an answer
that is refused, all of the body is written. -/
theorem enter_hides_token_iff {s : SignIn} {callback : Url} {code : List Char}
    {before after : List Reply} {a : Answer} {body body' : Bytes} {token token' : AccessToken}
    (hcode : FirstCode callback code) (hbears : Bears body token) (hbears' : Bears body' token')
    (hlegal : Http.isHeaderValue token.secret = true)
    (hlegal' : Http.isHeaderValue token'.secret = true)
    (hreached : before.length <
      (s.exchangeCode callback code (answering before a after body)).sent.length) :
    (s.pass.enter callback (answering before a after body)).value =
        (s.pass.enter callback (answering before a after body')).value ∧
      ((s.pass.enter callback (answering before a after body)).log =
          (s.pass.enter callback (answering before a after body')).log ↔
        (Refuses (s.exchangeCode callback code (answering before a after body)).value body →
          Refuses (s.exchangeCode callback code (answering before a after body')).value body' →
          Utf8.decodeLossy body = Utf8.decodeLossy body')) := by
  have hcode := (code?_eq_some_iff callback code).mpr hcode
  have hexchange := exchangeCode_alike before a after body body' s callback code
  have hrest : (s.exchangeCode callback code (answering before a after body)).remote =
      (s.exchangeCode callback code (answering before a after body')).remote := by
    -- Both exchanges have used up the reply in which the servers differ.
    obtain ⟨k, hk⟩ := Nat.exists_eq_add_of_lt hreached
    have hk' := hk
    rw [hexchange.sent.length_eq] at hk'
    rw [exchangeCode_remote, exchangeCode_remote, hk, hk']
    simp [Nat.add_assoc, List.drop_append]
  have hfinish : Run.Alike SameLine Eq Eq
      (s.finish (tokenFrom (s.exchangeCode callback code (answering before a after body)).value)
        (s.exchangeCode callback code (answering before a after body)).remote)
      (s.finish (tokenFrom (s.exchangeCode callback code (answering before a after body')).value)
        (s.exchangeCode callback code (answering before a after body')).remote) := by
    rw [hrest]
    obtain hsame | ⟨htoken, htoken'⟩ := tokenFrom_swapped hbears hbears' hexchange.value
    · rw [hsame]
      exact .refl SameLine.refl _ _
    · rw [htoken, htoken']
      exact finish_alike hlegal hlegal' s _
  refine ⟨congrArg (Except.map some) ?_, ?_⟩
  · exact (enter_value hcode s _).trans (hfinish.value.trans (enter_value hcode s _).symm)
  · have hlog (remote : Remote) : (s.pass.enter callback remote).log = (s.enter callback remote).log :=
      List.append_nil _
    rw [hlog, hlog, enter_log hcode, enter_log hcode, hexchange.log, hfinish.log,
      List.cons_inj_right, List.append_left_inj, List.append_right_inj]
    exact tokenRecords_swapped hbears hbears' hexchange.value

def documentWith (token : String) : Bytes :=
  Utf8.encode ("<OAuth><access_token>" ++ token ++ "</access_token></OAuth>").toList

/-- A server that gives a token under this status, and no other reply. -/
def givingToken (status : Http.Status) (token : String) : Remote :=
  answering [] { status } [] (documentWith token)

theorem enter_hides_token_iff_accepted :
    (testSignIn.pass.enter (returnedWith "x") (givingToken .ok "T1")).value =
        (testSignIn.pass.enter (returnedWith "x") (givingToken .ok "T2")).value ∧
      (testSignIn.pass.enter (returnedWith "x") (givingToken .ok "T1")).log =
        (testSignIn.pass.enter (returnedWith "x") (givingToken .ok "T2")).log := by
  have hcode : FirstCode (returnedWith "x") "x".toList := firstCode_of_query rfl
  have hbears : Bears (documentWith "T1") ⟨"T1"⟩ := by decide +kernel
  have hbears' : Bears (documentWith "T2") ⟨"T2"⟩ := by decide +kernel
  have hreached : ([] : List Reply).length < (testSignIn.exchangeCode (returnedWith "x") "x".toList
      (answering [] { status := .ok } [] (documentWith "T1"))).sent.length := by decide +kernel
  have hlogins := enter_hides_token_iff hcode hbears hbears' (by decide) (by decide) hreached
  refine ⟨hlogins.1, hlogins.2.mpr ?_⟩
  rintro ⟨r, hr, hrefused, -⟩ -
  have haccepted : (testSignIn.exchangeCode (returnedWith "x") "x".toList
      (givingToken .ok "T1")).value.toOption.map (·.status) = some .ok := by decide +kernel
  change (testSignIn.exchangeCode _ _ (givingToken .ok "T1")).value = .ok r at hr
  rw [hr] at haccepted
  exact absurd (Option.some.inj haccepted) hrefused

/-- An exchange that is answered with a token under status 201 is refused, and the token is in the
log. -/
theorem enter_logs_token :
    Bears (documentWith "T1") ⟨"T1"⟩ ∧ Bears (documentWith "T2") ⟨"T2"⟩ ∧
      ((testSignIn.pass.enter (returnedWith "x")
        (givingToken { code := 201 } "T1")).log.getLast?.map (·.message) =
          some ("GitHub token exchange returned 201 Created: " ++
            "<OAuth><access_token>T1</access_token></OAuth>")) ∧
      (testSignIn.pass.enter (returnedWith "x") (givingToken { code := 201 } "T1")).log ≠
        (testSignIn.pass.enter (returnedWith "x") (givingToken { code := 201 } "T2")).log := by
  refine ⟨?_, ?_, ?_, ?_⟩ <;> decide +kernel

end LoginGateway.GitHub.SignIn
