import LoginGateway.Proofs.Http.Exchanges
import Mathlib.Data.List.Chain

/-!
What becomes of a call that is sent. It makes a chain of exchanges, each asked for by the answer
before it. The chain is short, and method and body are lost for good with the first redirection that
does not keep them (`Chain`). Main statement: `send_makes`.
-/

namespace LoginGateway.Http

namespace Exchange

/-- The answer asks for the call to be repeated as it was, at another address. -/
def keepsBody (x : Exchange) : Bool :=
  match x.reply with
  | .answer a => Client.keepsBody a.status
  | .closed => false

/-- The second call is the one that the answer to the first asks for. -/
def LeadsTo (x y : Exchange) : Prop :=
  ∃ a next, x.reply = .answer a ∧ Client.destination? x.call.url a = some next ∧
    y.call = Client.redirected x.call a.status next

end Exchange

namespace Client

/-! ### Chains of redirections -/

/-- The exchanges that a call makes with `left` redirections to spare, and what they come to. -/
inductive Follows : Nat → Call → List Exchange → Except TransportError Received → Prop
  | unreached (left : Nat) (call : Call) : Follows left call [] (.error (.unsent call.url))
  | closed (left : Nat) (call : Call) :
      Follows left call [⟨call, .closed⟩] (.error (.unsent call.url))
  | arrived {left : Nat} {call : Call} {a : Answer} : destination? call.url a = none →
      Follows left call [⟨call, .answer a⟩] (.ok ⟨withBodyOf call.method a, call.url⟩)
  | exhausted {call : Call} {a : Answer} {next : Url} : destination? call.url a = some next →
      Follows 0 call [⟨call, .answer a⟩] (.error (.redirection call.url))
  | barred {left : Nat} {call : Call} {a : Answer} {next : Url} :
      destination? call.url a = some next → isWeb next = false →
      Follows (left + 1) call [⟨call, .answer a⟩] (.error (.unbuildable (some next)))
  | moved {left : Nat} {call : Call} {a : Answer} {next : Url} {wire : List Exchange}
      {outcome : Except TransportError Received} :
      destination? call.url a = some next → isWeb next = true →
      Follows left (redirected call a.status next) wire outcome →
      Follows (left + 1) call (⟨call, .answer a⟩ :: wire) outcome

theorem follow_makes (left : Nat) (call : Call) (remote : Remote) :
    ∃ wire outcome rest, Makes (follow left call) remote wire outcome rest ∧
      Follows left call wire outcome := by
  -- Each redirection takes one of those to spare, and changes the call and the remote.
  induction left using Nat.strongRecOn generalizing call remote with
  | ind left ih =>
      obtain ⟨wire, reply, rest, hmakes, hwire⟩ := exchange_makes call remote
      rw [follow]
      cases reply with
      | closed =>
          refine ⟨wire ++ [], _, rest, hmakes.bind (.pure _ _), ?_⟩
          rcases hwire with ⟨rfl, -⟩ | rfl
          · exact .unreached left call
          · exact .closed left call
      | answer a =>
          obtain rfl : wire = [⟨call, .answer a⟩] := by simpa using hwire
          cases hnext : destination? call.url a with
          | none =>
              refine ⟨_, _, rest, hmakes.bind ?_, .arrived hnext⟩
              simp only [hnext]
              exact .pure _ _
          | some next =>
              cases left with
              | zero =>
                  refine ⟨_, _, rest, hmakes.bind ?_, .exhausted hnext⟩
                  simp only [hnext]
                  exact .pure _ _
              | succ left =>
                  cases hweb : isWeb next with
                  | false =>
                      refine ⟨_, _, rest, hmakes.bind ?_, .barred hnext hweb⟩
                      simp only [hnext, hweb]
                      exact .pure _ _
                  | true =>
                      obtain ⟨wire, outcome, rest', hmakes', hfollows⟩ :=
                        ih left (Nat.lt_succ_self left) (redirected call a.status next) rest
                      refine ⟨_, outcome, rest', hmakes.bind ?_, .moved hnext hweb hfollows⟩
                      simp only [hnext, hweb]
                      exact hmakes'

/-! ### What holds along a chain -/

section redirected

variable {call : Call} {status : Status}

theorem redirected_method_of_keepsBody (h : keepsBody status = true) (next : Url) :
    (redirected call status next).method = call.method := by
  simp [redirected, h]

theorem redirected_body_of_keepsBody (h : keepsBody status = true) (next : Url) :
    (redirected call status next).body = call.body := by
  simp [redirected, h]

theorem redirected_method_of_not_keepsBody (h : keepsBody status = false) (next : Url)
    (hmethod : call.method ≠ "HEAD") : (redirected call status next).method = "GET" := by
  simp [redirected, h, withoutBody, hmethod]

theorem redirected_body_of_not_keepsBody (h : keepsBody status = false) (next : Url) :
    (redirected call status next).body = none := by
  simp [redirected, h, withoutBody]

end redirected

namespace Follows

variable {left : Nat} {call : Call} {wire : List Exchange}
  {outcome : Except TransportError Received}

theorem length_le (h : Follows left call wire outcome) : wire.length ≤ left + 1 := by
  induction h with
  | moved _ _ _ ih =>
      rw [List.length_cons]
      exact Nat.succ_le_succ ih
  | _ => simp

theorem call_of_head? (h : Follows left call wire outcome) {x : Exchange}
    (hx : wire.head? = some x) : x.call = call := by
  cases h with
  | unreached => cases hx
  | _ =>
      rw [List.head?_cons, Option.some.injEq] at hx
      subst hx
      rfl

theorem isChain (h : Follows left call wire outcome) : wire.IsChain Exchange.LeadsTo := by
  induction h with
  | @moved left call a next wire outcome hnext hweb hrest ih =>
      refine List.isChain_cons.mpr ⟨?_, ih⟩
      intro y hy
      exact ⟨a, next, rfl, hnext, hrest.call_of_head? hy⟩
  | _ => simp

/-- A result comes from the last answer, which leads nowhere else. -/
theorem last_of_ok {r : Received} (h : Follows left call wire (.ok r)) :
    ∃ x a, wire.getLast? = some x ∧ x.reply = .answer a ∧
      r = ⟨withBodyOf x.call.method a, x.call.url⟩ := by
  generalize houtcome : (Except.ok r : Except TransportError Received) = outcome at h
  induction h with
  | arrived hnext =>
      cases houtcome
      exact ⟨_, _, rfl, rfl, rfl⟩
  | @moved left call a next wire outcome hnext hweb hrest ih =>
      obtain ⟨x, a', hlast, hx⟩ := ih houtcome
      exact ⟨x, a', by rw [List.getLast?_cons, hlast]; rfl, hx⟩
  | _ => cases houtcome

/-- An answer of status 200 leads nowhere else, so it is the result. -/
theorem eq_ok_of_mem (h : Follows left call wire outcome) {x : Exchange} (hx : x ∈ wire) {a : Answer}
    (hreply : x.reply = .answer a) (hstatus : a.status = .ok) :
    outcome = .ok ⟨withBodyOf x.call.method a, x.call.url⟩ := by
  have hdestination : ∀ url, destination? url a = none := by
    intro url
    rw [destination?, hstatus]
    exact if_neg (by decide)
  induction h with
  | unreached => cases hx
  | closed =>
      rw [List.mem_singleton.mp hx] at hreply
      cases hreply
  | arrived hnext =>
      rw [List.mem_singleton.mp hx] at hreply ⊢
      cases hreply
      rfl
  | exhausted hnext =>
      rw [List.mem_singleton.mp hx] at hreply
      cases hreply
      rw [hdestination] at hnext
      cases hnext
  | barred hnext =>
      rw [List.mem_singleton.mp hx] at hreply
      cases hreply
      rw [hdestination] at hnext
      cases hnext
  | moved hnext _ _ ih =>
      rcases List.mem_cons.mp hx with rfl | hx
      · cases hreply
        rw [hdestination] at hnext
        cases hnext
      · exact ih hx

/-- Method and body go along with a call exactly as long as each answer keeps them; after that the
calls are plain GETs. -/
theorem carried (h : Follows left call wire outcome) (hmethod : call.method ≠ "HEAD") {i : Nat}
    {y : Exchange} (hy : wire[i]? = some y) :
    if (wire.take i).all (·.keepsBody) then
      y.call.method = call.method ∧ y.call.body = call.body
    else y.call.method = "GET" ∧ y.call.body = none := by
  induction h generalizing i with
  | unreached => cases hy
  | @moved left call a next wire outcome hnext hweb hrest ih =>
      cases i with
      | zero =>
          obtain rfl : ⟨call, .answer a⟩ = y := by simpa using hy
          simp
      | succ i =>
          rw [List.getElem?_cons_succ] at hy
          rw [List.take_succ_cons, List.all_cons]
          cases hkeeps : keepsBody a.status with
          | true =>
              have hrec := ih (by rwa [redirected_method_of_keepsBody hkeeps]) hy
              rw [redirected_method_of_keepsBody hkeeps, redirected_body_of_keepsBody hkeeps] at hrec
              simpa [Exchange.keepsBody, hkeeps] using hrec
          | false =>
              -- A plain GET stays one, whether or not later answers would keep its body.
              have hget := redirected_method_of_not_keepsBody hkeeps next hmethod
              have hrec := ih (by rw [hget]; decide) hy
              rw [hget, redirected_body_of_not_keepsBody hkeeps, ite_self] at hrec
              simpa [Exchange.keepsBody, hkeeps] using hrec
  | _ =>
      obtain ⟨rfl, rfl⟩ : i = 0 ∧ _ = y := by simpa [List.getElem?_singleton] using hy
      simp

end Follows

/-! ### Sending -/

/-- The exchanges of one call: it goes out first, every other call is asked for by the answer before
it, and there are at most ten of these. -/
structure Chain (call : Call) (wire : List Exchange) : Prop where
  starts : ∀ x, wire.head? = some x → x.call = call
  redirects : wire.IsChain Exchange.LeadsTo
  short : wire.length ≤ redirectLimit + 1
  carried : ∀ (i : Nat) (y : Exchange), wire[i]? = some y →
    if (wire.take i).all (·.keepsBody) then
      y.call.method = call.method ∧ y.call.body = call.body
    else y.call.method = "GET" ∧ y.call.body = none

namespace Chain

variable {call : Call} {wire : List Exchange}

theorem nil (call : Call) : Chain call [] := by
  refine ⟨?_, .nil, by simp, ?_⟩
  · intro x hx
    cases hx
  · intro i y hy
    cases hy

theorem of_follows {outcome : Except TransportError Received}
    (h : Follows redirectLimit call wire outcome) (hmethod : call.method ≠ "HEAD") :
    Chain call wire :=
  ⟨fun _ => h.call_of_head?, h.isChain, h.length_le, fun _ _ => h.carried hmethod⟩

theorem method_eq (h : Chain call wire) {x : Exchange} (hx : x ∈ wire) :
    x.call.method = call.method ∨ x.call.method = "GET" := by
  obtain ⟨i, hi⟩ := List.getElem?_of_mem hx
  have hcarried := h.carried i x hi
  split at hcarried
  · exact .inl hcarried.1
  · exact .inr hcarried.1

theorem body_eq (h : Chain call wire) {x : Exchange} (hx : x ∈ wire) :
    x.call.body = call.body ∨ x.call.body = none := by
  obtain ⟨i, hi⟩ := List.getElem?_of_mem hx
  have hcarried := h.carried i x hi
  split at hcarried
  · exact .inl hcarried.2
  · exact .inr hcarried.2

end Chain

/-- Where a call for a URL goes: its name and password are left out if they can be read. -/
def called (url : Url) : Url := if (userinfo? url).isSome then url.withoutUserinfo else url

@[simp] theorem withUserinfo_url (url : Url) (headers : Headers) :
    (withUserinfo url headers).1 = called url := by
  rw [withUserinfo, called]
  cases userinfo? url <;> rfl

@[simp] theorem called_scheme (url : Url) : (called url).scheme = url.scheme := by
  rw [called]
  split <;> rfl

@[simp] theorem called_withoutUserinfo (url : Url) :
    (called url).withoutUserinfo = url.withoutUserinfo := by
  rw [called]
  split
  · cases ha : url.authority <;> simp [Url.withoutUserinfo, ha]
  · rfl

/-- The call that goes out. -/
def prepared (method : String) (url : Url) (headers : Headers) (body : Option (List Char)) : Call where
  method := method
  url := called url
  headers := withDefaults (withUserinfo url headers).2
  body := body

@[simp] theorem prepared_address (method : String) (url : Url) (headers : Headers)
    (body : Option (List Char)) :
    (prepared method url headers body).address = url.withoutUserinfo.withoutFragment.toString := by
  rw [Call.address, prepared, called_withoutUserinfo]

@[simp] theorem withBodyOf_status (method : String) (a : Answer) :
    (withBodyOf method a).status = a.status := by
  rw [withBodyOf]
  split <;> rfl

theorem withBodyOf_ok {method : String} {a : Answer} (hmethod : method ≠ "HEAD")
    (hstatus : a.status = .ok) : withBodyOf method a = a := by
  rw [withBodyOf, if_neg]
  rw [hstatus]
  simp [hmethod, Status.ok]

theorem send_eq (method : String) (url : Url) (headers : Headers) (body : Option (List Char)) :
    send method url headers body =
      if (withUserinfo url headers).2.fields.all (isHeaderValue ·.2) then
        if isWeb (called url) && isTarget (called url) then
          follow redirectLimit (prepared method url headers body)
        else pure (.error (.unbuildable (some (called url))))
      else pure (.error (.unbuildable none)) := by
  rw [send, build, prepared, ← withUserinfo_url url headers]
  cases h : (withUserinfo url headers).2.fields.all (isHeaderValue ·.2) <;> simp only [h] <;> rfl

/-- What is sent follows redirections, or does not go out. -/
theorem send_follows (method : String) (url : Url) (headers : Headers) (body : Option (List Char))
    (remote : Remote) :
    ∃ wire outcome rest, Makes (send method url headers body) remote wire outcome rest ∧
      (wire = [] ∧ (∃ e, outcome = .error e) ∨
        Follows redirectLimit (prepared method url headers body) wire outcome) := by
  rw [send_eq]
  split
  · split
    · obtain ⟨wire, outcome, rest, hmakes, hfollows⟩ :=
        follow_makes redirectLimit (prepared method url headers body) remote
      exact ⟨wire, outcome, rest, hmakes, .inr hfollows⟩
    · exact ⟨[], _, remote, .pure _ _, .inl ⟨rfl, _, rfl⟩⟩
  · exact ⟨[], _, remote, .pure _ _, .inl ⟨rfl, _, rfl⟩⟩

theorem follow_log (left : Nat) (call : Call) (remote : Remote) :
    (follow left call remote).log = [] := by
  induction left using Nat.strongRecOn generalizing call remote with
  | ind left ih =>
      rw [follow, Session.log_bind, exchange_log, List.nil_append]
      cases (Session.exchange call remote).value with
      | closed => rfl
      | answer a =>
          simp only
          cases destination? call.url a with
          | none => rfl
          | some next =>
              cases left with
              | zero => rfl
              | succ left =>
                  simp only
                  split
                  · exact ih left (Nat.lt_succ_self left) _ _
                  · rfl

/-- The client leaves it to others to write about its calls. -/
@[simp] theorem send_log (method : String) (url : Url) (headers : Headers)
    (body : Option (List Char)) (remote : Remote) :
    (send method url headers body remote).log = [] := by
  rw [send_eq]
  split
  · split
    · exact follow_log _ _ _
    · rfl
  · rfl

/-- What came of a call is what the last answer says, if one came back. An answer of status 200 does
come back, with its body as far as it came in. -/
structure Concludes (wire : List Exchange) (outcome : Except TransportError Received) : Prop where
  last : ∀ r, outcome = .ok r → ∃ x a, wire.getLast? = some x ∧ x.reply = .answer a ∧
    a.status = r.status ∧ (r.status = .ok → a = r.answer)
  accepted : ∀ x ∈ wire, ∀ a, x.reply = .answer a → a.status = .ok →
    ∃ r, outcome = .ok r ∧ r.answer = a

theorem Concludes.of_error (e : TransportError) : Concludes [] (.error e) := by
  refine ⟨?_, by simp⟩
  intro r hr
  cases hr

theorem Concludes.of_follows {call : Call} {wire : List Exchange}
    {outcome : Except TransportError Received} (h : Follows redirectLimit call wire outcome)
    (hmethod : call.method ≠ "HEAD") : Concludes wire outcome := by
  have hwithBody : ∀ x ∈ wire, ∀ a : Answer, a.status = .ok → withBodyOf x.call.method a = a := by
    intro x hx a ha
    -- Only to HEAD could an answer of status 200 come back without its body.
    refine withBodyOf_ok ?_ ha
    rcases (Chain.of_follows h hmethod).method_eq hx with h | h
    · rw [h]
      exact hmethod
    · rw [h]
      decide
  constructor
  case last =>
    rintro r rfl
    obtain ⟨x, a, hlast, hreply, rfl⟩ := h.last_of_ok
    refine ⟨x, a, hlast, hreply, (withBodyOf_status _ _).symm, ?_⟩
    intro hstatus
    rw [Received.status, withBodyOf_status] at hstatus
    exact (hwithBody x (List.mem_of_getLast? hlast) a hstatus).symm
  case accepted =>
    intro x hx a hreply hstatus
    exact ⟨_, h.eq_ok_of_mem hx hreply hstatus, hwithBody x hx a hstatus⟩

/-- What is sent makes a chain of exchanges and comes to what the last of them says. -/
theorem send_makes {method : String} (hmethod : method ≠ "HEAD") (url : Url) (headers : Headers)
    (body : Option (List Char)) (remote : Remote) :
    ∃ wire outcome rest, Makes (send method url headers body) remote wire outcome rest ∧
      Chain (prepared method url headers body) wire ∧ Concludes wire outcome := by
  obtain ⟨wire, outcome, rest, hmakes, ⟨rfl, e, rfl⟩ | hfollows⟩ :=
    send_follows method url headers body remote
  · exact ⟨[], _, rest, hmakes, .nil _, .of_error e⟩
  · exact ⟨wire, outcome, rest, hmakes, .of_follows hfollows hmethod, .of_follows hfollows hmethod⟩

end Client

end LoginGateway.Http
