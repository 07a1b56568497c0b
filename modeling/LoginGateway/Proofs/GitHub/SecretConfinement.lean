import LoginGateway.Proofs.GitHub.LoginPhases
import LoginGateway.Proofs.Http.Authorization

/-!
Who is sent the client secret. It stands in the body of the code exchange, and the client repeats
that body for as long as the provider answers with redirections that keep it, wherever these lead.
So the secret stays at the place of the exchange exactly if no such answer leads away from there.
Main statement: `enter_confines_iff`.
-/

namespace LoginGateway.GitHub.SignIn

open Login
open Http (Session Remote Exchange Call Makes)
open Http.Client (Chain called samePlace samePlace_trans samePlace_symm samePlace_called)

/-- The body of a call holds a field `client_secret`. -/
def CarriesSecret (call : Call) : Prop :=
  ∃ body value, call.body = some body ∧ ("client_secret".toList, value) ∈ Form.decode body

/-- No call with the secret goes to another host or port than that of the exchange. -/
def Confines (s : SignIn) (wire : List Exchange) : Prop :=
  ∀ x ∈ wire, CarriesSecret x.call → samePlace s.exchangeUrl x.call.url = true

/-- As long as each answer keeps the body, none leads to another host or port. -/
def StaysInPlace (wire : List Exchange) : Prop :=
  ∀ (i : Nat) (x y : Exchange), wire[i]? = some x → wire[i + 1]? = some y →
    (∀ z ∈ wire.take (i + 1), z.keepsBody) → samePlace x.call.url y.call.url = true

/-! ### Bodies -/

theorem carriesSecret_of_body {s : SignIn} {callback : Url} {code : List Char} {call : Call}
    (h : call.body = some (Form.encode (s.exchangeForm callback code))) : CarriesSecret call := by
  refine ⟨_, s.registration.key.toList, h, ?_⟩
  rw [Form.decode_encode]
  simp [exchangeForm]

theorem not_carriesSecret_of_body {call : Call} (h : call.body = none) : ¬ CarriesSecret call := by
  rintro ⟨body, value, hbody, -⟩
  rw [h] at hbody
  cases hbody

section chains

variable {s : SignIn} {callback : Url} {code : List Char} {token : AccessToken}
  {exchange profile : List Exchange}

theorem carriesSecret_iff_of_exchange (h : Chain (s.exchangeCall callback code) exchange) {i : Nat}
    {x : Exchange} (hx : exchange[i]? = some x) :
    CarriesSecret x.call ↔ ∀ y ∈ exchange.take i, y.keepsBody := by
  have hcarried := h.carried i x hx
  rw [← List.all_eq_true]
  split at hcarried
  · next hkeeps => exact iff_of_true (carriesSecret_of_body hcarried.2) hkeeps
  · next hkeeps => exact iff_of_false (not_carriesSecret_of_body hcarried.2) hkeeps

theorem not_carriesSecret_of_profile (h : Chain (s.profileCall token) profile) {x : Exchange}
    (hx : x ∈ profile) : ¬ CarriesSecret x.call := by
  obtain ⟨i, hi⟩ := List.getElem?_of_mem hx
  have hcarried := h.carried i x hi
  apply not_carriesSecret_of_body
  split at hcarried
  · exact hcarried.2
  · exact hcarried.2

/-- An answer of status 200 keeps no body. -/
theorem Yields.exists_not_keepsBody (h : Yields exchange token) :
    ∃ x ∈ exchange, x.keepsBody = false := by
  obtain ⟨x, a, hlast, hreply, hstatus, -⟩ := h
  refine ⟨x, List.mem_of_getLast? hlast, ?_⟩
  rw [Exchange.keepsBody, hreply]
  simp only [hstatus]
  decide

/-- The calls with the secret are the first ones of a login, up to the first answer that does not keep
the body. -/
theorem carriesSecret_iff_of_append
    (hexchange : exchange = [] ∨ ∃ code, Chain (s.exchangeCall callback code) exchange)
    (hprofile : profile = [] ∨ ∃ token, Yields exchange token ∧ Chain (s.profileCall token) profile)
    {i : Nat} {x : Exchange} (hx : (exchange ++ profile)[i]? = some x) :
    CarriesSecret x.call ↔ ∀ y ∈ (exchange ++ profile).take i, y.keepsBody := by
  by_cases hi : i < exchange.length
  · rcases hexchange with rfl | ⟨code, hchain⟩
    · cases hi
    · rw [List.getElem?_append_left hi] at hx
      rw [List.take_append_of_le_length (Nat.le_of_lt hi)]
      exact carriesSecret_iff_of_exchange hchain hx
  · have hle : exchange.length ≤ i := Nat.le_of_not_lt hi
    rw [List.getElem?_append_right hle] at hx
    have hmem : x ∈ profile := List.mem_of_getElem? hx
    rcases hprofile with rfl | ⟨token, hyields, hchain⟩
    · cases hmem
    · refine iff_of_false (not_carriesSecret_of_profile hchain hmem) ?_
      -- Every exchange of the first phase comes before, and the last of them ended in a 200.
      intro hkeeps
      obtain ⟨y, hy, hnot⟩ := hyields.exists_not_keepsBody
      have hkept : y.keepsBody = true := by
        apply hkeeps
        rw [List.take_append, List.take_of_length_le hle]
        exact List.mem_append_left _ hy
      rw [hnot] at hkept
      cases hkept

theorem head_of_append
    (hexchange : exchange = [] ∨ ∃ code, Chain (s.exchangeCall callback code) exchange)
    (hprofile : profile = [] ∨ ∃ token, Yields exchange token ∧ Chain (s.profileCall token) profile)
    {x : Exchange} (hx : (exchange ++ profile)[0]? = some x) :
    x.call.url = called s.exchangeUrl := by
  cases exchange with
  | nil =>
      rcases hprofile with rfl | ⟨token, hyields, -⟩
      · cases hx
      · obtain ⟨y, hy, -⟩ := hyields.exists_not_keepsBody
        cases hy
  | cons first exchange =>
      rcases hexchange with h | ⟨code, hchain⟩
      · cases h
      · obtain rfl : first = x := by simpa using hx
        rw [hchain.starts first rfl]
        rfl

end chains

/-! ### The whole login -/

section confinement

variable {s : SignIn} {wire : List Exchange}

/-- Up to the first answer that does not keep the body, every call stays at the place of the
exchange if no answer leads away. -/
theorem StaysInPlace.samePlace_of_kept (h : StaysInPlace wire)
    (hfirst : ∀ x, wire[0]? = some x → x.call.url = called s.exchangeUrl) {i : Nat} {x : Exchange}
    (hx : wire[i]? = some x) (hkeeps : ∀ y ∈ wire.take i, y.keepsBody) :
    samePlace s.exchangeUrl x.call.url = true := by
  induction i generalizing x with
  | zero =>
      rw [hfirst x hx]
      exact samePlace_called _
  | succ i ih =>
      obtain ⟨y, hy⟩ : ∃ y, wire[i]? = some y := by
        have hlt : i + 1 < wire.length := (List.getElem?_eq_some_iff.mp hx).1
        exact ⟨_, List.getElem?_eq_getElem (by omega)⟩
      have hbefore : ∀ z ∈ wire.take i, z.keepsBody := by
        intro z hz
        exact hkeeps z (List.take_subset_take_left wire (Nat.le_succ i) hz)
      exact samePlace_trans (ih hy hbefore) (h i y x hy hx hkeeps)

theorem confines_iff (hfirst : ∀ x, wire[0]? = some x → x.call.url = called s.exchangeUrl)
    (hcarries : ∀ (i : Nat) (x : Exchange), wire[i]? = some x →
      (CarriesSecret x.call ↔ ∀ y ∈ wire.take i, y.keepsBody)) :
    Confines s wire ↔ StaysInPlace wire := by
  constructor
  · intro h i x y hx hy hkeeps
    have hbefore : ∀ z ∈ wire.take i, z.keepsBody := by
      intro z hz
      exact hkeeps z (List.take_subset_take_left wire (Nat.le_succ i) hz)
    have hplace := h x (List.mem_of_getElem? hx) ((hcarries i x hx).mpr hbefore)
    have hplace' := h y (List.mem_of_getElem? hy) ((hcarries (i + 1) y hy).mpr hkeeps)
    exact samePlace_trans (samePlace_symm hplace) hplace'
  · intro h x hx hsecret
    obtain ⟨i, hi⟩ := List.getElem?_of_mem hx
    exact h.samePlace_of_kept hfirst hi ((hcarries i x hi).mp hsecret)

end confinement

/-- In every login the calls with the secret are the first ones, up to the first answer that does not
keep the body, and the secret stays at the place of the exchange exactly if no answer before that
leads away from the place that gave it. -/
theorem enter_confines_iff (s : SignIn) (callback : Url) (remote : Remote) :
    ∃ wire result rest, Makes (s.pass.enter callback) remote wire result rest ∧
      (∀ (i : Nat) (x : Exchange), wire[i]? = some x →
        (CarriesSecret x.call ↔ ∀ y ∈ wire.take i, y.keepsBody)) ∧
      (Confines s wire ↔ StaysInPlace wire) := by
  obtain ⟨exchange, profile, result, rest, hmakes, hexchange, hprofile, -⟩ :=
    signIn_chains s callback remote
  have hexchange : exchange = [] ∨ ∃ code, Chain (s.exchangeCall callback code) exchange :=
    hexchange.imp_right fun ⟨code, _, hchain⟩ => ⟨code, hchain⟩
  have hcarries : ∀ (i : Nat) (x : Exchange), (exchange ++ profile)[i]? = some x →
      (CarriesSecret x.call ↔ ∀ y ∈ (exchange ++ profile).take i, y.keepsBody) :=
    fun i x hx => carriesSecret_iff_of_append hexchange hprofile hx
  refine ⟨exchange ++ profile, _, rest, hmakes.map (Except.map some), hcarries, ?_⟩
  exact confines_iff (fun x hx => head_of_append hexchange hprofile hx) hcarries

/-- An answer that sends a POST on to another server. -/
def sentAway : Http.Answer where
  status := { code := 307 }
  headers := ⟨[("location", "http://other.test/")]⟩

/-- One such answer is enough: the other server is sent the secret. -/
theorem enter_sends_secret_away :
    ∃ call, (testSignIn.pass.enter (returnedWith "x") (.replying [.answer sentAway])).sent[1]? =
        some call ∧
      call.address = "http://other.test/" ∧ CarriesSecret call ∧
      samePlace testSignIn.exchangeUrl call.url = false := by
  have hsent : (testSignIn.pass.enter (returnedWith "x")
      (.replying [.answer sentAway])).sent.map (fun call => (call.url, call.body)) =
        [(testSignIn.exchangeUrl,
            some (Form.encode (testSignIn.exchangeForm (returnedWith "x") "x".toList))),
          (pageAt "other.test" [""] none,
            some (Form.encode (testSignIn.exchangeForm (returnedWith "x") "x".toList)))] := by
    decide +kernel
  obtain ⟨first, calls, hsent, -, hcalls⟩ := List.map_eq_cons_iff.mp hsent
  obtain ⟨call, rest, rfl, hcall, -⟩ := List.map_eq_cons_iff.mp hcalls
  obtain ⟨hurl, hbody⟩ := Prod.mk.inj hcall
  refine ⟨call, by rw [hsent]; rfl, ?_, carriesSecret_of_body hbody, ?_⟩
  · rw [Call.address, hurl]
    decide +kernel
  · rw [hurl]
    decide +kernel

end LoginGateway.GitHub.SignIn
