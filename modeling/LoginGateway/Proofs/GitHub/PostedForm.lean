import LoginGateway.Proofs.GitHub.LoginPhases
import LoginGateway.Proofs.Http.DirectCalls

/-!
The form that exchanges a code. Whatever characters stand in the credentials, the address and the
code, a reader of the form finds these four values under their four names and nothing else, and the
code is the first one in the address, whatever other codes stand behind it. Main statement:
`enter_form_exact`.
-/

namespace LoginGateway.GitHub.SignIn

open Login
open Http (Remote Exchange Call Reply)
open Http.Client (Chain called isTarget)

/-! ### What is posted -/

/-- What a login that is shown this address sends: without a code it sends nothing, and otherwise it
begins with posting the code. Whatever it posts are its own keys, that address and the first code. -/
structure Posts (s : SignIn) (href : Url) (sent : List Call) : Prop where
  silent : (∀ p ∈ href.queryPairs, p.1 ≠ "code".toList) → sent = []
  starts : ∀ call, sent.head? = some call → call.method = "POST" ∧ call.body.isSome = true
  posted : ∀ call ∈ sent, ∀ text, call.body = some text → ∃ code, FirstCode href code ∧
    Form.decode text = [
      ("client_id".toList, s.registration.app.toList),
      ("redirect_uri".toList, href.render),
      ("client_secret".toList, s.registration.key.toList),
      ("code".toList, code)]

section chains

variable {s : SignIn} {href : Url} {exchange profile : List Exchange}

/-- A profile is read only behind an exchange that was answered. -/
theorem profile_eq_nil (hprofile : profile = [] ∨
    ∃ token, Yields exchange token ∧ Chain (s.profileCall token) profile)
    (hnil : exchange = []) : profile = [] := by
  rcases hprofile with hprofile | ⟨token, ⟨x, a, hlast, -⟩, -⟩
  · exact hprofile
  · rw [hnil] at hlast
    cases hlast

theorem starts_of_chain {code : List Char}
    (hprofile : profile = [] ∨
      ∃ token, Yields exchange token ∧ Chain (s.profileCall token) profile)
    (h : Chain (s.exchangeCall href code) exchange) {x : Exchange}
    (hx : (exchange ++ profile).head? = some x) : x.call = s.exchangeCall href code := by
  cases exchange with
  | nil =>
      rw [profile_eq_nil hprofile rfl] at hx
      cases hx
  | cons y rest => exact h.starts x hx

theorem decode_of_chain {code : List Char} (h : Chain (s.exchangeCall href code) exchange)
    {x : Exchange} (hx : x ∈ exchange) {text : List Char} (htext : x.call.body = some text) :
    Form.decode text = s.exchangeForm href code := by
  rcases h.body_eq hx with hbody | hbody
  · rw [hbody] at htext
    rw [← Option.some.inj htext]
    exact Form.decode_encode _
  · rw [hbody] at htext
    cases htext

theorem body_of_profile (hprofile : profile = [] ∨
    ∃ token, Yields exchange token ∧ Chain (s.profileCall token) profile) {x : Exchange}
    (hx : x ∈ profile) : x.call.body = none := by
  rcases hprofile with rfl | ⟨token, -, hchain⟩
  · cases hx
  · exact (hchain.body_eq hx).elim id id

end chains

theorem enter_posts (s : SignIn) (href : Url) (remote : Remote) :
    Posts s href (s.pass.enter href remote).sent := by
  obtain ⟨exchange, profile, result, rest, hmakes, hexchange, hprofile, -⟩ :=
    signIn_chains s href remote
  have hsent : (s.pass.enter href remote).sent = (exchange ++ profile).map (·.call) :=
    (hmakes.map (Except.map some)).sent
  rw [hsent]
  rcases hexchange with rfl | ⟨code, hcode, hchain⟩
  · rw [profile_eq_nil hprofile rfl]
    constructor <;> simp
  · have hfirst := (code?_eq_some_iff href code).mp hcode
    constructor
    case silent =>
      intro hnone
      rw [(code?_eq_none_iff href).mpr hnone] at hcode
      cases hcode
    case starts =>
      intro call hcall
      rw [List.head?_map] at hcall
      obtain ⟨x, hx, rfl⟩ := Option.map_eq_some_iff.mp hcall
      rw [starts_of_chain hprofile hchain hx]
      exact ⟨rfl, rfl⟩
    case posted =>
      intro call hcall text htext
      obtain ⟨x, hx, rfl⟩ := List.mem_map.mp hcall
      rcases List.mem_append.mp hx with hx | hx
      · exact ⟨code, hfirst, decode_of_chain hchain hx htext⟩
      · rw [body_of_profile hprofile hx] at htext
        cases htext

/-- A call of a login that is a POST brings a form along. -/
theorem body_isSome_of_post {s : SignIn} {href : Url} {remote : Remote} {call : Call}
    (hcall : call ∈ (s.pass.enter href remote).sent) (hmethod : call.method = "POST") :
    call.body.isSome = true := by
  obtain ⟨exchange, profile, result, rest, hmakes, hexchange, hprofile, -⟩ :=
    signIn_chains s href remote
  have hsent : (s.pass.enter href remote).sent = (exchange ++ profile).map (·.call) :=
    (hmakes.map (Except.map some)).sent
  rw [hsent] at hcall
  obtain ⟨x, hx, rfl⟩ := List.mem_map.mp hcall
  rcases List.mem_append.mp hx with hx | hx
  · rcases hexchange with rfl | ⟨code, -, hchain⟩
    · cases hx
    · obtain ⟨i, hi⟩ := List.getElem?_of_mem hx
      have hcarried := hchain.carried i x hi
      split at hcarried
      · rw [hcarried.2]
        rfl
      · rw [hcarried.1] at hmethod
        exact absurd hmethod (by decide)
  · rcases hprofile with rfl | ⟨token, -, hchain⟩
    · cases hx
    · have hget : x.call.method = "GET" := (hchain.method_eq hx).elim id id
      rw [hget] at hmethod
      exact absurd hmethod (by decide)

/-! ### That it is posted -/

section plain

variable {s : SignIn} {href : Url} {code : List Char}

theorem enter_sent (hcode : code? href = some code) (s : SignIn) (remote : Remote) :
    (s.pass.enter href remote).sent =
      (s.exchangeCode href code remote).sent ++
        (s.finish (tokenFrom (s.exchangeCode href code remote).value)
          (s.exchangeCode href code remote).remote).sent := by
  have hpass : (s.pass.enter href remote).sent = (s.enter href remote).sent := List.append_nil _
  rw [hpass, enter_eq hcode, requestToken_eq]
  simp [concludeToken, write, Http.Session.write]

/-- Over a plain connection the form goes out first, if the address can stand in a request line. -/
theorem head?_sent (hscheme : s.exchangeUrl.scheme = "http".toList)
    (htarget : isTarget (called s.exchangeUrl) = true) (hcode : code? href = some code)
    (replies : List Reply) :
    (s.pass.enter href (.replying replies)).sent.head? = some (s.exchangeCall href code) := by
  have hsent : (s.exchangeCode href code (.replying replies)).sent.head? =
      some (s.exchangeCall href code) :=
    Http.Client.head?_send_sent hscheme htarget (by decide) replies
  rw [enter_sent hcode, List.head?_append, hsent]
  rfl

theorem sent_eq_nil (htarget : isTarget (called s.exchangeUrl) = false)
    (hcode : code? href = some code) (remote : Remote) :
    (s.pass.enter href remote).sent = [] := by
  have hmakes : Http.Makes (s.requestToken href code) remote [] _ remote :=
    requestToken_makes (Http.Client.send_unaddressable htarget (by decide) remote)
  exact ((enter_makes_of_no_token hcode hmakes).map (Except.map some)).sent

end plain

/-- Let the address of the exchange be a plain one, and let the user have come with a code. The form
is posted if the address can stand in a request line. Wherever it is posted, it reads as four fields
and no more: the two credentials and the address as they are, and the first code of the address. -/
theorem enter_form_exact {r : Registration} {s : SignIn} {href : Url} {code : List Char}
    (hs : ofRegistration r = .ok s) (hscheme : s.exchangeUrl.scheme = "http".toList)
    (hcode : FirstCode href code) (replies : List Reply) :
    ((∃ call ∈ (s.pass.enter href (.replying replies)).sent, call.method = "POST") ↔
        isTarget (called s.exchangeUrl) = true) ∧
      ∀ call ∈ (s.pass.enter href (.replying replies)).sent, call.method = "POST" →
        ∃ form, call.body = some form ∧ Form.decode form = [
          ("client_id".toList, r.app.toList),
          ("redirect_uri".toList, href.render),
          ("client_secret".toList, r.key.toList),
          ("code".toList, code)] := by
  have hfound := (code?_eq_some_iff href code).mpr hcode
  refine ⟨⟨?_, ?_⟩, ?_⟩
  · rintro ⟨call, hcall, -⟩
    by_contra htarget
    rw [sent_eq_nil (Bool.eq_false_iff.mpr htarget) hfound] at hcall
    cases hcall
  · intro htarget
    have hfirst := head?_sent hscheme htarget hfound replies
    exact ⟨s.exchangeCall href code, List.mem_of_head? hfirst, rfl⟩
  · intro call hcall hmethod
    obtain ⟨form, hform⟩ := Option.isSome_iff_exists.mp (body_isSome_of_post hcall hmethod)
    obtain ⟨code', hcode', hdecode⟩ := (enter_posts s href _).posted call hcall form hform
    obtain rfl : code' = code := by
      rw [(code?_eq_some_iff href code').mpr hcode', Option.some.injEq] at hfound
      exact hfound
    rw [(ofRegistration_eq_ok_iff.mp hs).1] at hdecode
    exact ⟨form, hform, hdecode⟩

/-- Credentials that are full of what a form gives a meaning to. -/
def markedRegistration : Registration where
  app := "a&client_id=b+c d"
  key := "ключ%26code=\r\n"
  authServer := "http://auth.test"
  apiServer := "http://api.test"

/-- The address of a user who brings two codes, and a part that looks like a third. -/
def markedReturn : Url :=
  pageAt "site.test" ["callback"] (some (Form.encode [
    ("state".toList, "&code=z".toList),
    ("code".toList, "x&client_secret=y+%".toList),
    ("code".toList, "other".toList)]))

theorem enter_form_exact_marked :
    ∃ s, ofRegistration markedRegistration = .ok s ∧ s.exchangeUrl.scheme = "http".toList ∧
      FirstCode markedReturn "x&client_secret=y+%".toList ∧
      (∃ call ∈ (s.pass.enter markedReturn (.replying [])).sent, call.method = "POST") ∧
      ∀ call ∈ (s.pass.enter markedReturn (.replying [])).sent, call.method = "POST" →
        ∃ form, call.body = some form ∧ Form.decode form = [
          ("client_id".toList, "a&client_id=b+c d".toList),
          ("redirect_uri".toList, markedReturn.render),
          ("client_secret".toList, "ключ%26code=\r\n".toList),
          ("code".toList, "x&client_secret=y+%".toList)] := by
  have hexchange : markedRegistration.exchangeUrl =
      .ok (pageAt "auth.test" ["login", "oauth", "access_token"] none) := by decide +kernel
  have hprofile : markedRegistration.profileUrl = .ok (pageAt "api.test" ["user"] none) := by
    decide +kernel
  have hs : ofRegistration markedRegistration = .ok ⟨markedRegistration,
      pageAt "auth.test" ["login", "oauth", "access_token"] none,
      pageAt "api.test" ["user"] none⟩ := by
    rw [ofRegistration, hexchange, hprofile]
    rfl
  have hcode : FirstCode markedReturn "x&client_secret=y+%".toList := by
    refine ⟨[("state".toList, "&code=z".toList)], [("code".toList, "other".toList)], ?_, by decide⟩
    exact Form.decode_encode _
  obtain ⟨hposted, hform⟩ := enter_form_exact hs rfl hcode []
  exact ⟨_, hs, rfl, hcode, hposted.mpr (by decide +kernel), hform⟩

end LoginGateway.GitHub.SignIn
