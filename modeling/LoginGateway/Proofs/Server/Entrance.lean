import LoginGateway.Proofs.Server.PassPipeline

/-!
Which requests come to the pass. The callback is the only entrance, for GET and for HEAD and under
its very path; behind every other request nobody is asked, and the answer is settled before
settings, pass and remote are known. HEAD tells all that GET tells but the body. Main statement:
`answer_entrance`.
-/

namespace LoginGateway.Server

open Http (Remote Run)

def Request.withMethod (r : Request) (method : String) : Request := { r with method := method }

/-! ### Places -/

/-- Only the path of a place, letter by letter, leads there. -/
theorem Endpoint.ofPath?_eq_some_iff {path : List Char} {e : Endpoint} :
    ofPath? path = some e ↔ path = e.path.toList := by
  constructor
  · intro h
    have hpath := List.find?_some h
    exact (eq_of_beq hpath).symm
  · rintro rfl
    cases e <;> decide

/-- Neither a slash more nor an escaped letter leads to the callback. -/
example : Endpoint.ofPath? "/auth/github/callback/".toList = none ∧
    Endpoint.ofPath? "//auth/github/callback".toList = none ∧
    Endpoint.ofPath? "/auth/github/%63allback".toList = none := by decide

namespace Router

/-- The request comes to the entrance. -/
def IsEntry (r : Request) : Prop :=
  (r.method = "GET" ∨ r.method = "HEAD") ∧ r.target.path = "/auth/github/callback".toList

/-! ### Requests for other places -/

theorem get_closed {e : Endpoint} (he : e ≠ .callback) (r : Request) :
    ∃ response, ∀ g, get g r e = pure response := by
  cases e with
  | callback => exact absurd rfl he
  | health => exact ⟨_, fun _ => rfl⟩
  | manual => exact ⟨_, fun _ => rfl⟩
  | manualPage => exact ⟨_, fun _ => rfl⟩

theorem visit_closed {r : Request} {e : Endpoint}
    (h : ¬((r.method = "GET" ∨ r.method = "HEAD") ∧ e = .callback)) :
    ∃ response, ∀ g, visit g r e = pure response := by
  by_cases hmethod : r.method = "GET" ∨ r.method = "HEAD"
  · obtain ⟨response, hget⟩ := get_closed (fun he => h ⟨hmethod, he⟩) r
    by_cases hplain : r.method = "GET"
    · refine ⟨response.withLength, fun g => ?_⟩
      rw [visit, if_pos hplain, hget, pure_bind]
    · refine ⟨response.withLength.withoutBody, fun g => ?_⟩
      rw [visit, if_neg hplain, if_pos (hmethod.resolve_left hplain), hget, pure_bind]
  · obtain ⟨hplain, hhead⟩ := not_or.mp hmethod
    refine ⟨methodNotAllowed, fun g => ?_⟩
    rw [visit, if_neg hplain, if_neg hhead]

theorem dispatch_closed {r : Request} (h : ¬IsEntry r) :
    ∃ response, ∀ g, dispatch g r = pure response := by
  cases hplace : Endpoint.ofPath? r.target.path with
  | none =>
      refine ⟨notFound r.target, fun g => ?_⟩
      rw [dispatch, hplace]
  | some e =>
      obtain ⟨response, hvisit⟩ : ∃ response, ∀ g, visit g r e = pure response := by
        refine visit_closed ?_
        rintro ⟨hmethod, rfl⟩
        exact h ⟨hmethod, Endpoint.ofPath?_eq_some_iff.mp hplace⟩
      refine ⟨response, fun g => ?_⟩
      rw [dispatch, hplace]
      exact hvisit g

/-! ### HEAD -/

/-- The one run does what the other does, and its response is that of the other without the body. -/
structure AnswersHead (head get : Run Response) : Prop where
  status : head.value.status = get.value.status
  headers : head.value.headers = get.value.headers
  body : head.value.body = ""
  sent : head.sent = get.sent
  log : head.log = get.log
  remote : head.remote = get.remote

/-- No place looks at the method itself. -/
theorem get_withMethod (g : Gateway) (r : Request) (method : String) (e : Endpoint) :
    get g (r.withMethod method) e = get g r e := by
  cases e <;> rfl

theorem visit_get (g : Gateway) (r : Request) (e : Endpoint) :
    visit g (r.withMethod "GET") e = (do
      let response ← get g r e
      pure response.withLength) := by
  have hmethod : (r.withMethod "GET").method = "GET" := rfl
  rw [visit, if_pos hmethod, get_withMethod]

theorem visit_head (g : Gateway) (r : Request) (e : Endpoint) :
    visit g (r.withMethod "HEAD") e = (do
      let response ← get g r e
      pure response.withLength.withoutBody) := by
  have hmethod : (r.withMethod "HEAD").method = "HEAD" := rfl
  rw [visit, if_neg (by simp [hmethod]), if_pos hmethod, get_withMethod]

/-- A response for no known place never has a body. -/
theorem notFound_body (target : Http.Target) : (notFound target).body = "" := by
  rw [notFound]
  split <;> rfl

theorem answer_head (g : Gateway) (r : Request) (remote : Remote) :
    AnswersHead (answer g (r.withMethod "HEAD") remote) (answer g (r.withMethod "GET") remote) := by
  have htarget (method : String) : (r.withMethod method).target = r.target := rfl
  rw [answer, answer, dispatch, dispatch, htarget, htarget]
  cases Endpoint.ofPath? r.target.path with
  | none => exact ⟨rfl, rfl, notFound_body r.target, rfl, rfl, rfl⟩
  | some e =>
      simp only [visit_get, visit_head]
      exact ⟨rfl, rfl, rfl, rfl, rfl, rfl⟩

/-! ### The entrance -/

/-- Behind the entrance the pass enters once, with the address of the callback, and all calls are
its own. Without it nobody is asked. -/
structure Entrance (r : Request) : Prop where
  closed : ¬IsEntry r → ∃ response, ∀ g remote, answer g r remote = ⟨response, [], [], remote⟩
  opened : IsEntry r → ∀ g href, Callback.href? g.settings r = some href → ∀ remote,
    (answer g r remote).sent = (g.pass.enter href remote).sent ∧
      (answer g r remote).remote = (g.pass.enter href remote).remote
  head : ∀ g remote,
    AnswersHead (answer g (r.withMethod "HEAD") remote) (answer g (r.withMethod "GET") remote)

theorem answer_opened {r : Request} (h : IsEntry r) {g : Gateway} {href : Url}
    (hhref : Callback.href? g.settings r = some href) (remote : Remote) :
    (answer g r remote).sent = (g.pass.enter href remote).sent ∧
      (answer g r remote).remote = (g.pass.enter href remote).remote := by
  have hpath : (r.withMethod "GET").target.path = Endpoint.callback.path.toList := h.2
  have hsame : Callback.href? g.settings (r.withMethod "GET") = some href := hhref
  have hget := Callback.answer_apply (Callback.shows_of_href? rfl hpath hsame) g.pass remote
  rcases h.1 with hmethod | hmethod
  · have hself : r.withMethod "GET" = r := by rw [Request.withMethod, ← hmethod]
    rw [hself] at hget
    rw [hget]
    exact ⟨rfl, rfl⟩
  · have hself : r.withMethod "HEAD" = r := by rw [Request.withMethod, ← hmethod]
    have hhead := answer_head g r remote
    rw [hself] at hhead
    rw [hhead.sent, hhead.remote, hget]
    exact ⟨rfl, rfl⟩

/-- The callback is the only entrance, whatever the method, the target and the header fields are. -/
theorem answer_entrance (r : Request) : Entrance r where
  closed h := by
    obtain ⟨response, hdispatch⟩ := dispatch_closed h
    refine ⟨withVersion response, fun g remote => ?_⟩
    rw [answer, hdispatch]
    rfl
  opened h g href hhref remote := answer_opened h hhref remote
  head g remote := answer_head g r remote

end Router

end LoginGateway.Server
