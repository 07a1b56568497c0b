import LoginGateway.Proofs.GitHub.LoginSteps
import LoginGateway.Proofs.Server.CallbackAddress
import LoginGateway.Server.Origins

/-!
Which responses name the version of the server. The router sets the version on all that passes through
it, and the layer of origins around it leaves that alone. But the layer answers preflight requests by
itself, so those responses name no version. Main statement: `answer_values_version`.
-/

namespace LoginGateway.Server.Origins

open Http (Headers Remote)

/-! ### The layer around the router -/

/-- The names that the layer speaks of. -/
def layerNames : List String :=
  ["vary", "access-control-allow-origin", "access-control-allow-credentials"]

theorem headers_values (o : Origins) (origin : Option String) {name : String}
    (hname : name ∉ layerNames) : (o.headers origin).values name = [] := by
  simp only [layerNames, List.mem_cons, List.not_mem_nil, or_false, not_or] at hname
  obtain ⟨-, horigin, hcredentials⟩ := hname
  cases o with
  | all => simp [headers, Ne.symm horigin]
  | listed origins =>
      rw [headers]
      cases origin.filter origins.contains <;>
        simp [Ne.symm horigin, Ne.symm hcredentials]

/-- Of other names a response keeps what it had. -/
theorem withHeaders_values (o : Origins) (r : Request) (response : Response) {name : String}
    (hname : name ∉ layerNames) :
    (o.withHeaders r response).headers.values name = response.headers.values name := by
  have hvary : "vary" ≠ name := by
    rintro rfl
    exact hname (by decide)
  have hnone := headers_values o (r.headers.get? "origin") hname
  rw [← Http.Headers.contains_eq_false_iff] at hnone
  simp [withHeaders, hnone, hvary]

theorem preflight_values_version (o : Origins) (r : Request) :
    (o.preflight r).headers.values Router.versionName = [] := by
  have hnone : (o.headers (r.headers.get? "origin")).values "x-takes-version" = [] :=
    headers_values o _ (by decide)
  rw [preflight]
  split
  · simp [Response.withLength, Router.allowHeader, Router.versionName, hnone]
  · simp [Router.versionName, hnone]

/-! ### Every response -/

/-- Whatever the pass and the configured origins, the response to a request has the version once,
except that a response to OPTIONS has none. -/
theorem answer_values_version (o : Origins) (g : Gateway) (r : Request) (remote : Remote) :
    (o.answer g r remote).value.headers.values Router.versionName =
      if r.method = "OPTIONS" then [] else [Router.version] := by
  rw [answer]
  split
  · exact preflight_values_version o r
  · exact (withHeaders_values o r _ (by decide)).trans (Router.withVersion_values _)

/-- A page asks whether it may read the health of the server. -/
def healthPreflight : Request where
  method := "OPTIONS"
  target := .origin Endpoint.health.path.toList none
  headers := ⟨[("host", "site.test"), ("origin", "http://localhost:3000"),
    ("access-control-request-method", "GET")]⟩

theorem answer_without_version :
    ((listed []).answer ⟨Callback.plainSettings, GitHub.SignIn.testSignIn.pass⟩ healthPreflight
      .unreachable).value.headers.values Router.versionName = [] := by
  decide +kernel

end LoginGateway.Server.Origins
