import LoginGateway.Proofs.GitHub.LoginSteps
import LoginGateway.Proofs.Server.CallbackAddress

/-!
What the answer to a callback depends on. Of a request the server looks at the method, the path and
the query; where no public origin is set, it looks at the first host too. Nothing else that a request
brings has a part in the answer, in the calls or in the records. Main statement:
`answer_eq_of_agree`.
-/

namespace LoginGateway.Server

namespace Callback

open Http (Target)

/-- Two callbacks agree in all that a server with these settings looks at. -/
structure Agree (settings : Settings) (r r' : Request) : Prop where
  method : r.method = r'.method
  path : r.target.path = Endpoint.callback.path.toList
  path' : r'.target.path = Endpoint.callback.path.toList
  query : queryOf r.target = queryOf r'.target
  host : settings.publicBaseUrl = none → r.headers.get? "host" = r'.headers.get? "host"

section agree

variable {settings : Settings} {r r' : Request}

theorem pathAndQuery_of_callback (hpath : r.target.path = Endpoint.callback.path.toList) :
    r.target.pathAndQuery =
      '/' :: "auth/github/callback".toList ++ Target.renderQuery (queryOf r.target) :=
  pathAndQuery_of_path hpath (by decide)

theorem Agree.pathAndQuery_eq (h : Agree settings r r') :
    r.target.pathAndQuery = r'.target.pathAndQuery := by
  rw [pathAndQuery_of_callback h.path, pathAndQuery_of_callback h.path', h.query]

theorem Agree.address_eq (h : Agree settings r r') (origin : String) :
    address origin r = address origin r' := by
  rw [address, address, h.pathAndQuery_eq]

theorem Agree.origin?_eq (h : Agree settings r r') : origin? settings r = origin? settings r' := by
  rw [origin?, origin?]
  cases hbase : settings.publicBaseUrl with
  | some base => rfl
  | none => simp only [h.host hbase]

theorem Agree.url_eq (h : Agree settings r r') : url settings r = url settings r' := by
  rw [url, url, h.origin?_eq]
  simp only [h.address_eq]

theorem Agree.answer_eq (h : Agree settings r r') (pass : Login.Pass) :
    answer settings pass r = answer settings pass r' := by
  rw [answer, answer, h.url_eq]

end agree

end Callback

namespace Router

/-- Two callbacks that agree in method, path and query have one answer, whatever their other fields,
their bodies, and the schemes and authorities in their targets are: the same response, the same calls
and the same records before every remote. Where the settings name no public origin, they must agree
in the first host as well. -/
theorem answer_eq_of_agree {g : Gateway} {r r' : Request} (h : Callback.Agree g.settings r r') :
    answer g r = answer g r' := by
  have hplace : Endpoint.ofPath? Endpoint.callback.path.toList = some .callback := by decide
  have hvisit : visit g r .callback = visit g r' .callback := by
    rw [visit, visit, get, get, h.method, h.answer_eq]
  rw [answer, answer, dispatch, dispatch, h.path, h.path', hplace]
  simp only [hvisit]

/-- A server that knows under which origin it is reached. -/
def publicSettings : Settings :=
  { Callback.plainSettings with publicBaseUrl := some "https://login.test" }

/-- A callback with the code `own` that names another server in its target and in its first host. -/
def spoofedCallback : Request where
  method := "GET"
  target := .absolute "http".toList "other.test".toList Endpoint.callback.path.toList
    (some "code=own".toList)
  headers := ⟨[("host", "other.test"), ("host", "site.test"), ("cookie", "a=b")]⟩
  body := "text".toList

theorem answer_eq_of_agree_spoofed :
    answer ⟨publicSettings, GitHub.SignIn.testSignIn.pass⟩ spoofedCallback =
      answer ⟨publicSettings, GitHub.SignIn.testSignIn.pass⟩ (Callback.callbackTo "site.test") :=
  answer_eq_of_agree ⟨rfl, rfl, rfl, rfl, fun hnone => by cases hnone⟩

end Router

end LoginGateway.Server
