import LoginGateway.Proofs.GitHub.PostedForm
import LoginGateway.Proofs.Server.PassPipeline
import LoginGateway.Proofs.Url.BaseAddress

/-!
A server that knows under which origin it is reached. The origin is the text of a URL, with any
number of slashes behind it; a pass is shown the callback below that URL with the query that the
request has, and what is posted to the provider names that address. Main statement:
`answer_behind_base`.
-/

namespace LoginGateway

open Http (Call Exchange Remote Session Target)
open Http.Client (Chain)

/-! ### Slashes behind the origin -/

namespace Settings

/-- The text of a URL, with `k` slashes in place of those at its end. -/
def baseText (u : Url) (k : Nat) : String :=
  String.ofList (Text.dropEndWhile (· == '/') u.render ++ List.replicate k '/')

theorem withoutSlashes_baseText (u : Url) (k : Nat) :
    withoutSlashes (baseText u k) = baseText u 0 := by
  rw [withoutSlashes, baseText, baseText, String.toList_ofList, Text.dropEndWhile_append_replicate,
    Text.dropEndWhile_eq_rdropWhile, Text.dropEndWhile_eq_rdropWhile, List.rdropWhile_idempotent,
    List.replicate_zero, List.append_nil]

/-- A text with another character than a slash is an origin. -/
theorem nonempty_baseText {u : Url} (h : ∃ c ∈ u.render, c ≠ '/') :
    nonempty (some (baseText u 0)) = some (baseText u 0) := by
  obtain ⟨c, hc, hne⟩ := h
  have hkept : Text.dropEndWhile (· == '/') u.render ≠ [] := by
    rw [ne_eq, Text.dropEndWhile_eq_rdropWhile, List.rdropWhile_eq_nil_iff]
    intro hall
    exact hne (beq_iff_eq.mp (hall c hc))
  rw [nonempty, Option.filter_some, if_pos]
  simpa [baseText, String.isEmpty_iff] using hkept

/-- The settings look at a public origin through what is left of it without slashes. -/
theorem ofValues_eq_of_baseText {u : Url} {values values' : Key → List String} {k k' : Nat}
    (h : (values .publicBaseUrl).getLast? = some (baseText u k))
    (h' : (values' .publicBaseUrl).getLast? = some (baseText u k'))
    (hother : ∀ key, key ≠ .publicBaseUrl → values' key = values key) :
    ofValues values' = ofValues values := by
  have hbase : (values' .publicBaseUrl).getLast?.map withoutSlashes =
      (values .publicBaseUrl).getLast?.map withoutSlashes := by
    rw [h, h', Option.map_some, Option.map_some, withoutSlashes_baseText, withoutSlashes_baseText]
  simp only [ofValues, hbase, hother _ (show Key.port ≠ .publicBaseUrl by decide),
    hother _ (show Key.httpTimeoutSecs ≠ .publicBaseUrl by decide),
    hother _ (show Key.logLevelFilter ≠ .publicBaseUrl by decide),
    hother _ (show Key.runtimeEnv ≠ .publicBaseUrl by decide),
    hother _ (show Key.allowedOrigins ≠ .publicBaseUrl by decide),
    hother _ (show Key.githubApp ≠ .publicBaseUrl by decide),
    hother _ (show Key.githubKey ≠ .publicBaseUrl by decide),
    hother _ (show Key.githubAuthUrl ≠ .publicBaseUrl by decide),
    hother _ (show Key.githubApiUrl ≠ .publicBaseUrl by decide),
    hother _ (show Key.interface ≠ .publicBaseUrl by decide)]

theorem publicBaseUrl_of_ofValues {values : Key → List String} {settings : Settings}
    (h : ofValues values = .ok settings) : settings.publicBaseUrl =
      nonempty ((values .publicBaseUrl).getLast?.map withoutSlashes) := by
  simp only [ofValues, bind, Except.bind] at h
  repeat' split at h
  all_goals cases h
  rfl

end Settings

/-! ### The address -/

namespace Server.Callback

open GitHub (SignIn)
open Settings (baseText)

/-- The address is the callback below the base: it has scheme, host and port of the base, its path
goes on where that of the base ends, and its parameters are those of the request. -/
structure Continues (u : Url) (r : Request) (href : Url) : Prop where
  scheme : href.scheme = u.scheme
  authority : href.authority = u.authority
  path : href.path.render =
    Text.dropEndWhile (· == '/') u.path.render ++ Endpoint.callback.path.toList
  pairs : href.queryPairs = Form.decode ((queryOf r.target).getD [])
  fragment : href.fragment = none

/-- Every pass is entered once, with the address, and the rest is up to what it says. -/
def Enters (settings : Settings) (r : Request) (href : Url) : Prop :=
  ∃ finish : Response → Response, ∀ pass, Router.answer ⟨settings, pass⟩ r = do
    write .trace s!"Callback URI: {href.toString}"
    let result ← pass.enter href
    let response ← conclude pass result
    pure (finish response)

section origin

variable {settings : Settings} {r : Request}

/-- GET and HEAD differ only in what becomes of the response. -/
theorem exists_answer_eq (hmethod : r.method ∈ Router.allowedMethods)
    (hpath : r.target.path = Endpoint.callback.path.toList) :
    ∃ finish : Response → Response, ∀ pass : Login.Pass, Router.answer ⟨settings, pass⟩ r = (do
      let response ← answer settings pass r
      pure (finish response)) := by
  have hplace : Endpoint.ofPath? r.target.path = some .callback := by
    rw [hpath]
    decide
  simp only [Router.allowedMethods, List.mem_cons, List.not_mem_nil, or_false] at hmethod
  rcases hmethod with hget | hhead
  · refine ⟨fun response => Router.withVersion response.withLength, fun pass => ?_⟩
    rw [Router.answer, Router.dispatch, hplace]
    simp only [Router.visit, Router.get, if_pos hget, bind_assoc, pure_bind]
  · have hget : ¬r.method = "GET" := by
      rw [hhead]
      decide
    refine ⟨fun response => Router.withVersion response.withLength.withoutBody, fun pass => ?_⟩
    rw [Router.answer, Router.dispatch, hplace]
    simp only [Router.visit, Router.get, if_neg hget, if_pos hhead, bind_assoc, pure_bind]

theorem enters_of_parse (hmethod : r.method ∈ Router.allowedMethods)
    (hpath : r.target.path = Endpoint.callback.path.toList) {origin : String} {href : Url}
    (horigin : origin? settings r = some origin)
    (hparse : Url.parse (address origin r).toList = .ok href) : Enters settings r href := by
  obtain ⟨finish, hfinish⟩ := exists_answer_eq hmethod hpath
  refine ⟨finish, fun pass => ?_⟩
  rw [hfinish, answer, url, horigin]
  simp only [hparse, bind_assoc, pure_bind]
  rfl

theorem Enters.sent_eq {href : Url} (h : Enters settings r href) (pass : Login.Pass)
    (remote : Remote) :
    (Router.answer ⟨settings, pass⟩ r remote).sent = (pass.enter href remote).sent := by
  obtain ⟨finish, hfinish⟩ := h
  have hsilent := (conclude_silent pass (pass.enter href remote).value
    (pass.enter href remote).remote).1
  rw [hfinish pass]
  change [] ++ ((pass.enter href remote).sent ++ ((conclude pass _ _).sent ++ [])) = _
  rw [List.append_nil, List.nil_append]
  refine (congrArg _ hsilent).trans (List.append_nil _)

end origin

/-- The segments of the path to the callback. -/
def callbackSegments : List (List Char) :=
  ["auth".toList, "github".toList, "callback".toList]

theorem settled_of_mem_callbackSegments : ∀ p ∈ callbackSegments, Path.Settled p := by
  have hall : callbackSegments.all (fun p =>
      p.all (fun c => Percent.isAscii c && !Percent.pathSet c && !Path.isSlash true c) &&
        !Path.isDoubleDot p && !Path.isSingleDot p) = true := by decide
  intro p hp
  have hp := List.all_eq_true.mp hall p hp
  simp only [Bool.and_eq_true, List.all_eq_true, Bool.not_eq_true'] at hp
  exact {
    kept := fun c hc => (hp.1.1 c hc).1
    noSlash := fun c hc => (hp.1.1 c hc).2
    notDouble := hp.1.2
    notSingle := hp.2 }

theorem pathAndQuery_eq_renderSegments {r : Request}
    (hpath : r.target.path = Endpoint.callback.path.toList) : r.target.pathAndQuery =
      Path.renderSegments callbackSegments ++ Target.renderQuery (queryOf r.target) :=
  have hplace : r.target.path = '/' :: "auth/github/callback".toList := hpath
  pathAndQuery_of_path hplace (by decide)

theorem origin?_of_base {u : Url} (hu : Url.IsBase u) {values : Settings.Key → List String} {k : Nat}
    (hbase : (values .publicBaseUrl).getLast? = some (baseText u k)) {settings : Settings}
    (hsettings : Settings.ofValues values = .ok settings) (r : Request) :
    origin? settings r = some (baseText u 0) := by
  have hscheme : ∃ c ∈ u.render, c ≠ '/' := by
    have hfirst : 'h' ∈ u.scheme := by rcases hu.scheme with h | h <;> rw [h] <;> decide
    exact ⟨'h', by simp [Url.render, hfirst], by decide⟩
  have hpublic := Settings.publicBaseUrl_of_ofValues hsettings
  rw [hbase, Option.map_some, Settings.withoutSlashes_baseText,
    Settings.nonempty_baseText hscheme] at hpublic
  rw [origin?, hpublic]

theorem exists_continues {u : Url} (hu : Url.IsBase u) {method target body : String}
    {fields : List (String × String)} {r : Request}
    (hread : Request.read? method target fields body = some r)
    (hpath : r.target.path = Endpoint.callback.path.toList) :
    ∃ href, Url.parse (address (baseText u 0) r).toList = .ok href ∧ Continues u r href := by
  have hquery : ∀ q, queryOf r.target = some q → ∀ c ∈ q, c ≠ '#' ∧ Url.isBlank c = false :=
    fun q hq c hc => not_blank_of_isQueryChar
      (isQueryChar_of_parse? (read?_eq_some hread).2 hq c hc)
  have hne : callbackSegments ≠ [] := by decide
  obtain ⟨segments, hsegments, hparse⟩ :=
    Url.parse_behind_base hu hne settled_of_mem_callbackSegments hquery
  have haddress : (address (baseText u 0) r).toList = Text.dropEndWhile (· == '/') u.render ++
      Path.renderSegments callbackSegments ++ Target.renderQuery (queryOf r.target) := by
    rw [address, baseText, List.replicate_zero, List.append_nil, String.toList_append,
      String.toList_ofList, String.toList_ofList, pathAndQuery_eq_renderSegments hpath,
      List.append_assoc]
  refine ⟨_, (congrArg Url.parse haddress).trans hparse, rfl, rfl, ?_, ?_, hu.fragment⟩
  · obtain ⟨a, own, hparts⟩ := hu.exists_parts
    obtain rfl : own = segments := by
      rw [hparts.path] at hsegments
      exact Path.segments.inj hsegments
    have hslashes : Text.dropEndWhile (· == '/') ([] ++ Path.renderSegments own) =
        [] ++ Path.renderSegments (Path.withoutEmptyEnd own) :=
      Path.dropEndWhile_renderSegments (by simp) fun p hp => (hparts.settled p hp).noSlash
    rw [List.nil_append, List.nil_append] at hslashes
    rw [hsegments, Path.render, Path.render, hslashes, Path.renderSegments_append]
    rfl
  · rw [Url.queryPairs]
    cases queryOf r.target with
    | none => rfl
    | some q => exact Form.decode_percentEncode Form.spares_specialQuerySet q

/-- A server whose public origin is the base. How many slashes stand behind the base makes no
difference to its settings. At every callback, a pass is entered with the address below the base, and
a login through the provider posts the first code of the request together with that address. -/
structure RunsBehind (u : Url) (values : Settings.Key → List String) (settings : Settings) :
    Prop where
  alike : ∀ (values' : Settings.Key → List String) (k : Nat),
    (values' .publicBaseUrl).getLast? = some (baseText u k) →
    (∀ key, key ≠ .publicBaseUrl → values' key = values key) →
    Settings.ofValues values' = .ok settings
  callback : ∀ (method target body : String) (fields : List (String × String)) (r : Request),
    Request.read? method target fields body = some r → method ∈ Router.allowedMethods →
    r.target.path = Endpoint.callback.path.toList →
    ∃ href, Continues u r href ∧ Enters settings r href ∧
      ∀ (s : SignIn) (remote : Remote),
        s.Posts href (Router.answer ⟨settings, s.pass⟩ r remote).sent

/-- A base without user information, query and fragment is what the callback goes on from, whatever
its path is, however many slashes are behind it, and whatever the request asks with. -/
theorem answer_behind_base {u : Url} (hu : Url.IsBase u) {values : Settings.Key → List String}
    {k : Nat} (hbase : (values .publicBaseUrl).getLast? = some (baseText u k)) {settings : Settings}
    (hsettings : Settings.ofValues values = .ok settings) : RunsBehind u values settings where
  alike := by
    intro values' k' hbase' hother
    rw [← hsettings]
    exact Settings.ofValues_eq_of_baseText hbase hbase' hother
  callback := by
    intro method target body fields r hread hmethod hpath
    obtain ⟨href, hparse, hcontinues⟩ := exists_continues hu hread hpath
    have henters : Enters settings r href :=
      enters_of_parse ((read?_eq_some hread).1 ▸ hmethod) hpath
        (origin?_of_base hu hbase hsettings r) hparse
    refine ⟨href, hcontinues, henters, ?_⟩
    intro s remote
    rw [henters.sent_eq]
    exact s.enter_posts href remote

/-- A server below a path of another one. -/
def gateBase : Url where
  scheme := "https".toList
  authority := some { host := .name "site.test".toList, port := some 8443 }
  path := .segments ["gate".toList, []]
  query := none
  fragment := none

/-- What is given to the server: the base with two slashes, and nothing else. -/
def gateValues (key : Settings.Key) : List String :=
  if key = .publicBaseUrl then ["https://site.test:8443/gate//"] else key.fallback?.toList

/-- What the server makes of that. -/
def gateSettings : Settings :=
  { plainSettings with
    allowedOrigins := ["http://localhost:3000", "https://localhost:3000"]
    publicBaseUrl := some "https://site.test:8443/gate"
    port := 4000 }

theorem answer_behind_base_gate : Url.IsBase gateBase ∧
    (gateValues .publicBaseUrl).getLast? = some (baseText gateBase 2) ∧
    Settings.ofValues gateValues = .ok gateSettings ∧
    RunsBehind gateBase gateValues gateSettings := by
  have hgate : Url.IsBase gateBase := {
    read := ⟨gateBase.render, by decide +kernel⟩
    scheme := .inr rfl
    plain := by
      intro a ha
      cases ha
      rfl
    query := rfl
    fragment := rfl }
  have hbase : (gateValues .publicBaseUrl).getLast? = some (baseText gateBase 2) := by
    decide +kernel
  have hsettings : Settings.ofValues gateValues = .ok gateSettings := by decide +kernel
  exact ⟨hgate, hbase, hsettings, answer_behind_base hgate hbase hsettings⟩

end Server.Callback

end LoginGateway
