import LoginGateway.Proofs.Json.WrittenText
import LoginGateway.Proofs.Server.CallbackAddress

/-!
A callback whose address can be told, before any pass. The pass enters once, with that address; it is
asked for the head of the answer only if it let somebody in, and then the answer brings the identity,
whatever characters stand in it. Main statement: `answer_pipeline`.
-/

namespace LoginGateway.Server.Callback

open Http (Headers Head Session Remote Run)

/-! ### The address -/

/-- The address under which the user came, if it can be told. -/
def href? (settings : Settings) (r : Request) : Option Url :=
  (origin? settings r).bind fun origin => (Url.parse (address origin r).toList).toOption

section href

variable {settings : Settings} {r : Request}

theorem shows_of_href? (hmethod : r.method = "GET")
    (hpath : r.target.path = Endpoint.callback.path.toList) {href : Url}
    (hhref : href? settings r = some href) : Shows settings r href := by
  obtain ⟨origin, horigin, hparse⟩ := Option.bind_eq_some_iff.mp hhref
  refine shows_of_parse hmethod hpath horigin ?_
  cases hread : Url.parse (address origin r).toList with
  | error e =>
      rw [hread] at hparse
      cases hparse
  | ok url =>
      rw [hread] at hparse
      exact congrArg Except.ok (Option.some.inj hparse)

theorem refuses_of_href?_eq_none (hmethod : r.method = "GET")
    (hpath : r.target.path = Endpoint.callback.path.toList) (hhref : href? settings r = none) :
    Refuses settings r := by
  cases horigin : origin? settings r with
  | none => exact refuses_of_no_host hmethod hpath horigin
  | some origin =>
      cases hread : Url.parse (address origin r).toList with
      | error e => exact refuses_of_error hmethod hpath horigin hread
      | ok url =>
          rw [href?, horigin, Option.bind_some, hread] at hhref
          cases hhref

end href

/-! ### What the user is told -/

/-- The status and the body for a failure: the user's fault, the provider's or the server's. -/
def told (f : Login.Failure) : Http.Status × String :=
  match f.kind with
  | .login .missingCode => (.badRequest, f.cause.getD "BAD REQUEST")
  | .login (.answer _) => (.badGateway, "BAD GATEWAY")
  | .login .malformedProfile => (.badGateway, "BAD GATEWAY")
  | .transport _ => (.badGateway, "BAD GATEWAY")
  | .setting _ => (.internalServerError, "INTERNAL SERVER ERROR")

theorem respondFailure_apply (f : Login.Failure) (remote : Remote) :
    ∃ record, (Refusal.failure f).respond remote =
      ⟨.text (told f).1 (told f).2, [], [record], remote⟩ := by
  rw [Refusal.respond, Refusal.respondFailure, told]
  rcases hkind : f.kind with fault | fault | fault
  · cases fault <;> exact ⟨_, rfl⟩
  · exact ⟨_, rfl⟩
  · exact ⟨_, rfl⟩

/-- A name's values once length and version are stated. -/
theorem withVersion_withLength_values (response : Response) (name : String) :
    (Router.withVersion response.withLength).headers.values name =
      if name = Router.versionName then [Router.version]
      else response.headers.values name ++
        if name = "content-length" ∧ response.headers.values name = [] then
          [s!"{response.body.utf8ByteSize}"]
        else [] := by
  simp [Router.withVersion, Response.withLength, eq_comm (a := name)]

/-- The response brings an identity under a head: it keeps the status and the fields of that head,
adds a length where none was stated, and has the version of the server as its only version. Its body
is a document with the name and the properties of the identity. -/
structure Presents (head : Head) (identity : Login.Identity) (response : Response) : Prop where
  status : response.status = head.status
  version : response.headers.values Router.versionName = [Router.version]
  length : response.headers.values "content-length" =
    if head.headers.values "content-length" = [] then [s!"{response.body.utf8ByteSize}"]
    else head.headers.values "content-length"
  field : ∀ name, name ≠ Router.versionName → name ≠ "content-length" →
    response.headers.values name = head.headers.values name
  body : Json.parse? response.body.toList = some (.object [
    ("urn".toList, .string identity.urn.toList),
    ("properties".toList, .object (identity.properties.entries.map fun p =>
      (p.1.toList, .string p.2.toList)))])

theorem textual_toJson (identity : Login.Identity) : Json.Textual Json.maxDepth identity.toJson := by
  refine .object fun m hm => ?_
  simp only [List.mem_cons, List.not_mem_nil, or_false] at hm
  rcases hm with rfl | rfl
  · exact .string _
  · refine .object fun m hm => ?_
    obtain ⟨p, -, rfl⟩ := List.mem_map.mp hm
    exact .string _

/-- The head that says that a document follows and all is well. -/
def documentHead : Head where
  status := .ok
  headers := ⟨[("content-type", "application/json")]⟩

theorem presents_welcome (pass : Login.Pass) (identity : Login.Identity) (remote : Remote) :
    Presents (pass.exit documentHead identity) identity
      (Router.withVersion (welcome pass identity remote).value.withLength) where
  status := rfl
  version := Router.withVersion_values _
  length := by
    have hheaders : (welcome pass identity remote).value.headers =
        (pass.exit documentHead identity).headers := rfl
    rw [withVersion_withLength_values, if_neg (by decide), hheaders]
    by_cases hnone : (pass.exit documentHead identity).headers.values "content-length" = []
    · rw [if_pos ⟨rfl, hnone⟩, if_pos hnone, hnone, List.nil_append]
      rfl
    · rw [if_neg fun h => hnone h.2, if_neg hnone, List.append_nil]
  field := by
    intro name hversion hlength
    rw [withVersion_withLength_values, if_neg hversion, if_neg fun h => hlength h.1, List.append_nil]
    rfl
  body := by
    have hbody : (Router.withVersion (welcome pass identity remote).value.withLength).body.toList =
        identity.toJson.render := String.toList_ofList
    rw [hbody, Json.parse?_render (textual_toJson identity)]
    rfl

theorem conclude_silent (pass : Login.Pass)
    (result : Except Login.Failure (Option Login.Identity)) (remote : Remote) :
    (conclude pass result remote).sent = [] ∧ (conclude pass result remote).remote = remote := by
  rcases result with f | identity
  · obtain ⟨record, hrespond⟩ := respondFailure_apply f remote
    rw [conclude, hrespond]
    exact ⟨rfl, rfl⟩
  · cases identity with
    | none => exact ⟨rfl, rfl⟩
    | some identity => exact ⟨rfl, rfl⟩

/-! ### The pipeline -/

/-- The whole run of a callback from that of entering. -/
theorem answer_apply {settings : Settings} {r : Request} {href : Url} (h : Shows settings r href)
    (pass : Login.Pass) (remote : Remote) :
    Router.answer ⟨settings, pass⟩ r remote =
      let entered := pass.enter href remote
      let concluded := conclude pass entered.value entered.remote
      ⟨Router.withVersion concluded.value.withLength, entered.sent,
        ⟨.trace, "web::extractors::callback_href", s!"Callback URI: {href.toString}"⟩ ::
          (entered.log ++ concluded.log), entered.remote⟩ := by
  obtain ⟨hsent, hremote⟩ := conclude_silent pass (pass.enter href remote).value
    (pass.enter href remote).remote
  have hstart (message : String) : (write .trace message remote).remote = remote := rfl
  rw [h pass]
  change (⟨_, [] ++ (_ ++ ((conclude _ _ _).sent ++ [])), [_] ++ (_ ++ (_ ++ [])),
    (conclude _ _ _).remote⟩ : Run Response) = ⟨_, _, _, _⟩
  rw [hstart, hsent, hremote]
  simp only [List.append_nil, List.nil_append, List.singleton_append]
  rfl

/-- The pass enters once, with the address, and all calls are its own; what it comes to is what the
user is told. How it changes heads counts only for somebody it let in, and then only what it makes of
the head of a document for that identity. -/
structure Pipeline (settings : Settings) (pass : Login.Pass) (r : Request) (href : Url)
    (remote : Remote) : Prop where
  sent : (Router.answer ⟨settings, pass⟩ r remote).sent = (pass.enter href remote).sent
  rest : (Router.answer ⟨settings, pass⟩ r remote).remote = (pass.enter href remote).remote
  log : ∃ after, (Router.answer ⟨settings, pass⟩ r remote).log =
    ⟨.trace, "web::extractors::callback_href", s!"Callback URI: {href.toString}"⟩ ::
      ((pass.enter href remote).log ++ after)
  admitted : ∀ identity, (pass.enter href remote).value = .ok (some identity) →
    Presents (pass.exit documentHead identity) identity
      (Router.answer ⟨settings, pass⟩ r remote).value
  unknown : (pass.enter href remote).value = .ok none →
    (Router.answer ⟨settings, pass⟩ r remote).value.status = .unauthorized ∧
      (Router.answer ⟨settings, pass⟩ r remote).value.body = "UNAUTHORIZED"
  failed : ∀ f, (pass.enter href remote).value = .error f →
    (Router.answer ⟨settings, pass⟩ r remote).value.status = (told f).1 ∧
      (Router.answer ⟨settings, pass⟩ r remote).value.body = (told f).2
  asked : ∀ other : Login.Pass, other.provider = pass.provider →
    other.enter href remote = pass.enter href remote →
    (∀ identity, (pass.enter href remote).value = .ok (some identity) →
      other.exit documentHead identity = pass.exit documentHead identity) →
    Router.answer ⟨settings, other⟩ r remote = Router.answer ⟨settings, pass⟩ r remote

section pipeline

variable {settings : Settings} {r : Request} {href : Url} (hmethod : r.method = "GET")
  (hpath : r.target.path = Endpoint.callback.path.toList) (hhref : href? settings r = some href)

include hmethod hpath hhref

/-- Every callback whose address can be told goes through the pipeline, whatever the pass is and
whatever happens on the way. -/
theorem answer_pipeline (pass : Login.Pass) (remote : Remote) :
    Pipeline settings pass r href remote := by
  have hshows := shows_of_href? hmethod hpath hhref
  have hanswer := answer_apply hshows pass remote
  constructor
  case sent => rw [hanswer]
  case rest => rw [hanswer]
  case log =>
    rw [hanswer]
    exact ⟨_, rfl⟩
  case admitted =>
    intro identity hidentity
    rw [hanswer]
    simp only [hidentity]
    exact presents_welcome pass identity _
  case unknown =>
    intro hnone
    rw [hanswer]
    simp only [hnone]
    exact ⟨rfl, rfl⟩
  case failed =>
    intro f hf
    obtain ⟨record, hrespond⟩ := respondFailure_apply f (pass.enter href remote).remote
    rw [hanswer]
    simp only [hf, conclude, hrespond]
    exact ⟨rfl, rfl⟩
  case asked =>
    intro other hprovider henter hexit
    rw [answer_apply hshows other, hanswer, henter]
    -- The conclusion looks at the other pass only where somebody was let in.
    have hconclude : conclude other (pass.enter href remote).value =
        conclude pass (pass.enter href remote).value := by
      rcases hvalue : (pass.enter href remote).value with f | identity
      · rfl
      · cases identity with
        | none => rfl
        | some identity =>
            rw [conclude, conclude, welcome, welcome, hprovider]
            simp only [show admittedHead = documentHead from rfl, hexit identity hvalue]
    simp only [hconclude]

end pipeline

/-- A pass that knows one user, makes no call, and writes a version and a status of its own. -/
def doorPass : Login.Pass where
  provider := .github
  enter _ := pure (.ok (some ⟨"urn:door:\"1\"", .ofList [("name", "\\\n\u0001é😀")]⟩))
  exit head _ := { head with
    status := { code := 202 }
    headers := (head.headers.add Router.versionName "9").add Router.versionName "8" }

theorem answer_pipeline_door : ∃ href, href? plainSettings (callbackTo "site.test") = some href ∧
    Pipeline plainSettings doorPass (callbackTo "site.test") href .unreachable := by
  obtain ⟨href, hhref⟩ := Option.isSome_iff_exists.mp
    (show (href? plainSettings (callbackTo "site.test")).isSome = true by decide +kernel)
  exact ⟨href, hhref, answer_pipeline rfl rfl hhref doorPass .unreachable⟩

end LoginGateway.Server.Callback
