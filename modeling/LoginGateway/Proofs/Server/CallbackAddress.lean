import LoginGateway.Proofs.Http.Exchanges
import LoginGateway.Proofs.Url.FormPairs
import LoginGateway.Proofs.Url.WebOrigins
import LoginGateway.Server.Router

/-!
The address that a pass is shown, on a server that takes its origin from the request. A host without
separators gives the address that the request asked for. A text with separators, or an empty one, is
read across the boundary between host and path, if it makes an address at all. Main statement:
`answer_faithful_iff`.
-/

namespace LoginGateway.Server.Callback

open Http (Session Target Remote)
open Url (Bare NamesPlace unskipped)

/-! ### Requests -/

/-- The query as it was written. -/
def queryOf : Target → Option (List Char)
  | .origin _ query => query
  | .absolute _ _ _ query => query
  | .authority _ => none
  | .asterisk => none

theorem read?_eq_some {method target body : String} {fields : List (String × String)} {r : Request}
    (h : Request.read? method target fields body = some r) :
    r.method = method ∧ Target.parse? target.toList = some r.target := by
  rw [Request.read?] at h
  split at h
  · cases h
  · obtain ⟨read, hread, h⟩ := Option.bind_eq_some_iff.mp h
    split at h
    · cases h
    · cases h
      exact ⟨rfl, hread⟩

theorem isQueryChar_of_pathAndQuery? {s path : List Char} {query : Option (List Char)}
    (h : Target.pathAndQuery? s = some (path, query)) {q : List Char} (hq : query = some q) :
    ∀ c ∈ q, Target.isQueryChar c = true := by
  rw [Target.pathAndQuery?] at h
  simp only at h
  split at h
  · next hall =>
      cases h
      rw [Bool.and_eq_true, hq] at hall
      simpa using hall.2
  · cases h

theorem isQueryChar_of_parseFull? {s : List Char} {target : Target}
    (h : Target.parseFull? s = some target) {q : List Char} (hq : queryOf target = some q) :
    ∀ c ∈ q, Target.isQueryChar c = true := by
  rw [Target.parseFull?] at h
  split at h
  · next scheme rest _ =>
      simp only [Option.bind_eq_bind] at h
      split at h
      · cases h
      · obtain ⟨p, hp, htarget⟩ := Option.bind_eq_some_iff.mp h
        cases htarget
        exact isQueryChar_of_pathAndQuery? hp hq
  · split at h
    · cases h
      cases hq
    · cases h

theorem isQueryChar_of_parse? {s : List Char} {target : Target} (h : Target.parse? s = some target)
    {q : List Char} (hq : queryOf target = some q) : ∀ c ∈ q, Target.isQueryChar c = true := by
  unfold Target.parse? at h
  split at h
  · cases h
  split at h
  · cases h
  · cases h
    cases hq
  · obtain ⟨p, hp, rfl⟩ := Option.map_eq_some_iff.mp h
    exact isQueryChar_of_pathAndQuery? hp hq
  · exact isQueryChar_of_parseFull? h hq

/-- A target with a path is written with that path and the query behind it. -/
theorem pathAndQuery_of_path {target : Target} {path : List Char}
    (hpath : target.path = '/' :: path) (hne : path ≠ []) :
    target.pathAndQuery = '/' :: path ++ Target.renderQuery (queryOf target) := by
  cases target with
  | origin own query =>
      rw [Target.path] at hpath
      rw [Target.pathAndQuery, queryOf, hpath]
  | absolute scheme authority own query =>
      rw [Target.path] at hpath
      split at hpath
      · cases hpath
        exact absurd rfl hne
      · rw [Target.pathAndQuery, queryOf, hpath]
        rfl
  | authority text => cases hpath
  | asterisk => cases hpath

/-! ### The host of a request -/

/-- The first host that a request names, if it is plain text. -/
def hostText? (r : Request) : Option (List Char) :=
  ((r.headers.get? "host").filter Http.isVisible).map String.toList

theorem origin?_of_host {settings : Settings} (hbase : settings.publicBaseUrl = none) (r : Request) :
    origin? settings r = (hostText? r).map ("http://" ++ String.ofList ·) := by
  rw [origin?, hbase, hostText?, Option.map_map]
  refine Option.map_congr ?_
  intro host _
  rw [Function.comp_apply, String.ofList_toList]

theorem address_toList (host : List Char) (r : Request) :
    (address ("http://" ++ String.ofList host) r).toList =
      "http://".toList ++ host ++ r.target.pathAndQuery := by
  simp only [address, String.toList_append, String.toList_ofList]

/-! ### What the pass is shown -/

/-- What the user is told once the pass has decided. -/
def conclude (pass : Login.Pass) :
    Except Login.Failure (Option Login.Identity) → Session Response
  | .error f => (Refusal.failure f).respond
  | .ok none => Refusal.unauthenticated.respond
  | .ok (some identity) => welcome pass identity

/-- The response to a callback whose address cannot be told. -/
def refused : Response := Router.withVersion (Response.text .badRequest "BAD REQUEST").withLength

/-- The request is refused, and no pass takes part in that. -/
def Refuses (settings : Settings) (r : Request) : Prop :=
  ∃ message, ∀ pass, Router.answer ⟨settings, pass⟩ r = do
    write .warn message
    pure refused

/-- The pass is shown the address, and decides. -/
def Shows (settings : Settings) (r : Request) (href : Url) : Prop :=
  ∀ pass, Router.answer ⟨settings, pass⟩ r = do
    write .trace s!"Callback URI: {href.toString}"
    let result ← pass.enter href
    let response ← conclude pass result
    pure (Router.withVersion response.withLength)

/-- The address is that of the request: the host and port are those written, and path and query are
those asked for. -/
structure Faithful (r : Request) (written : List Char) (href : Url) : Prop where
  bare : Bare written
  scheme : href.scheme = "http".toList
  place : ∃ authority, href.authority = some authority ∧ NamesPlace written authority
  path : href.path = .segments ["auth".toList, "github".toList, "callback".toList]
  pairs : href.queryPairs = Form.decode ((queryOf r.target).getD [])
  fragment : href.fragment = none

section callback

variable {settings : Settings} {r : Request}

theorem answer_eq (hmethod : r.method = "GET")
    (hpath : r.target.path = Endpoint.callback.path.toList) (pass : Login.Pass) :
    Router.answer ⟨settings, pass⟩ r = (do
      let response ← answer settings pass r
      pure (Router.withVersion response.withLength)) := by
  have hplace : Endpoint.ofPath? r.target.path = some .callback := by
    rw [hpath]
    decide
  rw [Router.answer, Router.dispatch, hplace]
  simp only [Router.visit, Router.get, if_pos hmethod, bind_assoc, pure_bind]

theorem refuses_of_no_host (hmethod : r.method = "GET")
    (hpath : r.target.path = Endpoint.callback.path.toList)
    (horigin : origin? settings r = none) : Refuses settings r := by
  refine ⟨"Callback request has no usable Host header", ?_⟩
  intro pass
  rw [answer_eq hmethod hpath, answer, url, horigin]
  rfl

theorem refuses_of_error (hmethod : r.method = "GET")
    (hpath : r.target.path = Endpoint.callback.path.toList) {origin : String} {e : UrlError}
    (horigin : origin? settings r = some origin)
    (hparse : Url.parse (address origin r).toList = .error e) : Refuses settings r := by
  refine ⟨s!"Unable to rebuild callback URI from {address origin r}: {e.message}", ?_⟩
  intro pass
  rw [answer_eq hmethod hpath, answer, url, horigin]
  simp only [hparse]
  rfl

theorem shows_of_parse (hmethod : r.method = "GET")
    (hpath : r.target.path = Endpoint.callback.path.toList) {origin : String} {href : Url}
    (horigin : origin? settings r = some origin)
    (hparse : Url.parse (address origin r).toList = .ok href) : Shows settings r href := by
  intro pass
  rw [answer_eq hmethod hpath, answer, url, horigin]
  simp only [hparse, bind_assoc, pure_bind]
  rfl

/-- A pass that knows nobody would tell. -/
theorem not_refuses_of_shows {href : Url} (h : Shows settings r href) : ¬Refuses settings r := by
  rintro ⟨message, hrefuses⟩
  let pass : Login.Pass := ⟨.github, fun _ => pure (.ok none), fun head _ => head⟩
  have hstatus : Http.Status.badRequest = Http.Status.unauthorized :=
    congrArg (fun session => (session .unreachable).value.status)
      ((hrefuses pass).symm.trans (h pass))
  exact absurd hstatus (by decide)

theorem not_blank_of_isQueryChar {c : Char} (h : Target.isQueryChar c = true) :
    c ≠ '#' ∧ Url.isBlank c = false := by
  rw [Target.isQueryChar, Bool.and_eq_true, decide_eq_true_eq] at h
  constructor
  · rintro rfl
    exact absurd h.2 (by decide)
  · rw [Url.isBlank, decide_eq_false_iff_not]
    omega

theorem faithful_of_bare {target : String} (htarget : Target.parse? target.toList = some r.target)
    (hpath : r.target.path = Endpoint.callback.path.toList) {host : List Char} {href : Url}
    (hbare : Bare (unskipped host))
    (hparse : Url.parse (address ("http://" ++ String.ofList host) r).toList = .ok href) :
    Faithful r (unskipped host) href := by
  have hwritten : r.target.pathAndQuery =
      '/' :: "auth/github/callback".toList ++ Target.renderQuery (queryOf r.target) :=
    pathAndQuery_of_path hpath (by decide)
  have hplain : ∀ c ∈ "auth/github/callback".toList,
      Url.endsPath c = false ∧ Url.isBlank c = false := by
    have hall : "auth/github/callback".toList.all
        (fun c => !Url.endsPath c && !Url.isBlank c) = true := by decide
    simpa using hall
  have hquery : ∀ q, queryOf r.target = some q → ∀ c ∈ q, c ≠ '#' ∧ Url.isBlank c = false :=
    fun q hq c hc => not_blank_of_isQueryChar (isQueryChar_of_parse? htarget hq c hc)
  rw [address_toList, hwritten] at hparse
  obtain ⟨authority, hplace, rfl⟩ := Url.parse_behind_place hbare hplain hquery hparse
  refine ⟨hbare, rfl, ⟨authority, rfl, hplace⟩, ?_, ?_, rfl⟩
  · exact congrArg Path.segments (by decide)
  · rw [Url.queryPairs]
    cases queryOf r.target with
    | none => rfl
    | some q => exact Form.decode_percentEncode Form.spares_specialQuerySet q

end callback

/-- On a server without a public origin, a callback is refused or the pass is shown the address that
the request asked for, exactly if the request names no host, or one that makes no address, or one
without separators. -/
theorem answer_faithful_iff {settings : Settings} (hbase : settings.publicBaseUrl = none)
    {target : String} {fields : List (String × String)} {body : String} {r : Request}
    (hread : Request.read? "GET" target fields body = some r)
    (hpath : r.target.path = Endpoint.callback.path.toList) :
    (Refuses settings r ∨ ∃ host href, hostText? r = some host ∧ Shows settings r href ∧
      Faithful r (unskipped host) href) ↔
    (hostText? r = none ∨ ∃ host, hostText? r = some host ∧
      (Bare (unskipped host) ∨
        ∃ e, Url.parse (address ("http://" ++ String.ofList host) r).toList = .error e)) := by
  obtain ⟨hmethod, htarget⟩ := read?_eq_some hread
  cases hhost : hostText? r with
  | none =>
      have horigin : origin? settings r = none := by rw [origin?_of_host hbase, hhost]; rfl
      exact iff_of_true (.inl (refuses_of_no_host hmethod hpath horigin)) (.inl rfl)
  | some host =>
      have horigin : origin? settings r = some ("http://" ++ String.ofList host) := by
        rw [origin?_of_host hbase, hhost]
        rfl
      cases hparse : Url.parse (address ("http://" ++ String.ofList host) r).toList with
      | error e =>
          exact iff_of_true (.inl (refuses_of_error hmethod hpath horigin hparse))
            (.inr ⟨host, rfl, .inr ⟨e, hparse⟩⟩)
      | ok href =>
          have hshows := shows_of_parse hmethod hpath horigin hparse
          constructor
          · rintro (hrefuses | ⟨host', href', hhost', -, hfaithful⟩)
            · exact absurd hrefuses (not_refuses_of_shows hshows)
            · cases hhost'
              exact .inr ⟨host, rfl, .inl hfaithful.bare⟩
          · rintro (hnone | ⟨host', hhost', hbare | ⟨e, he⟩⟩)
            · cases hnone
            · cases hhost'
              exact .inr ⟨host, href, rfl, hshows, faithful_of_bare htarget hpath hbare hparse⟩
            · cases hhost'
              rw [hparse] at he
              cases he

/-! ### Callbacks with a fixed host -/

def plainSettings : Settings where
  allowedOrigins := []
  githubApp := none
  githubKey := none
  githubAuthUrl := "https://github.com"
  githubApiUrl := "https://api.github.com"
  publicBaseUrl := none
  httpTimeoutSecs := 30
  interface := "127.0.0.1"
  port := 8080
  logThreshold := .upTo .info
  stage := .development

/-- A user comes back with the code `own`, to a server that they call by this host. -/
def callbackTo (host : String) : Request where
  method := "GET"
  target := .origin Endpoint.callback.path.toList (some "code=own".toList)
  headers := ⟨[("host", host)]⟩

theorem answer_faithful_iff_named :
    Refuses plainSettings (callbackTo "site.test:80") ∨
      ∃ host href, hostText? (callbackTo "site.test:80") = some host ∧
        Shows plainSettings (callbackTo "site.test:80") href ∧
        Faithful (callbackTo "site.test:80") (unskipped host) href := by
  have hread : Request.read? "GET" "/auth/github/callback?code=own" [("host", "site.test:80")] "" =
      some (callbackTo "site.test:80") := by decide +kernel
  have hbare : (unskipped "site.test:80".toList).all (!Url.isSeparator ·) = true := by decide
  refine (answer_faithful_iff rfl hread rfl).mpr
    (.inr ⟨"site.test:80".toList, by decide, .inl ⟨by decide, ?_⟩⟩)
  intro c hc
  simpa using List.all_eq_true.mp hbare c hc

theorem exists_shows_of_host {α : Type} {f : Url → α} {v : α} (host : String)
    (hvisible : Http.isVisible host = true)
    (hparse : (Url.parse ("http://" ++ host ++ "/auth/github/callback?code=own").toList).toOption.map
      f = some v) : ∃ href, Shows plainSettings (callbackTo host) href ∧ f href = v := by
  have horigin : origin? plainSettings (callbackTo host) = some ("http://" ++ host) := by
    have hget : (callbackTo host).headers.get? "host" = some host := rfl
    rw [origin?, hget, Option.filter_some, if_pos hvisible]
    rfl
  cases href : Url.parse ("http://" ++ host ++ "/auth/github/callback?code=own").toList with
  | error e =>
      rw [href] at hparse
      cases hparse
  | ok u =>
      rw [href] at hparse
      exact ⟨u, shows_of_parse rfl rfl horigin href, Option.some.inj hparse⟩

/-- With no host before it the first part of the path is taken for the host; and a host may bring a
code of its own, hide the code of the request, or bring a user name. -/
theorem answer_misled :
    (∃ href, Shows plainSettings (callbackTo "") href ∧
      href.host? = some (.name "auth".toList)) ∧
    (∃ href, Shows plainSettings (callbackTo "site.test?code=other&x=") href ∧
      href.queryPairs.head? = some ("code".toList, "other".toList)) ∧
    (∃ href, Shows plainSettings (callbackTo "site.test#") href ∧ href.queryPairs = []) ∧
    ∃ href, Shows plainSettings (callbackTo "name@site.test") href ∧
      href.authority.map (·.username) = some "name".toList := by
  refine ⟨?_, ?_, ?_, ?_⟩
  · exact exists_shows_of_host (f := Url.host?) "" (by decide) (by decide +kernel)
  · exact exists_shows_of_host (f := fun u => u.queryPairs.head?) "site.test?code=other&x="
      (by decide) (by decide +kernel)
  · exact exists_shows_of_host (f := Url.queryPairs) "site.test#" (by decide) (by decide +kernel)
  · exact exists_shows_of_host (f := fun u => u.authority.map (·.username))
      (v := some "name".toList) "name@site.test" (by decide) (by decide +kernel)

end LoginGateway.Server.Callback
