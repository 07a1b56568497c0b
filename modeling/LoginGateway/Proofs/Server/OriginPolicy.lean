import LoginGateway.Proofs.Server.PassPipeline
import LoginGateway.Proofs.Server.VersionHeader

/-!
Which pages of other origins may read a response. Without a wildcard these are the pages of the
origins that are configured and can stand in a header, and they may bring credentials; with one they
are all pages, and none may. However the wildcard is written among the configured origins, it never
comes together with credentials, neither where the layer of origins is built nor in a response. Main
statement: `answer_guarded`.
-/

namespace LoginGateway.Server.Origins

open Http (Headers Remote)

def originName : String := "access-control-allow-origin"

def credentialsName : String := "access-control-allow-credentials"

/-! ### What a layer grants -/

/-- What a layer is built from: every origin or those of a list, and whether they may bring
credentials. -/
structure Grant where
  list : Option (List String)
  credentials : Bool

/-- No layer can be built from a list with a wildcard in it, nor from every origin with credentials:
the attempt aborts. -/
def Grant.Aborts (g : Grant) : Prop :=
  (∃ origins, g.list = some origins ∧ "*" ∈ origins) ∨ g.list = none ∧ g.credentials = true

def grant : Origins → Grant
  | all => ⟨none, false⟩
  | listed origins => ⟨some origins, true⟩

/-- A list answers the origin that asks, if it is in the list. -/
def Grant.allowed (g : Grant) (origin : Option String) : List String :=
  match g.list with
  | none => ["*"]
  | some origins => (origin.filter origins.contains).toList

theorem headers_values_origin (o : Origins) (origin : Option String) :
    (o.headers origin).values originName = o.grant.allowed origin := by
  cases o with
  | all => simp [headers, originName, grant, Grant.allowed]
  | listed origins =>
      change (headers (listed origins) origin).values originName =
        (origin.filter origins.contains).toList
      rw [headers]
      cases origin.filter origins.contains <;> simp [originName]

theorem headers_values_credentials (o : Origins) (origin : Option String) :
    (o.headers origin).values credentialsName = if o.grant.credentials then ["true"] else [] := by
  cases o with
  | all => simp [headers, credentialsName, grant]
  | listed origins =>
      rw [headers, grant]
      cases origin.filter origins.contains <;> simp [credentialsName]

/-! ### The layer that is built -/

theorem legal_value (configured : List String) (remote : Remote) :
    (legal configured remote).value = configured.filter Http.isHeaderValue := by
  induction configured with
  | nil => rfl
  | cons origin rest ih =>
      cases horigin : Http.isHeaderValue origin with
      | true =>
          rw [List.filter_cons_of_pos horigin, ← ih, legal, if_pos horigin]
          rfl
      | false =>
          rw [List.filter_cons_of_neg (by simp [horigin]), ← ih, legal,
            if_neg (by simp [horigin])]
          rfl

theorem ofConfigured_value (configured : List String) (remote : Remote) :
    (ofConfigured configured remote).value =
      if configured.any isWildcard then all else listed (configured.filter Http.isHeaderValue) := by
  rw [ofConfigured]
  split
  · rfl
  · exact congrArg listed (legal_value configured remote)

/-- The wildcard itself is written without blanks. -/
theorem wildcard_not_mem {configured : List String} (h : configured.any isWildcard = false) :
    "*" ∉ configured := by
  intro hmem
  have hwildcard : isWildcard "*" = true := by decide
  rw [List.any_eq_false] at h
  exact h "*" hmem hwildcard

theorem ofConfigured_not_aborts (configured : List String) (remote : Remote) :
    ¬(ofConfigured configured remote).value.grant.Aborts := by
  rw [ofConfigured_value]
  cases hany : configured.any isWildcard with
  | true => simp [grant, Grant.Aborts]
  | false =>
      have hnot := wildcard_not_mem hany
      simp [grant, Grant.Aborts, hnot]

/-! ### The server behind the layer -/

/-- The names of the fields that the server itself sets. -/
def serverNames : List String := ["content-type", "content-length", "allow", Router.versionName]

section server

variable {name : String} (hname : name ∉ serverNames)

include hname

theorem text_values (status : Http.Status) (body : String) :
    (Response.text status body).headers.values name = [] := by
  simp only [serverNames, List.mem_cons, not_or] at hname
  simp [Response.text, Ne.symm hname.1]

theorem withLength_values (response : Response) :
    response.withLength.headers.values name = response.headers.values name := by
  simp only [serverNames, List.mem_cons, not_or] at hname
  simp [Response.withLength, Ne.symm hname.2.1]

theorem allowHeader_values (headers : Headers) :
    (Router.allowHeader headers).values name = headers.values name := by
  simp only [serverNames, List.mem_cons, not_or] at hname
  simp [Router.allowHeader, Ne.symm hname.2.2.1]

theorem withVersion_values_of_ne (response : Response) :
    (Router.withVersion response).headers.values name = response.headers.values name := by
  simp only [serverNames, List.mem_cons, not_or] at hname
  simp [Router.withVersion, Ne.symm hname.2.2.2.1]

theorem respond_values (refusal : Refusal) (remote : Remote) :
    (refusal.respond remote).value.headers.values name = [] := by
  cases refusal with
  | failure f =>
      obtain ⟨record, hrespond⟩ := Callback.respondFailure_apply f remote
      rw [hrespond]
      exact text_values hname _ _
  | input => exact text_values hname _ _
  | unauthenticated => exact text_values hname _ _

variable {g : Gateway} (hexit : ∀ head identity,
  (g.pass.exit head identity).headers.values name = head.headers.values name)

include hexit

theorem welcome_values (identity : Login.Identity) (remote : Remote) :
    (Callback.welcome g.pass identity remote).value.headers.values name = [] := by
  have hhead : Callback.admittedHead.headers.values name = [] := by
    simp only [serverNames, List.mem_cons, not_or] at hname
    simp [Callback.admittedHead, Ne.symm hname.1]
  exact (hexit Callback.admittedHead identity).trans hhead

theorem callback_values (r : Request) (remote : Remote) :
    (Callback.answer g.settings g.pass r remote).value.headers.values name = [] := by
  rw [Callback.answer, Http.Session.value_bind]
  cases (Callback.url g.settings r remote).value with
  | error refusal => exact respond_values hname refusal _
  | ok callback =>
      simp only [Http.Session.value_bind]
      rcases (g.pass.enter callback (Callback.url g.settings r remote).remote).value with f | entered
      · exact respond_values hname (.failure f) _
      · cases entered with
        | none => exact respond_values hname .unauthenticated _
        | some identity => exact welcome_values hname hexit identity _

theorem get_values (r : Request) (e : Endpoint) (remote : Remote) :
    (Router.get g r e remote).value.headers.values name = [] := by
  have hdocument (media : String) :
      (Headers.add {} "content-type" media).values name = [] := by
    simp only [serverNames, List.mem_cons, not_or] at hname
    simp [Ne.symm hname.1]
  cases e with
  | health => exact text_values hname _ _
  | callback => exact callback_values hname hexit r remote
  | manual => exact hdocument _
  | manualPage => exact hdocument _

/-- A server whose pass sets no field of a name sets none of its own. -/
theorem router_values (r : Request) (remote : Remote) :
    (Router.answer g r remote).value.headers.values name = [] := by
  rw [Router.answer, Http.Session.value_bind, Http.Session.pure_apply,
    withVersion_values_of_ne hname, Router.dispatch]
  cases Endpoint.ofPath? r.target.path with
  | none =>
      change (Router.notFound r.target).headers.values name = []
      rw [Router.notFound]
      split
      · rfl
      · exact withLength_values hname _
  | some e =>
      change (Router.visit g r e remote).value.headers.values name = []
      have hget := get_values hname hexit r e remote
      rw [Router.visit]
      split
      · exact (withLength_values hname _).trans hget
      · split
        · exact (withLength_values hname _).trans hget
        · exact (withLength_values hname _).trans (allowHeader_values hname {})

end server

/-! ### Responses through the layer -/

/-- The names of the fields in which a layer tells who may read. -/
def grantNames : List String := [originName, credentialsName]

theorem preflight_values (o : Origins) (r : Request) {name : String} (hname : name ∈ grantNames) :
    (o.preflight r).headers.values name = (o.headers (r.headers.get? "origin")).values name := by
  have hserver : name ∉ serverNames := by
    revert name
    decide
  have htold : name ∉ ["vary", "access-control-allow-methods", "access-control-allow-headers"] := by
    revert name
    decide
  simp only [List.mem_cons, List.not_mem_nil, or_false, not_or] at htold
  rw [preflight]
  split
  · rw [withLength_values hserver]
    simp [allowHeader_values hserver, Ne.symm htold.1, Ne.symm htold.2.1, Ne.symm htold.2.2]
  · simp [Ne.symm htold.1, Ne.symm htold.2.1, Ne.symm htold.2.2]

/-- What the server left out, the layer alone says. -/
theorem withHeaders_values_of_nil (o : Origins) (r : Request) {response : Response} {name : String}
    (hname : name ∈ grantNames) (hnone : response.headers.values name = []) :
    (o.withHeaders r response).headers.values name =
      (o.headers (r.headers.get? "origin")).values name := by
  have hvary : "vary" ≠ name := by
    rintro rfl
    exact absurd hname (by decide)
  simp only [withHeaders, Headers.values_override, Headers.values_add, hnone, if_neg hvary]
  cases hcontains : (o.headers (r.headers.get? "origin")).contains name with
  | true => rfl
  | false => exact ((Headers.contains_eq_false_iff _ _).mp hcontains).symm

theorem answer_values (o : Origins) (settings : Settings) (s : GitHub.SignIn) (r : Request)
    (remote : Remote) {name : String} (hname : name ∈ grantNames) :
    (o.answer ⟨settings, s.pass⟩ r remote).value.headers.values name =
      (o.headers (r.headers.get? "origin")).values name := by
  have hserver : name ∉ serverNames := by
    revert name
    decide
  rw [answer]
  split
  · exact preflight_values o r hname
  · exact withHeaders_values_of_nil o r hname
      (router_values hserver (g := ⟨settings, s.pass⟩) (fun _ _ => rfl) r remote)

/-- What a response says about the pages that may read it. With a wildcard, in whatever blanks it is
written, all may, without credentials. Otherwise the origin that asks may, if it is one of the
configured texts that can stand in a header; nobody else is named, and all is never said. -/
structure Guarded (configured : List String) (r : Request) (headers : Headers) : Prop where
  opened : (∃ entry ∈ configured, Text.trimWhere Text.isWhiteSpace entry.toList = ['*']) →
    headers.values originName = ["*"] ∧ headers.values credentialsName = []
  listed : (∀ entry ∈ configured, Text.trimWhere Text.isWhiteSpace entry.toList ≠ ['*']) →
    "*" ∉ headers.values originName ∧
      headers.values originName = ((r.headers.get? "origin").filter fun origin =>
        configured.contains origin && Http.isHeaderValue origin).toList
  apart : "*" ∈ headers.values originName → headers.values credentialsName = []

theorem isWildcard_iff (entry : String) :
    isWildcard entry = true ↔ Text.trimWhere Text.isWhiteSpace entry.toList = ['*'] := beq_iff_eq

theorem guarded_all {configured : List String} {r : Request} {headers : Headers}
    (hany : configured.any isWildcard = true)
    (horigin : headers.values originName = all.grant.allowed (r.headers.get? "origin"))
    (hcredentials : headers.values credentialsName = []) : Guarded configured r headers where
  opened := fun _ => ⟨horigin, hcredentials⟩
  listed := by
    intro hlisted
    obtain ⟨entry, hentry, hwildcard⟩ := List.any_eq_true.mp hany
    exact absurd ((isWildcard_iff entry).mp hwildcard) (hlisted entry hentry)
  apart := fun _ => hcredentials

theorem guarded_listed {configured : List String} {r : Request} {headers : Headers}
    (hany : configured.any isWildcard = false)
    (horigin : headers.values originName =
      (listed (configured.filter Http.isHeaderValue)).grant.allowed (r.headers.get? "origin")) :
    Guarded configured r headers := by
  have hallowed : headers.values originName = ((r.headers.get? "origin").filter fun origin =>
      configured.contains origin && Http.isHeaderValue origin).toList := by
    rw [horigin]
    refine congrArg (fun p => ((r.headers.get? "origin").filter p).toList) (funext fun origin => ?_)
    rw [Bool.eq_iff_iff]
    simp
  have hstar : "*" ∉ headers.values originName := by
    rw [hallowed]
    intro hmem
    have hlisted := Option.filter_eq_some_iff.mp (Option.mem_toList.mp hmem)
    simp only [Bool.and_eq_true, List.contains_iff_mem] at hlisted
    exact wildcard_not_mem hany hlisted.2.1
  refine ⟨?_, fun _ => ⟨hstar, hallowed⟩, fun hmem => absurd hmem hstar⟩
  rintro ⟨entry, hentry, hwildcard⟩
  exact absurd ((isWildcard_iff entry).mpr hwildcard) (List.any_eq_false.mp hany entry hentry)

/-- For every list of configured origins a layer is built, and every response that goes through it is
guarded, whatever the request and the provider. -/
theorem answer_guarded (settings : Settings) (s : GitHub.SignIn) (r : Request)
    (startRemote remote : Remote) :
    let o := (ofConfigured settings.allowedOrigins startRemote).value
    ¬o.grant.Aborts ∧
      Guarded settings.allowedOrigins r (o.answer ⟨settings, s.pass⟩ r remote).value.headers := by
  intro o
  have horigin := (answer_values o settings s r remote
    (show originName ∈ grantNames by decide)).trans (headers_values_origin o _)
  have hcredentials := (answer_values o settings s r remote
    (show credentialsName ∈ grantNames by decide)).trans (headers_values_credentials o _)
  refine ⟨ofConfigured_not_aborts _ _, ?_⟩
  have ho : o = if settings.allowedOrigins.any isWildcard then all
      else listed (settings.allowedOrigins.filter Http.isHeaderValue) := ofConfigured_value _ _
  cases hany : settings.allowedOrigins.any isWildcard with
  | true =>
      rw [hany, if_pos rfl] at ho
      rw [ho] at horigin hcredentials ⊢
      exact guarded_all hany horigin hcredentials
  | false =>
      rw [hany, if_neg Bool.false_ne_true] at ho
      rw [ho] at horigin ⊢
      exact guarded_listed hany horigin

end LoginGateway.Server.Origins
