import LoginGateway.Proofs.Server.OriginPolicy
import LoginGateway.Proofs.Settings.Layers

/-!
White space around the configured origins. The wildcard is known whatever white space is around it,
but an origin is not: with white space around it, an entry stands for a text that no page has for an
origin. Such an entry is of no use to anybody, though its page may be admitted by another one. Main
statement: `answer_entry`.
-/

namespace LoginGateway.Server.Origins

open Http (Headers Remote)

/-- The entry without the white space around it. -/
def trimmed (entry : String) : String :=
  String.ofList (Text.trimWhere Text.isWhiteSpace entry.toList)

theorem isWildcard_iff_trimmed (entry : String) : isWildcard entry = true ↔ trimmed entry = "*" := by
  rw [isWildcard_iff, trimmed, ← String.toList_inj, String.toList_ofList]
  rfl

/-- What is said to a page whose origin is that of an entry, but for white space. The page is admitted
if the entry is written without any; otherwise the entry counts for nothing, and the page is admitted
only if its origin is written somewhere else in the list. -/
structure AnswersEntry (configured : List String) (entry : String) (headers : Headers) : Prop where
  credentials : headers.values credentialsName = ["true"]
  plain : trimmed entry = entry → headers.values originName = [entry]
  spaced : trimmed entry ≠ entry → headers.values originName =
    if trimmed entry ∈ configured.filter (· ≠ entry) then [trimmed entry] else []

/-- A list without a wildcard answers every page that comes from one of its entries. -/
theorem answer_entry (settings : Settings) (s : GitHub.SignIn) (startRemote : Remote)
    (hlisted : ∀ entry ∈ settings.allowedOrigins, trimmed entry ≠ "*") {entry : String}
    (hentry : entry ∈ settings.allowedOrigins) (hlegal : Http.isHeaderValue (trimmed entry) = true)
    {r : Request} (horigin : r.headers.get? "origin" = some (trimmed entry)) (remote : Remote) :
    let o := (ofConfigured settings.allowedOrigins startRemote).value
    AnswersEntry settings.allowedOrigins entry
      (o.answer ⟨settings, s.pass⟩ r remote).value.headers := by
  intro o
  have hany : settings.allowedOrigins.any isWildcard = false := by
    rw [List.any_eq_false]
    intro other hother hwildcard
    exact hlisted other hother ((isWildcard_iff_trimmed other).mp hwildcard)
  have ho : o = listed (settings.allowedOrigins.filter Http.isHeaderValue) := by
    rw [show o = _ from ofConfigured_value _ _, hany, if_neg Bool.false_ne_true]
  have hvalues : (o.answer ⟨settings, s.pass⟩ r remote).value.headers.values originName =
      if trimmed entry ∈ settings.allowedOrigins then [trimmed entry] else [] := by
    rw [answer_values o settings s r remote (by decide), headers_values_origin, ho, horigin]
    by_cases hmem : trimmed entry ∈ settings.allowedOrigins <;>
      simp [grant, Grant.allowed, hmem, hlegal]
  refine ⟨?_, ?_, ?_⟩
  · rw [answer_values o settings s r remote (by decide), headers_values_credentials, ho]
    rfl
  · intro hplain
    rw [hvalues, hplain, if_pos hentry]
  · intro hspaced
    rw [hvalues]
    refine if_congr ?_ rfl rfl
    simp [hspaced]

/-- A page asks for the health of the server. -/
def healthFrom (origin : String) : Request where
  method := "GET"
  target := .origin Endpoint.health.path.toList none
  headers := ⟨[("host", "site.test"), ("origin", origin)]⟩

/-- What the command line makes of two origins with a space between them. -/
def spacedSettings : Settings :=
  { Callback.plainSettings with
    allowedOrigins := ["http://a.test", " http://b.test"]
    port := 4000 }

theorem answer_entry_spaced :
    AnswersEntry spacedSettings.allowedOrigins " http://b.test"
      ((ofConfigured spacedSettings.allowedOrigins .unreachable).value.answer
        ⟨spacedSettings, GitHub.SignIn.testSignIn.pass⟩ (healthFrom "http://b.test")
        .unreachable).value.headers :=
  answer_entry spacedSettings GitHub.SignIn.testSignIn .unreachable (by decide) (by decide)
    (by decide) (by decide) .unreachable

theorem answer_bars_spaced :
    Program.settings ["--allowed-origins", "http://a.test, http://b.test"] ⟨[]⟩ none =
        .ok spacedSettings ∧
      " http://b.test" ∈ spacedSettings.allowedOrigins ∧
      (∀ entry ∈ spacedSettings.allowedOrigins, trimmed entry ≠ "*") ∧
      trimmed " http://b.test" = "http://b.test" ∧
      Http.isHeaderValue "http://b.test" = true ∧
      ((ofConfigured spacedSettings.allowedOrigins .unreachable).value.answer
        ⟨spacedSettings, GitHub.SignIn.testSignIn.pass⟩ (healthFrom "http://b.test")
        .unreachable).value.headers.values originName = [] := by
  decide +kernel

end LoginGateway.Server.Origins
