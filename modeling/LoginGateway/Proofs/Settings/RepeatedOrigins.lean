import LoginGateway.Proofs.Settings.Layers

/-!
Origins that are given more than once. Of any other setting the last value on the command line counts;
the origins of every occurrence are kept, one behind the other. What stands in the lower layers is of
no account as soon as there is one occurrence. Main statement: `settings_allowedOrigins`.
-/

namespace LoginGateway

namespace Settings

theorem splitOrigins_ne_nil (value : String) : splitOrigins value ≠ [] := by
  rw [splitOrigins, ne_eq, List.map_eq_nil_iff]
  exact Text.splitWhere_ne_nil _ _

/-- Every value brings an origin, so one more in front makes a difference. -/
theorem flatMap_splitOrigins_eq_iff {values : List String} {last : String}
    (hlast : values.getLast? = some last) :
    values.flatMap splitOrigins = splitOrigins last ↔ values = [last] := by
  obtain ⟨front, rfl⟩ := List.getLast?_eq_some_iff.mp hlast
  have hfront : front.flatMap splitOrigins = [] ↔ front = [] := by
    rw [List.flatMap_eq_nil_iff]
    constructor
    · intro hnone
      rw [List.eq_nil_iff_forall_not_mem]
      exact fun value hvalue => splitOrigins_ne_nil value (hnone value hvalue)
    · rintro rfl value ⟨⟩
  rw [List.flatMap_append, List.flatMap_singleton, List.append_left_eq_self, hfront,
    List.append_left_eq_self]

end Settings

namespace Program

open Settings (Environment given splitOrigins)
open Settings.CommandLine (Occurrences)

/-- The origins are those of all occurrences in their order. They are those of the last one alone
exactly if there is no other. -/
theorem settings_allowedOrigins {arguments : List String} {env : Environment} {file : Option String}
    {settings : Settings} (h : Program.settings arguments env file = .ok settings)
    {found : List (Settings.Key × String)} (hfound : Occurrences arguments found) {last : String}
    (hlast : (given found .allowedOrigins).getLast? = some last) :
    settings.allowedOrigins = (given found .allowedOrigins).flatMap splitOrigins ∧
      (settings.allowedOrigins = splitOrigins last ↔ given found .allowedOrigins = [last]) := by
  obtain ⟨found', hfound', -, hlayered⟩ := settings_eq_ok_iff.mp h
  obtain rfl := hfound.unique hfound'
  have hall : settings.allowedOrigins = (given found .allowedOrigins).flatMap splitOrigins := by
    rw [hlayered.allowedOrigins]
    cases hgiven : given found .allowedOrigins with
    | nil => rw [hgiven] at hlast; cases hlast
    | cons value values => rfl
  refine ⟨hall, ?_⟩
  rw [hall]
  exact Settings.flatMap_splitOrigins_eq_iff hlast

/-- Two occurrences, with another setting between them. -/
def twiceGiven : List String :=
  ["--allowed-origins", "http://a.test,http://b.test", "-p80", "--allowed-origins=http://c.test"]

def twiceSettings : Settings where
  allowedOrigins := ["http://a.test", "http://b.test", "http://c.test"]
  githubApp := none
  githubKey := none
  githubAuthUrl := "https://github.com"
  githubApiUrl := "https://api.github.com"
  publicBaseUrl := none
  httpTimeoutSecs := 30
  interface := "127.0.0.1"
  port := 80
  logThreshold := .upTo .info
  stage := .development

theorem settings_twiceGiven : Program.settings twiceGiven
    ⟨[("ALLOWED_ORIGINS", "http://d.test")]⟩ none = .ok twiceSettings := by decide +kernel

theorem occurrences_twiceGiven : Occurrences twiceGiven
    [(.allowedOrigins, "http://a.test,http://b.test"), (.port, "80"),
      (.allowedOrigins, "http://c.test")] :=
  .apart .label (by rintro c rest ⟨⟩) (.joined (.letter rfl (by decide) (by decide))
    (.joined .label .empty))

theorem settings_allowedOrigins_twice :
    twiceSettings.allowedOrigins =
        ["http://a.test,http://b.test", "http://c.test"].flatMap splitOrigins ∧
      twiceSettings.allowedOrigins ≠ splitOrigins "http://c.test" := by
  obtain ⟨hall, hlast⟩ := settings_allowedOrigins settings_twiceGiven occurrences_twiceGiven rfl
  exact ⟨hall, mt hlast.mp (by decide)⟩

theorem settings_keep_earlier_origins :
    ¬∀ (arguments : List String) (env : Environment) (file : Option String) (settings : Settings)
      (found : List (Settings.Key × String)) (last : String),
      Program.settings arguments env file = .ok settings → Occurrences arguments found →
        (given found .allowedOrigins).getLast? = some last →
          settings.allowedOrigins = splitOrigins last := by
  intro hall
  have hsame := hall _ _ _ _ _ _ settings_twiceGiven occurrences_twiceGiven rfl
  exact absurd hsame (by decide +kernel)

end Program

end LoginGateway
