import LoginGateway.Program
import LoginGateway.Proofs.Settings.Occurrences

/-!
Where the value of a setting comes from: its last occurrence on the command line, or else the
variable of the process, or else the first assignment in the file of variables that stands above all
malformed lines, or else the value that holds without any. Only the occurrences on the command line
and the texts that count in the end are looked at. Main statement: `settings_layered`.
-/

namespace LoginGateway

namespace Settings

/-! ### The file of variables -/

theorem Environment.get?_setDefault (env : Environment) (name value other : String) :
    (env.setDefault name value).get? other =
      (env.get? other).or (if other = name then some value else none) := by
  rw [setDefault]
  split
  · next hset =>
      by_cases hname : other = name
      · subst hname
        rw [Option.or_of_isSome hset]
      · rw [if_neg hname, Option.or_none]
  · rw [get?, get?, List.lookup_append]
    by_cases hname : other = name <;> simp [hname]

namespace EnvironmentFile

/-- The assignments above the first malformed line, in their order. A value may ask for variables, and
is read when those of the process and all assigned above it are set. -/
def assignments (env : Environment) : List (Option (List Char)) → List (String × String)
  | some line :: rest =>
    match readLine env line with
    | none => []
    | some none => assignments env rest
    | some (some (name, value)) => (name, value) :: assignments (env.setDefault name value) rest
  | _ => []

/-- A variable keeps its value, and takes that of its first assignment if it had none. -/
theorem get?_loadLines (env : Environment) (lines : List (Option (List Char))) (name : String) :
    (loadLines env lines).get? name = (env.get? name).or ((assignments env lines).lookup name) := by
  induction lines generalizing env with
  | nil => simp [loadLines, assignments]
  | cons line rest ih =>
      cases line with
      | none => simp [loadLines, assignments]
      | some line =>
          rw [loadLines, assignments, loadLine]
          rcases readLine env line with - | - | ⟨assigned, value⟩
          · simp
          · exact ih env
          · simp only [Option.map_some]
            rw [ih, Environment.get?_setDefault, Option.or_assoc, List.lookup_cons]
            by_cases hname : name = assigned
            · simp [hname]
            · simp [hname, beq_eq_false_iff_ne.mpr hname]

/-- The assignments of the file, if there is one. -/
def assigned (env : Environment) : Option String → List (String × String)
  | some text =>
    assignments env (logicalLines [] .complete (physicalLines (skipMark text.toList)))
  | none => []

end EnvironmentFile

/-! ### Values -/

open Settings.CommandLine (Occurrences Valid)

theorem discard_eq_ok_iff {ε α : Type} (x : Except ε α) :
    (discard x : Except ε Unit) = .ok () ↔ ∃ a, x = .ok a := by
  cases x with
  | error e => exact iff_of_false (by rintro ⟨⟩) (by simp)
  | ok a => exact iff_of_true rfl ⟨a, rfl⟩

/-- Every setting can have the value that it has when none is given. -/
theorem valid_fallback (key : Key) {text : String} (h : key.fallback? = some text) :
    Valid key text := by
  rw [Valid]
  cases key <;> cases h <;> decide +kernel

theorem forM_eq_ok_iff {ε α : Type} (f : α → Except ε Unit) (list : List α) :
    list.forM f = .ok () ↔ ∀ a ∈ list, f a = .ok () := by
  induction list with
  | nil => exact iff_of_true rfl (by simp)
  | cons a rest ih =>
      rw [List.forM, List.forall_mem_cons, ← ih]
      cases f a with
      | error e => simp [bind, Except.bind]
      | ok u => simp [bind, Except.bind]

theorem checkVariable_eq_ok_iff (found : List (Key × String)) (env : Environment) (key : Key) :
    checkVariable found env key = .ok () ↔
      (given found key = [] → ∀ text, env.get? key.variableName = some text → Valid key text) := by
  rw [checkVariable]
  cases given found key with
  | nil => cases env.get? key.variableName <;> simp [Valid]
  | cons value values => simp

/-! ### Layers -/

section layers

variable (found : List (Key × String)) (env : Environment) (file : Option String)

/-- What counts for a setting that the command line does not give. -/
def lower (key : Key) : Option String :=
  env.get? key.variableName <|>
    (EnvironmentFile.assigned env file).lookup key.variableName <|> key.fallback?

/-- The text that counts for a setting. -/
def counting (key : Key) : Option String :=
  (given found key).getLast? <|> lower env file key

/-- The settings have the values of the texts that count. Of an app, a key or a public origin that is
empty, slashes at the end apart, nothing is left, whatever stands in the lower layers. -/
structure Layered (settings : Settings) : Prop where
  githubApp : settings.githubApp = (counting found env file .githubApp).filter (!·.isEmpty)
  githubKey : settings.githubKey = (counting found env file .githubKey).filter (!·.isEmpty)
  publicBaseUrl : settings.publicBaseUrl =
    ((counting found env file .publicBaseUrl).map withoutSlashes).filter (!·.isEmpty)
  githubAuthUrl : counting found env file .githubAuthUrl = some settings.githubAuthUrl
  githubApiUrl : counting found env file .githubApiUrl = some settings.githubApiUrl
  interface : counting found env file .interface = some settings.interface
  httpTimeoutSecs : ∃ text, counting found env file .httpTimeoutSecs = some text ∧
    readTimeout text = .ok settings.httpTimeoutSecs
  port : ∃ text, counting found env file .port = some text ∧ readPort text = .ok settings.port
  logThreshold : ∃ text, counting found env file .logLevelFilter = some text ∧
    readThreshold text = .ok settings.logThreshold
  stage : ∃ text, counting found env file .runtimeEnv = some text ∧
    readStage text = .ok settings.stage
  allowedOrigins : settings.allowedOrigins =
    (match given found .allowedOrigins with
      | [] => (lower env file .allowedOrigins).toList
      | values => values).flatMap splitOrigins

end layers

end Settings

namespace Program

open Settings (Environment EnvironmentFile.load)

/-- The variables as the command line finds them. -/
def environment (env : Environment) (file : Option String) : Environment :=
  match file with
  | some text => EnvironmentFile.load env text
  | none => env

/-- The settings that the program runs with. -/
def settings (arguments : List String) (env : Environment) (file : Option String) :
    Except Settings.Rejection Settings :=
  Settings.CommandLine.read arguments (environment env file)

theorem run_eq (machine : Server.Machine) (arguments : List String) (env : Environment)
    (file : Option String) :
    run machine arguments env file = match settings arguments env file with
      | .error r => rejected r
      | .ok settings =>
        let started := start machine settings machine.remote
        let output := Log.output settings.logThreshold started.log
        if started.value then .running output else .exited 1 output := by
  cases file <;> rfl

theorem get?_environment (env : Environment) (file : Option String) (name : String) :
    (environment env file).get? name =
      (env.get? name).or ((Settings.EnvironmentFile.assigned env file).lookup name) := by
  cases file with
  | none => simp [environment, Settings.EnvironmentFile.assigned]
  | some text => exact Settings.EnvironmentFile.get?_loadLines env _ name

end Program

namespace Settings

open Settings.CommandLine (Occurrences Valid)

section layers

variable {found : List (Key × String)} {env : Environment} {file : Option String}

theorem lower_eq (key : Key) : lower env file key =
    ((Program.environment env file).get? key.variableName <|> key.fallback?) := by
  rw [lower, Program.get?_environment]
  simp only [Option.orElse_eq_orElse, Option.orElse_eq_or, Option.or_assoc]

theorem layered_eq (key : Key) :
    layered found (Program.environment env file) key = match given found key with
      | [] => (lower env file key).toList
      | values => values := by
  cases hgiven : given found key <;> simp [layered, lower_eq, hgiven]

theorem getLast?_layered (key : Key) :
    (layered found (Program.environment env file) key).getLast? = counting found env file key := by
  rw [layered_eq, counting]
  cases hgiven : given found key with
  | nil => cases lower env file key <;> rfl
  | cons value values => simp [List.getLast?_cons]

/-- A setting that holds a value without any has a text that counts. -/
theorem exists_counting {key : Key} (h : key.fallback?.isSome) :
    ∃ text, counting found env file key = some text := by
  obtain ⟨text, htext⟩ := Option.isSome_iff_exists.mp h
  rw [← Option.isSome_iff_exists, counting, lower, htext]
  simp

theorem ofValues_eq_ok_iff (settings : Settings) :
    ofValues (layered found (Program.environment env file)) = .ok settings ↔
      Layered found env file settings := by
  have hcounts (key : Key) (h : key.fallback?.isSome) :
      ∃ text, counting found env file key = some text := exists_counting h
  obtain ⟨port, hport⟩ := hcounts .port rfl
  obtain ⟨timeout, htimeout⟩ := hcounts .httpTimeoutSecs rfl
  obtain ⟨threshold, hthreshold⟩ := hcounts .logLevelFilter rfl
  obtain ⟨stage, hstage⟩ := hcounts .runtimeEnv rfl
  obtain ⟨authUrl, hauthUrl⟩ := hcounts .githubAuthUrl rfl
  obtain ⟨apiUrl, hapiUrl⟩ := hcounts .githubApiUrl rfl
  obtain ⟨interface, hinterface⟩ := hcounts .interface rfl
  simp only [ofValues, getLast?_layered, hport, htimeout, hthreshold, hstage, hauthUrl, hapiUrl,
    hinterface, Option.getD_some, bind_eq_ok_iff, Except.ok.injEq]
  constructor
  · rintro ⟨_, hp, _, ht, _, hl, _, hs, rfl⟩
    exact {
      githubApp := rfl
      githubKey := rfl
      publicBaseUrl := rfl
      githubAuthUrl := hauthUrl
      githubApiUrl := hapiUrl
      interface := hinterface
      httpTimeoutSecs := ⟨timeout, htimeout, ht⟩
      port := ⟨port, hport, hp⟩
      logThreshold := ⟨threshold, hthreshold, hl⟩
      stage := ⟨stage, hstage, hs⟩
      allowedOrigins := by rw [layered_eq] }
  · intro h
    obtain ⟨text, htext, hp⟩ := h.port
    obtain rfl := Option.some.inj (hport.symm.trans htext)
    obtain ⟨text, htext, ht⟩ := h.httpTimeoutSecs
    obtain rfl := Option.some.inj (htimeout.symm.trans htext)
    obtain ⟨text, htext, hl⟩ := h.logThreshold
    obtain rfl := Option.some.inj (hthreshold.symm.trans htext)
    obtain ⟨text, htext, hs⟩ := h.stage
    obtain rfl := Option.some.inj (hstage.symm.trans htext)
    refine ⟨_, hp, _, ht, _, hl, _, hs, ?_⟩
    rw [layered_eq, ← h.allowedOrigins, nonempty, ← h.githubApp, nonempty, ← h.githubKey, nonempty,
      ← h.publicBaseUrl, Option.some.inj (hauthUrl.symm.trans h.githubAuthUrl),
      Option.some.inj (hapiUrl.symm.trans h.githubApiUrl),
      Option.some.inj (hinterface.symm.trans h.interface)]

/-- Every text that counts can be had. -/
theorem Layered.valid {settings : Settings} (h : Layered found env file settings) {key : Key}
    {text : String} (htext : counting found env file key = some text) : Valid key text := by
  have hread {α : Type} {read : String → Except Rejection α} {a : α}
      (hcounts : ∃ text, counting found env file key = some text ∧ read text = .ok a) :
      discard (read text) = .ok () := by
    obtain ⟨text', htext', hread⟩ := hcounts
    obtain rfl := Option.some.inj (htext.symm.trans htext')
    exact (discard_eq_ok_iff _).mpr ⟨a, hread⟩
  cases key with
  | port => exact hread h.port
  | httpTimeoutSecs => exact hread h.httpTimeoutSecs
  | logLevelFilter => exact hread h.logThreshold
  | runtimeEnv => exact hread h.stage
  | allowedOrigins => rfl
  | githubApp => rfl
  | githubKey => rfl
  | githubAuthUrl => rfl
  | githubApiUrl => rfl
  | publicBaseUrl => rfl
  | interface => rfl

/-- If every text that counts can be had, there are settings. -/
theorem exists_layered
    (hvalid : ∀ key text, counting found env file key = some text → Valid key text) :
    ∃ settings, Layered found env file settings := by
  have hread {α : Type} (key : Key) (read : String → Except Rejection α)
      (hfallback : key.fallback?.isSome) (hcheck : ∀ text, check key text = discard (read text)) :
      ∃ a text, counting found env file key = some text ∧ read text = .ok a := by
    obtain ⟨text, htext⟩ := exists_counting hfallback
    have hdiscard := hvalid key text htext
    rw [Valid, hcheck, discard_eq_ok_iff] at hdiscard
    obtain ⟨a, ha⟩ := hdiscard
    exact ⟨a, text, htext, ha⟩
  obtain ⟨port, hport⟩ := hread .port readPort rfl fun _ => rfl
  obtain ⟨httpTimeoutSecs, htimeout⟩ := hread .httpTimeoutSecs readTimeout rfl fun _ => rfl
  obtain ⟨logThreshold, hthreshold⟩ := hread .logLevelFilter readThreshold rfl fun _ => rfl
  obtain ⟨stage, hstage⟩ := hread .runtimeEnv readStage rfl fun _ => rfl
  obtain ⟨githubAuthUrl, hauthUrl⟩ := exists_counting (show Key.githubAuthUrl.fallback?.isSome from rfl)
  obtain ⟨githubApiUrl, hapiUrl⟩ := exists_counting (show Key.githubApiUrl.fallback?.isSome from rfl)
  obtain ⟨interface, hinterface⟩ := exists_counting (show Key.interface.fallback?.isSome from rfl)
  exact ⟨{ port, httpTimeoutSecs, logThreshold, stage, githubAuthUrl, githubApiUrl, interface,
           githubApp := _, githubKey := _, publicBaseUrl := _, allowedOrigins := _ },
    rfl, rfl, rfl, hauthUrl, hapiUrl, hinterface, htimeout, hport, hthreshold, hstage, rfl⟩

theorem ofLayers_eq_ok_iff (settings : Settings) :
    ofLayers found (Program.environment env file) = .ok settings ↔
      Layered found env file settings := by
  rw [ofLayers, bind_eq_ok_iff]
  constructor
  · rintro ⟨-, -, hvalues⟩
    exact (ofValues_eq_ok_iff settings).mp hvalues
  · intro h
    refine ⟨(), (forM_eq_ok_iff _ _).mpr fun key _ => ?_, (ofValues_eq_ok_iff settings).mpr h⟩
    refine (checkVariable_eq_ok_iff _ _ key).mpr fun hgiven text htext => h.valid ?_
    rw [counting, hgiven, lower_eq, htext]
    rfl

end layers

end Settings

namespace Program

open Settings (Environment Layered Key counting)
open Settings.CommandLine (Occurrences Valid)

/-- The program runs with the settings that the texts that count give. -/
theorem settings_eq_ok_iff {arguments : List String} {env : Environment} {file : Option String}
    {settings : Settings} : Program.settings arguments env file = .ok settings ↔
      ∃ found, Occurrences arguments found ∧ (∀ o ∈ found, Valid o.1 o.2) ∧
        Layered found env file settings := by
  rw [Program.settings, Settings.CommandLine.read, Settings.bind_eq_ok_iff]
  simp only [Settings.CommandLine.readAll_eq_ok_iff]
  constructor
  · rintro ⟨-, ⟨found, hfound, hvalid, rfl⟩, hlayers⟩
    exact ⟨found, hfound, hvalid, (Settings.ofLayers_eq_ok_iff settings).mp hlayers⟩
  · rintro ⟨found, hfound, hvalid, hlayered⟩
    exact ⟨_, ⟨found, hfound, hvalid, rfl⟩, (Settings.ofLayers_eq_ok_iff settings).mpr hlayered⟩

end Program

end LoginGateway
