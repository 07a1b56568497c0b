import LoginGateway.Log.Record
import LoginGateway.Settings.Environment
import LoginGateway.Settings.Rejection
import LoginGateway.Text.Split

/-!
The settings of the server, and how their layers combine: what the command line gives stands above
the environment, and the environment above the values that hold without any. A value of a layer that
is covered is not looked at. Main definition: `Settings.ofLayers`.
-/

namespace LoginGateway

/-- What the server runs for. -/
inductive Stage
  | development
  | production
  | staging
deriving DecidableEq, Repr

namespace Stage

def all : List Stage := [development, production, staging]

def name : Stage → String
  | development => "development"
  | production => "production"
  | staging => "staging"

def title : Stage → String
  | development => "Development"
  | production => "Production"
  | staging => "Staging"

/-- Upper and lower case are the same; no name has letters outside ASCII. -/
def ofName? (s : String) : Option Stage := all.find? (·.name == s.toLower)

end Stage

/-- A setting that was given as an empty text counts as not given. -/
structure Settings where
  allowedOrigins : List String
  githubApp : Option String
  githubKey : Option String
  githubAuthUrl : String
  githubApiUrl : String
  publicBaseUrl : Option String
  httpTimeoutSecs : Nat
  interface : String
  port : UInt16
  logThreshold : Log.Threshold
  stage : Stage
deriving DecidableEq, Repr

namespace Settings

def isProduction (s : Settings) : Bool := s.stage == .production

def readPort (value : String) : Except Rejection UInt16 :=
  match Text.readInt64 value.toList with
  | .error fault => .error (.badNumber .port value (.text fault))
  | .ok n =>
    if 0 ≤ n ∧ n ≤ 65535 then .ok (UInt16.ofNat n.toNat)
    else .error (.badNumber .port value (.range n 0 65535))

def readTimeout (value : String) : Except Rejection Nat :=
  (Text.readNatural (Nat.pow 2 64 - 1) value.toList).mapError fun fault =>
    .badNumber .httpTimeoutSecs value (.text fault)

/-- A choice is written exactly as it is listed. -/
def readChoice {α : Type} (key : Key) (ofName? : String → Option α) (value : String) :
    Except Rejection α :=
  if value.isEmpty then .error (.missingValue key)
  else
    match ofName? value with
    | some a => if key.choices.contains value then .ok a else .error (.badChoice key value)
    | none => .error (.badChoice key value)

def readThreshold (value : String) : Except Rejection Log.Threshold :=
  readChoice .logLevelFilter Log.Threshold.ofName? value

def readStage (value : String) : Except Rejection Stage :=
  readChoice .runtimeEnv Stage.ofName? value

/-- A value that the setting can have. -/
def check (key : Key) (value : String) : Except Rejection Unit :=
  match key with
  | .port => discard (readPort value)
  | .httpTimeoutSecs => discard (readTimeout value)
  | .logLevelFilter => discard (readThreshold value)
  | .runtimeEnv => discard (readStage value)
  | _ => .ok ()

def nonempty (value : Option String) : Option String := value.filter (!·.isEmpty)

def withoutSlashes (value : String) : String :=
  String.ofList (Text.dropEndWhile (· == '/') value.toList)

def splitOrigins (value : String) : List String :=
  (Text.splitOn ',' value.toList).map String.ofList

/-- Settings from the values of every key. A list takes all values of its key, any other setting
the last one. -/
def ofValues (values : Key → List String) : Except Rejection Settings := do
  let last (key : Key) : String := ((values key).getLast?).getD ""
  let port ← readPort (last .port)
  let httpTimeoutSecs ← readTimeout (last .httpTimeoutSecs)
  let logThreshold ← readThreshold (last .logLevelFilter)
  let stage ← readStage (last .runtimeEnv)
  .ok {
    allowedOrigins := (values .allowedOrigins).flatMap splitOrigins
    githubApp := nonempty (values .githubApp).getLast?
    githubKey := nonempty (values .githubKey).getLast?
    githubAuthUrl := last .githubAuthUrl
    githubApiUrl := last .githubApiUrl
    publicBaseUrl := nonempty ((values .publicBaseUrl).getLast?.map withoutSlashes)
    httpTimeoutSecs
    interface := last .interface
    port
    logThreshold
    stage }

/-- The values of one key on the command line, in their order. -/
def given (arguments : List (Key × String)) (key : Key) : List String :=
  (arguments.filter (·.1 == key)).map (·.2)

/-- The values that count for a key. -/
def layered (arguments : List (Key × String)) (env : Environment) (key : Key) : List String :=
  match given arguments key with
  | [] => ((env.get? key.variableName) <|> key.fallback?).toList
  | values => values

/-- Checks the variable of a key that the command line does not give. -/
def checkVariable (arguments : List (Key × String)) (env : Environment) (key : Key) :
    Except Rejection Unit :=
  match given arguments key, env.get? key.variableName with
  | [], some value => check key value
  | _, _ => .ok ()

def ofLayers (arguments : List (Key × String)) (env : Environment) : Except Rejection Settings := do
  Key.all.forM (checkVariable arguments env)
  ofValues (layered arguments env)

end Settings

end LoginGateway
