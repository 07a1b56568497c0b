/-!
The settings by name. Each can be given on the command line under its label, some also under a
letter, and in a variable of the environment; most have a value when nothing is given.
-/

namespace LoginGateway.Settings

inductive Key
  | allowedOrigins
  | githubApp
  | githubKey
  | githubAuthUrl
  | githubApiUrl
  | publicBaseUrl
  | httpTimeoutSecs
  | interface
  | port
  | logLevelFilter
  | runtimeEnv
deriving DecidableEq, Repr

namespace Key

def all : List Key :=
  [allowedOrigins, githubApp, githubKey, githubAuthUrl, githubApiUrl, publicBaseUrl,
    httpTimeoutSecs, interface, port, logLevelFilter, runtimeEnv]

def label : Key → String
  | allowedOrigins => "allowed-origins"
  | githubApp => "github-app"
  | githubKey => "github-key"
  | githubAuthUrl => "github-auth-url"
  | githubApiUrl => "github-api-url"
  | publicBaseUrl => "public-base-url"
  | httpTimeoutSecs => "http-timeout-secs"
  | interface => "interface"
  | port => "port"
  | logLevelFilter => "log-level-filter"
  | runtimeEnv => "runtime-env"

def variableName : Key → String
  | allowedOrigins => "ALLOWED_ORIGINS"
  | githubApp => "GITHUB_APP"
  | githubKey => "GITHUB_KEY"
  | githubAuthUrl => "GITHUB_AUTH_URL"
  | githubApiUrl => "GITHUB_API_URL"
  | publicBaseUrl => "PUBLIC_BASE_URL"
  | httpTimeoutSecs => "HTTP_TIMEOUT_SECS"
  | interface => "INTERFACE"
  | port => "PORT"
  | logLevelFilter => "LOG_LEVEL_FILTER"
  | runtimeEnv => "RUNTIME_ENV"

def letter? : Key → Option Char
  | interface => some 'i'
  | port => some 'p'
  | logLevelFilter => some 'l'
  | runtimeEnv => some 'r'
  | _ => none

def fallback? : Key → Option String
  | allowedOrigins => some "http://localhost:3000,https://localhost:3000"
  | githubAuthUrl => some "https://github.com"
  | githubApiUrl => some "https://api.github.com"
  | httpTimeoutSecs => some "30"
  | interface => some "127.0.0.1"
  | port => some "4000"
  | logLevelFilter => some "INFO"
  | runtimeEnv => some "development"
  | _ => none

/-- The values a setting is limited to; none if it takes any. -/
def choices : Key → List String
  | logLevelFilter => ["OFF", "ERROR", "WARN", "INFO", "DEBUG", "TRACE"]
  | runtimeEnv =>
    ["DEVELOPMENT", "PRODUCTION", "STAGING", "development", "production", "staging"]
  | _ => []

/-- The label with a placeholder for the value. -/
def usage (k : Key) : String := "--" ++ k.label ++ " <" ++ k.variableName ++ ">"

def purpose : Key → String
  | allowedOrigins =>
    "A list of full CORS origin URLs that allowed to receive server responses"
  | githubApp => "The GitHub OAuth app client ID"
  | githubKey => "The GitHub OAuth app client secret"
  | githubAuthUrl =>
    "The GitHub OAuth server that exchanges authorization codes. Override in tests to " ++
      "point at a mock server"
  | githubApiUrl =>
    "The GitHub API server used to read the logged-in user. Override in tests to point at a " ++
      "mock server"
  | publicBaseUrl =>
    "Externally visible origin of this server (e.g. https://login.example.com). Used to " ++
      "rebuild the callback URI sent to GitHub as \x60redirect_uri\x60; when not set, " ++
      "\x60http://\x60 plus the request's Host header is used"
  | httpTimeoutSecs => "Timeout in seconds for each call made to GitHub"
  | interface => "The host interface to listen for incoming connections"
  | port => "The host TCP port to listen for incoming connections"
  | logLevelFilter =>
    "Set the log level verbosity threshold (level) to control what gets displayed on console " ++
      "output"
  | runtimeEnv => "Set the Rust runtime environment to use"

def ofLabel? (s : List Char) : Option Key := all.find? (·.label.toList == s)

def ofLetter? (c : Char) : Option Key := all.find? (·.letter? == some c)

end Key

end LoginGateway.Settings
