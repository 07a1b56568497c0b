import LoginGateway.Text.Utf8
import LoginGateway.Text.Split
import LoginGateway.Url.Percent
import LoginGateway.Url.Form
import LoginGateway.Url.Address
import LoginGateway.Text.Printable
import LoginGateway.Url.Idna.Mapping
import LoginGateway.Url.Idna.Composition
import LoginGateway.Url.Idna.Shaping
import LoginGateway.Url.Domain
import LoginGateway.Url.Join
import LoginGateway.Text.Quoted
import LoginGateway.Text.Base64
import LoginGateway.Http.Header
import LoginGateway.Http.Status
import LoginGateway.Http.Client
import LoginGateway.Json.Printer
import LoginGateway.Json.Parser
import LoginGateway.Json.Enclosure
import LoginGateway.Xml.Printer
import LoginGateway.Xml.Parser
import LoginGateway.Login.Pass
import LoginGateway.GitHub.SignIn
import LoginGateway.Text.Terminal
import LoginGateway.Text.Integer
import LoginGateway.Log.Console
import LoginGateway.Settings.CommandLine
import LoginGateway.Settings.EnvironmentFile
import LoginGateway.Main
import LoginGateway.Proofs.Text.Utf8RoundTrip
import LoginGateway.Proofs.Text.Splitting
import LoginGateway.Proofs.Text.CodeTables
import LoginGateway.Proofs.Text.Numerals
import LoginGateway.Proofs.Url.Idna.Decompositions
import LoginGateway.Proofs.Url.Idna.Composition
import LoginGateway.Proofs.Url.PercentDecoding
import LoginGateway.Proofs.Url.FormPairs
import LoginGateway.Proofs.Json.WrittenText
import LoginGateway.Proofs.Http.Exchanges
import LoginGateway.Proofs.Http.Redirections
import LoginGateway.Proofs.GitHub.LoginPhases
import LoginGateway.Proofs.Http.DirectCalls
import LoginGateway.Proofs.Http.Authorization
import LoginGateway.Proofs.Http.TwinRuns
import LoginGateway.Proofs.GitHub.LoginOutcome
import LoginGateway.Proofs.GitHub.PostedForm
import LoginGateway.Proofs.GitHub.CutAnswers
import LoginGateway.Proofs.Xml.WrittenText
import LoginGateway.Proofs.Xml.Markup
import LoginGateway.Proofs.Xml.Grammar
import LoginGateway.Proofs.Xml.Declarations
import LoginGateway.Proofs.Xml.Documents
import LoginGateway.Proofs.GitHub.TokenExtraction
import LoginGateway.Proofs.GitHub.ToldReason
import LoginGateway.Proofs.GitHub.SecretConfinement
import LoginGateway.Proofs.GitHub.TokenConfinement
import LoginGateway.Proofs.GitHub.TokenDisclosure
import LoginGateway.Proofs.Url.WebOrigins
import LoginGateway.Proofs.Url.Punycode
import LoginGateway.Proofs.Url.DomainNames
import LoginGateway.Proofs.Url.PathSegments
import LoginGateway.Proofs.Url.Addresses
import LoginGateway.Proofs.Url.HostText
import LoginGateway.Proofs.Url.AuthorityText
import LoginGateway.Proofs.Url.BaseAddress
import LoginGateway.Proofs.Url.TrailingSlash
import LoginGateway.Proofs.Http.RequestTargets
import LoginGateway.Proofs.GitHub.Endpoints
import LoginGateway.Proofs.GitHub.UsableServers
import LoginGateway.Proofs.Server.CallbackAddress
import LoginGateway.Proofs.Server.KeyIndependence
import LoginGateway.Proofs.Server.VersionHeader
import LoginGateway.Proofs.Server.PassPipeline
import LoginGateway.Proofs.Server.CallbackOutcome
import LoginGateway.Proofs.Server.CallbackDependence
import LoginGateway.Proofs.Server.PublicOrigin
import LoginGateway.Proofs.Server.OriginPolicy
import LoginGateway.Proofs.Server.ListedOrigins
import LoginGateway.Proofs.Settings.Occurrences
import LoginGateway.Proofs.Settings.Layers
import LoginGateway.Proofs.Settings.PlainLines
import LoginGateway.Proofs.Settings.RepeatedOrigins
import LoginGateway.Proofs.Server.FailFast
import LoginGateway.Proofs.Json.Literals
import LoginGateway.Proofs.Json.NumberRange
import LoginGateway.Proofs.Json.Trees
import LoginGateway.Proofs.Json.Grammar
import LoginGateway.Proofs.GitHub.ProfileIdentity
import LoginGateway.Proofs.Log.Delivery
import LoginGateway.Proofs.Server.OutcomeRecords
import LoginGateway.Proofs.Server.Entrance
