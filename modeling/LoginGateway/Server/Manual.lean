import LoginGateway.Json.Printer
import LoginGateway.Server.Message

/-!
The description of the server for programs, and the page that shows it to people.
-/

namespace LoginGateway.Server.Manual

def text (s : String) : Json := .string s.toList

def members (list : List (String × Json)) : Json := .object (list.map fun p => (p.1.toList, p.2))

def path : String := "/api-docs/openapi.json"

def answered (description : String) (more : List (String × Json)) : Json :=
  members (("description", text description) :: more)

def healthOperation : Json := members [
  ("tags", .array [text "health_check_controller"]),
  ("summary", text "GET the health of the login server"),
  ("operationId", text "health_check"),
  ("responses", members [
    ("200", answered "API router is up and responding to requests" [
      ("content", members [
        ("text/plain", members [("schema", members [("type", text "string")])])])]),
    ("500", answered "Internal Server Error" [])])]

def callbackOperation : Json := members [
  ("tags", .array [text "social_login_controller"]),
  ("summary", text "GET /auth/github/callback"),
  ("description", text ("Completes a GitHub login. GitHub redirects the browser here with an\n" ++
    "authorization code after the user grants access.")),
  ("operationId", text "github_callback"),
  ("parameters", .array [members [
    ("name", text "code"),
    ("in", text "query"),
    ("description", text "Authorization code issued by GitHub"),
    ("required", .bool true),
    ("schema", members [("type", text "string")])]]),
  ("responses", members [
    ("200", answered "Identity of the logged-in user as \x7burn, properties\x7d" []),
    ("400", answered "code is not provided by Github" []),
    ("502", answered "GitHub rejected the code or returned an unusable response" [])])]

def document : Json := members [
  ("openapi", text "3.1.0"),
  ("info", members [
    ("title", text "Social Login API"),
    ("description", text ""),
    ("license", members [("name", text "")]),
    ("version", text "0.1.0")]),
  ("paths", members [
    ("/health", members [("get", healthOperation)]),
    ("/auth/github/callback", members [("get", callbackOperation)])]),
  ("components", members []),
  ("tags", .array [members [
    ("name", text "social_login"),
    ("description", text "GitHub social login callbacks")]])]

def documentResponse : Response where
  status := .ok
  headers := Http.Headers.add {} "content-type" "application/json"
  body := String.ofList document.render

def page : String :=
  "<!doctype html>\n<html>\n<head>\n  <meta charset=\"utf-8\">\n</head>\n<body>\n" ++
    "  <rapi-doc spec-url=\"" ++ path ++ "\"></rapi-doc>\n</body>\n</html>\n"

def pageResponse : Response where
  status := .ok
  headers := Http.Headers.add {} "content-type" "text/html; charset=utf-8"
  body := page

end LoginGateway.Server.Manual
