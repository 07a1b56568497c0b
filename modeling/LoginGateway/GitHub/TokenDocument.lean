import LoginGateway.GitHub.AccessToken
import LoginGateway.Login.Failure
import LoginGateway.Xml.Parser

/-!
The answer to a code exchange: an element `OAuth` whose first child `access_token` begins with the
token. An answer without a token gives its reason in `error_description` or in `error`.
-/

namespace LoginGateway.GitHub.TokenDocument

open Login

def rootName : String := "OAuth"

def defaultReason : String := "no access_token in token response"

/-- The text of the description, or of the error where no description stands. -/
def reason (root : Xml.Node) : String :=
  let told := (root.child? "error_description" <|> root.child? "error").bind Xml.Node.text?
  (told.map String.ofList).getD defaultReason

def tokenOf (root : Xml.Node) : Except Failure AccessToken :=
  if root.isNamed rootName then
    match (root.child? "access_token").bind Xml.Node.text? with
    | some token => .ok ⟨String.ofList token⟩
    | none => .error (.answer .missingAccessToken (reason root))
  else
    .error (.answer .missingAccessToken
      ("expected <" ++ rootName ++ "> root, found <" ++ String.ofList root.name ++ ">"))

/-- The token in the text of an answer. -/
def token (text : String) : Except Failure AccessToken :=
  match Xml.Node.parse? text.toList with
  | some root => tokenOf root
  | none => .error (.answer .malformedBody "XML")

end LoginGateway.GitHub.TokenDocument
