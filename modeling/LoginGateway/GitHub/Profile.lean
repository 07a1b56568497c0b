import LoginGateway.Json.Enclosure
import LoginGateway.Login.Pass

/-!
The answer to a profile request: an object with an integer `id`, and a `login` and an `avatar_url`
that may be missing.
-/

namespace LoginGateway.GitHub.Profile

open Login

def textOr (j : Json) (field fallback : String) : String :=
  (((j.get? field.toList).bind Json.text?).map String.ofList).getD fallback

def urn (id : Int) : String := "urn:" ++ Provider.github.name ++ s!":{id}"

def properties (j : Json) : Properties :=
  .ofList [("login", textOr j "login" "unknown"), ("avatar", textOr j "avatar_url" "#")]

def identity (j : Json) : Except Failure Identity :=
  match (j.get? "id".toList).bind Json.int64? with
  | some id => .ok ⟨urn id, properties j⟩
  | none => .error (.login .malformedProfile "GitHub user has no numeric id")

end LoginGateway.GitHub.Profile
