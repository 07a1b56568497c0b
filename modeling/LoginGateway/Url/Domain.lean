import LoginGateway.Url.Percent
import LoginGateway.Url.Idna.Label
import LoginGateway.Url.Punycode

/-!
Domain names in their ASCII spelling. A name of plain labels is only put in lower case; a label
outside ASCII is brought to its canonical spelling and written in Punycode behind `xn--`; a label
that is already so written must be the spelling of an allowed label. Main definition:
`Domain.toAscii?`.
-/

namespace LoginGateway.Domain

/-- The ASCII characters that no domain name contains. -/
def isForbidden (c : Char) : Bool :=
  c.toNat ≤ 0x20 || c.toNat == 0x7F || "%#/:<>?@[\\]^|".toList.contains c

def encodedMark : List Char := "xn--".toList

def isEncoded (label : List Char) : Bool := encodedMark.isPrefixOf label

/-- The label that an encoded one spells, if it is allowed and could not have been written plainly. -/
def decodeLabel? (label : List Char) : Option (List Char) := do
  let spelled ← Punycode.decode? (label.drop encodedMark.length)
  if spelled.all Percent.isAscii then none
  if Idna.compose spelled ≠ spelled then none
  if spelled.mapM Idna.replacement? = some (spelled.map ([·])) then some spelled else none

/-- A label in both spellings: with its own characters, and in ASCII. -/
def spellings? (label : List Char) : Option (List Char × List Char) := do
  let spelled ← if isEncoded label then decodeLabel? label else some label
  if !Idna.isAllowed spelled then none
  if spelled.all Percent.isAscii then some (spelled, spelled)
  else if isEncoded label then some (spelled, label)
  else some (spelled, encodedMark ++ Punycode.encode spelled)

def internationalToAscii? (name : List Char) : Option (List Char) := do
  let mapped ← name.mapM Idna.replacement?
  let canonical := Idna.compose mapped.flatten
  if canonical.any isForbidden then none
  let labels ← (Text.splitOn '.' canonical).mapM spellings?
  if labels.any (fun l => Idna.hasRightToLeft l.1) && !labels.all (fun l => Idna.directionsAgree l.1) then
    none
  some (Text.joinWith ['.'] (labels.map (·.2)))

/-- A name that needs no look at the tables. -/
def isPlain (name : List Char) : Bool :=
  name.all Percent.isAscii && !(Text.splitOn '.' (name.map Char.toLower)).any isEncoded

/-- The ASCII spelling of a name; none if some label is not allowed. -/
def toAscii? (name : List Char) : Option (List Char) :=
  if isPlain name then
    if name.any isForbidden then none else some (name.map Char.toLower)
  else internationalToAscii? name

end LoginGateway.Domain
