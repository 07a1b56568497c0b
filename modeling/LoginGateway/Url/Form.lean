import LoginGateway.Text.Split
import LoginGateway.Url.Percent

/-!
Form encoding of name and value pairs, as in a posted form and in the query of a URL. A name or
value is written with letters, digits and `*-._` as they are, a space as `+`, every other byte
as an escape; so no separator stands inside a written name or value.
-/

namespace LoginGateway.Form

abbrev Pair := List Char × List Char

def isPlain (c : Char) : Bool := c.isAlphanum || "*-._".toList.contains c

def encodeChar (c : Char) : List Char :=
  if c = ' ' then ['+'] else Percent.encodeChar (fun c => !isPlain c) c

def encodeText (s : List Char) : List Char := s.flatMap encodeChar

def encodePair (p : Pair) : List Char := encodeText p.1 ++ '=' :: encodeText p.2

def encode (pairs : List Pair) : List Char := Text.joinWith ['&'] (pairs.map encodePair)

def decodeText (s : List Char) : List Char :=
  Utf8.decodeLossy (Percent.decodeText (s.map fun c => if c = '+' then ' ' else c))

def decodePair (s : List Char) : Pair :=
  match Text.cutAt '=' s with
  | (name, value) => (decodeText name, decodeText (value.getD []))

/-- Every pair of the text, in order; an empty stretch between two separators is none. -/
def decode (s : List Char) : List Pair :=
  ((Text.splitOn '&' s).filter (!·.isEmpty)).map decodePair

end LoginGateway.Form
