import LoginGateway.Text.Utf8

/-!
Percent encoding. Which characters are escaped depends on the component; a character outside ASCII
is always escaped, byte by byte. Decoding leaves a percent sign that two hexadecimal digits do not
follow as it stands.
-/

namespace LoginGateway.Percent

def hexDigit (n : Nat) : Char := Char.ofNat (if n < 10 then 0x30 + n else 0x37 + n)

def hexValue? (n : Nat) : Option Nat :=
  if 0x30 ≤ n ∧ n ≤ 0x39 then some (n - 0x30)
  else if 0x41 ≤ n ∧ n ≤ 0x46 then some (n - 0x37)
  else if 0x61 ≤ n ∧ n ≤ 0x66 then some (n - 0x57)
  else none

def encodeByte (b : UInt8) : List Char :=
  ['%', hexDigit (b.toNat / 16), hexDigit (b.toNat % 16)]

/-- A class of ASCII characters that a component writes as escapes. -/
abbrev EscapeSet := Char → Bool

def isAscii (c : Char) : Bool := c.toNat < 0x80

def encodeChar (escaped : EscapeSet) (c : Char) : List Char :=
  if isAscii c && !escaped c then [c] else (Utf8.encodeChar c).flatMap encodeByte

def encode (escaped : EscapeSet) (s : List Char) : List Char := s.flatMap (encodeChar escaped)

/-- The byte that a percent sign and two hexadecimal digits write. -/
def escapedByte? (sign high low : UInt8) : Option UInt8 :=
  if sign = 0x25 then
    match hexValue? high.toNat, hexValue? low.toNat with
    | some h, some l => some (UInt8.ofNat (16 * h + l))
    | _, _ => none
  else none

def decode : Bytes → Bytes
  | b :: high :: low :: rest =>
    match escapedByte? b high low with
    | some byte => byte :: decode rest
    | none => b :: decode (high :: low :: rest)
  | rest => rest

/-- The bytes that a text stands for. -/
def decodeText (s : List Char) : Bytes := decode (Utf8.encode s)

def controls : EscapeSet := fun c => c.toNat < 0x20 || c.toNat == 0x7F

def fragmentSet : EscapeSet := fun c => controls c || " \"<>\x60".toList.contains c

def querySet : EscapeSet := fun c => controls c || " \"#<>".toList.contains c

def specialQuerySet : EscapeSet := fun c => querySet c || c == '\''

def pathSet : EscapeSet := fun c => fragmentSet c || "#?\x7b\x7d".toList.contains c

def userinfoSet : EscapeSet := fun c => pathSet c || "/:;=@[\\]^|".toList.contains c

/-- What a segment appended to a path escapes besides. -/
def segmentSet (special : Bool) : EscapeSet := fun c =>
  pathSet c || c == '/' || c == '%' || (special && c == '\\')

end LoginGateway.Percent
