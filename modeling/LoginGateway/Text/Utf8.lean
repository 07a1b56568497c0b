/-!
UTF-8 over lists of bytes. Every text has one encoding; every byte string has a reading, in which
each ill-formed sequence, taken as long as it could still have become a character, stands as one
replacement character.
-/

namespace LoginGateway

abbrev Bytes := List UInt8

namespace Utf8

def encodeChar (c : Char) : Bytes :=
  let n := c.toNat
  if n < 0x80 then [UInt8.ofNat n]
  else if n < 0x800 then [UInt8.ofNat (0xC0 + n / 64), UInt8.ofNat (0x80 + n % 64)]
  else if n < 0x10000 then
    [UInt8.ofNat (0xE0 + n / 4096), UInt8.ofNat (0x80 + n / 64 % 64), UInt8.ofNat (0x80 + n % 64)]
  else
    [UInt8.ofNat (0xF0 + n / 262144), UInt8.ofNat (0x80 + n / 4096 % 64),
      UInt8.ofNat (0x80 + n / 64 % 64), UInt8.ofNat (0x80 + n % 64)]

def encode (s : List Char) : Bytes := s.flatMap encodeChar

def replacement : Char := '\uFFFD'

/-- What a first byte announces: its own share of the value, how many bytes follow, and the range
of the second byte, which excludes overlong forms, surrogates and values past U+10FFFF. -/
structure Lead where
  value : Nat
  following : Nat
  low : Nat := 0x80
  high : Nat := 0xBF

def lead? (b : UInt8) : Option Lead :=
  let n := b.toNat
  if n < 0xC2 then none
  else if n < 0xE0 then some { value := n - 0xC0, following := 1 }
  else if n = 0xE0 then some { value := 0, following := 2, low := 0xA0 }
  else if n = 0xED then some { value := 0xD, following := 2, high := 0x9F }
  else if n < 0xF0 then some { value := n - 0xE0, following := 2 }
  else if n = 0xF0 then some { value := 0, following := 3, low := 0x90 }
  else if n < 0xF4 then some { value := n - 0xF0, following := 3 }
  else if n = 0xF4 then some { value := 4, following := 3, high := 0x8F }
  else none

/-- Adds the following bytes to the value read so far; `none` at the first byte out of range,
which is left unread. -/
def follow (value : Nat) : Nat → Nat → Nat → Bytes → Option Nat × Bytes
  | 0, _, _, rest => (some value, rest)
  | _ + 1, _, _, [] => (none, [])
  | k + 1, low, high, b :: rest =>
    if low ≤ b.toNat ∧ b.toNat ≤ high then
      follow (value * 64 + (b.toNat - 0x80)) k 0x80 0xBF rest
    else (none, b :: rest)

theorem follow_length_le (value k low high : Nat) (bs : Bytes) :
    (follow value k low high bs).2.length ≤ bs.length := by
  induction bs generalizing value k low high with
  | nil => cases k <;> simp [follow]
  | cons b rest ih =>
      cases k with
      | zero => simp [follow]
      | succ k =>
          simp only [follow]
          split
          · exact Nat.le_succ_of_le (ih _ _ _ _)
          · simp

/-- The reading of any byte string. -/
def decodeLossy : Bytes → List Char
  | [] => []
  | b :: rest =>
    if b.toNat < 0x80 then Char.ofNat b.toNat :: decodeLossy rest
    else
      match lead? b with
      | none => replacement :: decodeLossy rest
      | some l =>
        have := follow_length_le l.value l.following l.low l.high rest
        let read := follow l.value l.following l.low l.high rest
        (match read.1 with
          | some n => Char.ofNat n
          | none => replacement) :: decodeLossy read.2
termination_by bs => bs.length

/-- The text that the bytes encode, if they are well formed. -/
def decode? (bs : Bytes) : Option (List Char) :=
  let s := decodeLossy bs
  if encode s = bs then some s else none

theorem encode_append (s t : List Char) : encode (s ++ t) = encode s ++ encode t := by
  simp [encode]

end Utf8

end LoginGateway
