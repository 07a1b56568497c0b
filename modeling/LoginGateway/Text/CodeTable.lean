import LoginGateway.Text.Number

/-!
Tables over code points, written as text: stretches `first-last` in hexadecimal, in ascending order,
each with a note that the table's reader interprets.
-/

namespace LoginGateway

structure Stretch where
  first : Nat
  last : Nat
  note : List Char

abbrev CodeTable := List Stretch

namespace CodeTable

def isHexDigit (c : Char) : Bool := c.isDigit || ('A' ≤ c && c ≤ 'F')

def number (s : List Char) : Nat := (Text.numeral? 16 s).getD 0

def stretch (s : List Char) : Stretch :=
  let first := number (s.takeWhile isHexDigit)
  match s.dropWhile isHexDigit with
  | '-' :: rest => ⟨first, number (rest.takeWhile isHexDigit), rest.dropWhile isHexDigit⟩
  | note => ⟨first, first, note⟩

def readChars (s : List Char) : CodeTable :=
  ((Text.splitWhere (fun c => c == ' ' || c == '\n') s).filter (!·.isEmpty)).map stretch

def read (s : String) : CodeTable := readChars s.toList

def lookup (t : CodeTable) (code : Nat) : Option Stretch :=
  List.find? (fun s : Stretch => s.first ≤ code && code ≤ s.last) t

def covers (t : CodeTable) (c : Char) : Bool :=
  t.any fun s => s.first ≤ c.toNat && c.toNat ≤ s.last

end CodeTable

end LoginGateway
