import LoginGateway.Text.Printable

/-!
Texts in double quotes, as log lines and listings show them. A quote, a backslash and everything
without a printed form of its own stand as escapes, so the quote that closes the text is the first
one that no backslash precedes.
-/

namespace LoginGateway.Text

def escapeCode (c : Char) : List Char := "\\u\x7b".toList ++ hexadecimal c.toNat ++ ['\x7d']

def escapeChar (c : Char) : List Char :=
  if c = '"' then ['\\', '"']
  else if c = '\\' then ['\\', '\\']
  else if c = '\n' then ['\\', 'n']
  else if c = '\r' then ['\\', 'r']
  else if c = '\t' then ['\\', 't']
  else if c = '\x00' then ['\\', '0']
  else if printable.covers c && !extending.covers c then [c]
  else escapeCode c

def quoted (s : String) : String := String.ofList ('"' :: s.toList.flatMap escapeChar ++ ['"'])

/-- A bracketed list of quoted texts. -/
def quotedList (texts : List String) : String :=
  "[" ++ ", ".intercalate (texts.map quoted) ++ "]"

end LoginGateway.Text
