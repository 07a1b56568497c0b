import LoginGateway.Json.Basic
import LoginGateway.Text.Number

/-!
The compact text of a JSON document: no blanks, and in strings only quotes, backslashes and controls
as escapes.
-/

namespace LoginGateway.Json

/-- A control without a letter of its own is four hexadecimal digits. -/
def controlEscape (c : Char) : List Char :=
  "\\u00".toList ++ [Text.digitChar (c.toNat / 16), Text.digitChar (c.toNat % 16)]

def escapeChar (c : Char) : List Char :=
  if c = '"' then ['\\', '"']
  else if c = '\\' then ['\\', '\\']
  else if c = '\x08' then ['\\', 'b']
  else if c = '\x0C' then ['\\', 'f']
  else if c = '\n' then ['\\', 'n']
  else if c = '\r' then ['\\', 'r']
  else if c = '\t' then ['\\', 't']
  else if c.toNat < 0x20 then controlEscape c
  else [c]

def renderText (s : List Char) : List Char := '"' :: s.flatMap escapeChar ++ ['"']

def renderInt (n : Int) : List Char :=
  if n < 0 then '-' :: Text.decimal n.natAbs else Text.decimal n.natAbs

/-- The pieces with commas between them. -/
def commas : List (List Char) → List Char
  | [] => []
  | [piece] => piece
  | piece :: next :: rest => piece ++ ',' :: commas (next :: rest)

mutual

def render : Json → List Char
  | null => "null".toList
  | bool b => (if b then "true" else "false").toList
  | integer n => renderInt n
  | decimal written => written
  | string s => renderText s
  | array items => '[' :: commas (renderItems items) ++ [']']
  | object members => '\x7b' :: commas (renderMembers members) ++ ['\x7d']

def renderItems : List Json → List (List Char)
  | [] => []
  | item :: rest => item.render :: renderItems rest

def renderMembers : List (List Char × Json) → List (List Char)
  | [] => []
  | (name, value) :: rest => (renderText name ++ ':' :: value.render) :: renderMembers rest

end

end LoginGateway.Json
