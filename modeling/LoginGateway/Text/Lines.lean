import LoginGateway.Text.Split

/-!
The lines of a text. A line feed ends a line, and a carriage return before it belongs to the end; a
text that ends with a line feed has no empty line behind it.
-/

namespace LoginGateway.Text

def withoutReturn (line : List Char) : List Char :=
  if line.getLast? = some '\r' then line.dropLast else line

def lines (s : List Char) : List (List Char) :=
  let pieces := splitOn '\n' s
  match pieces.getLast? with
  | some [] => pieces.dropLast.map withoutReturn
  | some last => pieces.dropLast.map withoutReturn ++ [last]
  | none => []

def firstLine (s : List Char) : List Char := ((lines s).head?).getD []

end LoginGateway.Text
