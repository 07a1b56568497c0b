import LoginGateway.Xml.Basic

/-!
The text of an XML tree. The characters that would be read as markup or changed as line ends stand
as references.
-/

namespace LoginGateway.Xml

def escapeChar (c : Char) : List Char :=
  match c with
  | '&' => "&amp;".toList
  | '<' => "&lt;".toList
  | '>' => "&gt;".toList
  | '\r' => "&#13;".toList
  | c => [c]

namespace Node

mutual

def render : Node → List Char
  | text content => content.flatMap escapeChar
  | aside => "<!---->".toList
  | element name nodes =>
    '<' :: name ++ '>' :: renderAll nodes ++ '<' :: '/' :: name ++ ['>']

def renderAll : List Node → List Char
  | [] => []
  | node :: rest => node.render ++ renderAll rest

end

end Node

end LoginGateway.Xml
