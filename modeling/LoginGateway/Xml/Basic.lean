/-!
XML documents as trees of elements and texts. Attributes are not kept. A comment or a processing
instruction is a node without content: it separates the texts around it.
-/

namespace LoginGateway.Xml

inductive Node
  | text (content : List Char)
  | aside
  | element (name : List Char) (children : List Node)
deriving Repr

namespace Node

def isText : Node → Bool
  | text _ => true
  | _ => false

def children : Node → List Node
  | element _ nodes => nodes
  | _ => []

def name : Node → List Char
  | element name _ => name
  | _ => []

def isNamed (wanted : String) : Node → Bool
  | element name _ => name == wanted.toList
  | _ => false

/-- The first child element of a name. -/
def child? (n : Node) (wanted : String) : Option Node := n.children.find? (isNamed wanted)

/-- The text that an element begins with. -/
def text? (n : Node) : Option (List Char) :=
  match n.children with
  | text content :: _ => some content
  | _ => none

end Node

end LoginGateway.Xml
