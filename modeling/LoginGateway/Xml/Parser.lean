import LoginGateway.Xml.Basic
import LoginGateway.Xml.Reference
import LoginGateway.Xml.Token

/-!
The tree of a document. Tags match in pairs, one element holds all others, and every namespace that
a name mentions is declared. Main definition: `Node.parse?`.
-/

namespace LoginGateway.Xml

/-- A namespace and the name that stands for it; the default namespace has no name. -/
structure Binding where
  label : List Char
  address : List Char
deriving DecidableEq, Repr

namespace Binding

/-- The label that an attribute declares, if it declares one. -/
def declared? (name : Name) : Option (List Char) :=
  if name.space = "xmlns".toList then some name.label
  else if name.space.isEmpty && name.label == "xmlns".toList then some []
  else none

/-- The address that a label stands for among the declarations in effect, newest first. The label
`xml` needs no declaration. -/
def find? (scope : List Binding) (label : List Char) : Option (List Char) :=
  match List.find? (·.label == label) scope with
  | some b => some b.address
  | none => if label = "xml".toList then some label else none

end Binding

/-- What the attributes of a tag declare, and the names and values of the others. -/
def sortAttributes : List Attribute → Option (List Binding × List Name)
  | [] => some ([], [])
  | a :: rest => do
    let value ← decodeValue a.written
    let (bindings, names) ← sortAttributes rest
    match Binding.declared? a.name with
    | none => some (bindings, a.name :: names)
    | some label =>
      if bindings.all (·.label != label) then some (⟨label, value⟩ :: bindings, names) else none

/-- An attribute without a label is in no namespace. -/
def expand? (scope : List Binding) (name : Name) : Option (List Char × List Char) :=
  if name.space.isEmpty then some ([], name.label)
  else (Binding.find? scope name.space).map fun address => (address, name.label)

/-- The declarations in effect inside a tag, if its names are declared and differ. -/
def enter? (scope : List Binding) (name : Name) (attributes : List Attribute) :
    Option (List Binding) := do
  let (bindings, names) ← sortAttributes attributes
  let inner := bindings ++ scope
  let _ ← expand? inner name
  let expanded ← names.mapM (expand? inner)
  if expanded.eraseDups.length = expanded.length then some inner else none

/-- An element whose closing tag has not come yet; its children stand newest first. -/
structure Opened where
  name : Name
  scope : List Binding
  children : List Node

/-- The open elements, innermost first, and the outermost one once it is closed. -/
structure Building where
  opened : List Opened := []
  root : Option Node := none

namespace Building

/-- A text that follows a text belongs to it. -/
def addChild (children : List Node) (node : Node) : List Node :=
  match node, children with
  | .text content, .text before :: rest => .text (before ++ content) :: rest
  | node, children => node :: children

def add (b : Building) (node : Node) : Option Building :=
  match b.opened with
  | top :: rest =>
    some { b with opened := { top with children := addChild top.children node } :: rest }
  | [] =>
    match node, b.root with
    | .element .., none => some { b with root := some node }
    | .aside, _ => some b
    | _, _ => none

def scope (b : Building) : List Binding := (b.opened.head?.map (·.scope)).getD []

def step (b : Building) : Token → Option Building
  | .opening name attributes isEmpty => do
    let inner ← enter? b.scope name attributes
    if b.opened.isEmpty && b.root.isSome then none
    else if isEmpty then b.add (.element name.label [])
    else some { b with opened := ⟨name, inner, []⟩ :: b.opened }
  | .closing name =>
    match b.opened with
    | top :: rest =>
      if top.name = name then
        { b with opened := rest }.add (.element name.label top.children.reverse)
      else none
    | [] => none
  | .characters written =>
    if b.opened.isEmpty && written.all isSpace then some b
    else (decodeText written).bind fun content => b.add (.text content)
  | .literal content => b.add (.text (normalizeLines content))
  | .aside => b.add .aside

def finish (b : Building) : Option Node := if b.opened.isEmpty then b.root else none

end Building

def Node.ofTokens? (tokens : List Token) : Option Node :=
  (tokens.foldlM Building.step {}).bind Building.finish

/-- The attributes that a declaration may have, in this order. -/
def readDeclared (names : List String) (s : List Char) : Option (List Char) :=
  match names with
  | [] => Text.behind? "?>" (skipSpaces s)
  | name :: names => do
    if !s.head?.any isSpace && (Text.behind? "?>" s).isNone then none
    let t := skipSpaces s
    if (Text.behind? name t).isSome then
      let (_, rest) ← Attribute.read? t
      readDeclared names rest
    else readDeclared names s

/-- A declaration states its version first. -/
def skipDeclaration (s : List Char) : Option (List Char) :=
  match Text.behind? "<?xml " s with
  | none => some s
  | some rest => do
    let (_, rest) ← if (Text.behind? "version" (skipSpaces rest)).isSome then
      Attribute.read? (skipSpaces rest) else none
    readDeclared ["encoding", "standalone"] rest

def skipMark : List Char → List Char
  | '\uFEFF' :: rest => rest
  | s => s

/-- The outermost element of a document. -/
def Node.parse? (s : List Char) : Option Node :=
  let s := skipMark s
  if s.all isAllowed then do
    let s ← skipDeclaration s
    let tokens ← Token.scan s
    Node.ofTokens? tokens
  else none

end LoginGateway.Xml
