import LoginGateway.GitHub.TokenDocument
import LoginGateway.Proofs.Xml.Documents

/-!
Where the token stands. Of every document of plain elements the token is the text that the first
child `access_token` of the root `OAuth` begins with, character for character as it was meant; what
else the document holds has no part in it. A document without a token is an answer without a token
and never a malformed one. Main statement: `token_of_document`.
-/

namespace LoginGateway.GitHub.TokenDocument

open Login
open Xml (Node Blank Refers SpellsText Spells Sets Declares SpellsDocument isQuote isSettingChar)

/-- The root is an element `OAuth`, and its first child `access_token` begins with this text. -/
def HoldsToken (root : Node) (token : List Char) : Prop :=
  ∃ before inner after, root = .element "OAuth".toList
      (before ++ .element "access_token".toList (.text token :: inner) :: after) ∧
    ∀ node ∈ before, node.isNamed "access_token" = false

/-! ### Children -/

theorem isNamed_iff {node : Node} {name : String} :
    node.isNamed name = true ↔ ∃ nodes, node = .element name.toList nodes := by
  cases node with
  | text | aside => simp [Node.isNamed]
  | element label nodes => simp [Node.isNamed]

theorem text?_eq_some_iff {nodes : List Node} {name content : List Char} :
    (Node.element name nodes).text? = some content ↔ ∃ inner, nodes = .text content :: inner := by
  cases nodes with
  | nil => simp [Node.text?, Node.children]
  | cons first inner => cases first <;> simp [Node.text?, Node.children]

/-- The first child of a name is found, wherever it stands among the others. -/
theorem child?_eq_some_iff {nodes : List Node} {label : List Char} {name : String} {found : Node} :
    (Node.element label nodes).child? name = some found ↔
      found.isNamed name = true ∧ ∃ before after, nodes = before ++ found :: after ∧
        ∀ node ∈ before, node.isNamed name = false := by
  simp [Node.child?, Node.children, List.find?_eq_some_iff_append]

/-! ### Tokens -/

theorem tokenOf_eq_ok_iff {root : Node} {token : AccessToken} :
    tokenOf root = .ok token ↔ HoldsToken root token.secret.toList := by
  rw [tokenOf]
  constructor
  · intro h
    split at h
    · next hroot =>
        split at h
        · next content hcontent =>
            cases h
            obtain ⟨nodes, rfl⟩ := isNamed_iff.mp hroot
            obtain ⟨child, hchild, htext⟩ := Option.bind_eq_some_iff.mp hcontent
            obtain ⟨hnamed, before, after, rfl, hbefore⟩ := child?_eq_some_iff.mp hchild
            obtain ⟨children, rfl⟩ := isNamed_iff.mp hnamed
            obtain ⟨inner, rfl⟩ := text?_eq_some_iff.mp htext
            have hsecret : (String.ofList content).toList = content := String.toList_ofList
            exact ⟨before, inner, after, by rw [hsecret]; rfl, hbefore⟩
        · cases h
    · cases h
  · rintro ⟨before, inner, after, rfl, hbefore⟩
    have hroot (nodes : List Node) : (Node.element "OAuth".toList nodes).isNamed rootName = true :=
      isNamed_iff.mpr ⟨nodes, rfl⟩
    have hchild (nodes : List Node) : (Node.element "OAuth".toList
        (before ++ .element "access_token".toList nodes :: after)).child? "access_token" =
          some (.element "access_token".toList nodes) :=
      child?_eq_some_iff.mpr ⟨isNamed_iff.mpr ⟨nodes, rfl⟩, before, after, rfl, hbefore⟩
    rw [if_pos (hroot _), hchild]
    exact congrArg (fun secret => Except.ok (AccessToken.mk secret)) String.ofList_toList

theorem tokenOf_eq_error {root : Node} (hroot : root.isNamed rootName = true)
    (hnone : ∀ t, ¬HoldsToken root t) :
    tokenOf root = .error (.answer .missingAccessToken (reason root)) := by
  cases htext : (root.child? "access_token").bind Node.text? with
  | none => rw [tokenOf, if_pos hroot, htext]
  | some content =>
      have htoken : tokenOf root = .ok ⟨String.ofList content⟩ := by
        rw [tokenOf, if_pos hroot, htext]
      exact absurd (tokenOf_eq_ok_iff.mp htoken) (hnone _)

/-- A tree without a token is an answer without a token. -/
theorem exists_tokenOf_eq_error {root : Node} (h : ∀ t, ¬HoldsToken root t) :
    ∃ told, tokenOf root = .error (.answer .missingAccessToken told) := by
  by_cases hroot : root.isNamed rootName = true
  · exact ⟨_, tokenOf_eq_error hroot h⟩
  · rw [tokenOf, if_neg hroot]
    exact ⟨_, rfl⟩

theorem not_holdsToken_of_child? {root : Node} (h : root.child? "access_token" = none) :
    ∀ t, ¬HoldsToken root t := by
  rintro t ⟨before, inner, after, rfl, -⟩
  exact List.find?_eq_none.mp h (.element "access_token".toList (.text t :: inner))
    (List.mem_append_right before List.mem_cons_self) (isNamed_iff.mpr ⟨_, rfl⟩)

/-- The token of a document is the text it was written for, and only that text. -/
theorem token_of_document {name text : List Char} {nodes : List Node}
    (hplain : (Node.element name nodes).isPlain = true)
    (h : SpellsDocument (.element name nodes) text) :
    (∀ t, token (String.ofList text) = .ok t ↔ HoldsToken (.element name nodes) t.secret.toList) ∧
      ((∀ t, ¬HoldsToken (.element name nodes) t) →
        ∃ told, token (String.ofList text) = .error (.answer .missingAccessToken told)) := by
  have htoken : token (String.ofList text) = tokenOf (.element name nodes) := by
    rw [token, String.toList_ofList, h.parse?_eq hplain]
  rw [htoken]
  exact ⟨fun t => tokenOf_eq_ok_iff, exists_tokenOf_eq_error⟩

/-- An answer in which other elements of the token's name stand, one deeper in the tree before the
token and one after it. -/
def crowded : List Node := [
  .element "scope".toList [.element "access_token".toList [.text "deep".toList]],
  .text "\n".toList,
  .element "access_token".toList [.text " a&b ".toList, .element "x".toList []],
  .element "access_token".toList []]

def crowdedText : String := "<?xml version='1.0' ?>\n<OAuth>" ++
  "<scope ><access_token>deep</access_token></scope>\n" ++
  "<access_token> a&amp;b&#x20;<x /></access_token\n><access_token/></OAuth>"

theorem spellsDocument_crowded : ∃ text, SpellsDocument (.element "OAuth".toList crowded) text ∧
    String.ofList text = crowdedText := by
  have hnone : Blank [] := by decide
  have hspace : Blank [' '] := by decide
  have hline : Blank ['\n'] := by decide
  have hdeep : Spells (.element "access_token".toList [.text "deep".toList]) _ :=
    .element hnone (.cons (.text (Xml.spellsText_escape _)) .nil) hnone
  have hscope : Spells (.element "scope".toList
      [.element "access_token".toList [.text "deep".toList]]) _ :=
    .element hspace (.cons hdeep .nil) hnone
  have hcode : Refers "#x20".toList ' ' := .hexadecimal (by decide) (by decide)
  have htext : SpellsText " a&b ".toList " a&amp;b&#x20;".toList :=
    .plain rfl <| .plain rfl <| .reference .amp <| .plain rfl <|
      .reference hcode .nil
  have htoken : Spells (.element "access_token".toList
      [.text " a&b ".toList, .element "x".toList []]) _ :=
    .element hnone (.cons (.text htext) (.cons (.empty hspace) .nil)) hline
  have hroot : Spells (.element "OAuth".toList crowded) _ :=
    .element hnone (.cons hscope <| .cons (.text (Xml.spellsText_escape _)) <| .cons htoken <|
      .cons (.empty hnone) .nil) hnone
  have hsets : Sets "version" " version='1.0'".toList :=
    .quoted (List.cons_ne_nil ' ' []) hspace hnone hnone (show isQuote '\'' = true from rfl)
      (List.all_eq_true.mp (show "1.0".toList.all isSettingChar = true by decide))
  have hdeclares : Declares _ := .version hsets (.absent (.absent (.done hspace)))
  exact ⟨_, .declared hdeclares (.padded hline hroot hnone), by decide +kernel⟩

theorem token_of_document_crowded :
    (Node.element "OAuth".toList crowded).isPlain = true ∧
      (∃ text, SpellsDocument (.element "OAuth".toList crowded) text ∧
        String.ofList text = crowdedText) ∧
      token crowdedText = .ok ⟨" a&b "⟩ := by
  have hplain : (Node.element "OAuth".toList crowded).isPlain = true := by decide
  obtain ⟨text, htext, hcrowded⟩ := spellsDocument_crowded
  refine ⟨hplain, ⟨text, htext, hcrowded⟩, hcrowded ▸ ?_⟩
  exact ((token_of_document hplain htext).1 ⟨" a&b "⟩).mpr
    ⟨crowded.take 2, [.element "x".toList []], crowded.drop 3, rfl, by decide⟩

end LoginGateway.GitHub.TokenDocument
