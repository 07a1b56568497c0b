import LoginGateway.Proofs.GitHub.TokenExtraction

/-!
Why there is no token. An answer without a token may say why in `error_description` or in `error`;
the rule is that the login fails with the description, or else with the error, or else with the words
that there was no token. But one element is asked for the reason, and no other one where that element
has nothing to say: then the reason of another element is lost. Main statement: `token_explains_iff`.
-/

namespace LoginGateway.GitHub.TokenDocument

open Login
open Xml (Node)

variable {root : Node} {told : String}

/-- A child of the name begins with this text, which is not empty. -/
def Tells (root : Node) (name : String) (text : List Char) : Prop :=
  text ≠ [] ∧ ∃ child ∈ root.children, child.isNamed name = true ∧ child.text? = some text

def IsSilent (root : Node) (name : String) : Prop := ∀ text, ¬Tells root name text

/-- What the error has to tell by the rule. -/
inductive Explains (root : Node) : String → Prop
  | described {text : List Char} : Tells root "error_description" text →
      Explains root (String.ofList text)
  | named {text : List Char} : IsSilent root "error_description" → Tells root "error" text →
      Explains root (String.ofList text)
  | unknown : IsSilent root "error_description" → IsSilent root "error" →
      Explains root defaultReason

/-- The element that is asked for the reason: the first description, or the first error of an answer
without a description. -/
def asked? (root : Node) : Option Node := root.child? "error_description" <|> root.child? "error"

/-- There is an element to ask, and it has no text or an empty one. -/
def AsksInVain (root : Node) : Prop :=
  ∃ child, asked? root = some child ∧ ∀ text, child.text? = some text → text = []

theorem Explains.ne_empty (h : Explains root told) : told ≠ "" := by
  have hne {text : List Char} (h : text ≠ []) : String.ofList text ≠ "" := by
    intro hempty
    exact h (by simpa using congrArg String.toList hempty)
  cases h with
  | described htells => exact hne htells.1
  | named _ htells => exact hne htells.1
  | unknown => decide

theorem isSilent_of_child? {name : String} (h : root.child? name = none) : IsSilent root name := by
  rintro text ⟨-, child, hchild, hnamed, -⟩
  exact List.find?_eq_none.mp h child hchild hnamed

theorem tells_of_child? {name : String} {child : Node} {text : List Char}
    (h : root.child? name = some child) (htext : child.text? = some text) (hne : text ≠ []) :
    Tells root name text :=
  ⟨hne, child, List.mem_of_find?_eq_some h, List.find?_some h, htext⟩

/-! ### The element that is asked -/

theorem reason_eq : reason root =
    (((asked? root).bind Node.text?).map String.ofList).getD defaultReason := rfl

theorem reason_of_asksInVain (h : AsksInVain root) :
    reason root = defaultReason ∨ reason root = "" := by
  obtain ⟨child, hasked, hempty⟩ := h
  rw [reason_eq, hasked, Option.bind_some]
  cases htext : child.text? with
  | none => exact .inl rfl
  | some text =>
      right
      rw [hempty text htext]
      rfl

theorem explains_reason (h : ¬AsksInVain root) : Explains root (reason root) := by
  have hsays {child : Node} (hasked : asked? root = some child) :
      ∃ text, child.text? = some text ∧ text ≠ [] := by
    by_contra hnone
    exact h ⟨child, hasked, fun text htext => by_contra fun hne => hnone ⟨text, htext, hne⟩⟩
  rw [reason_eq]
  cases hdescription : root.child? "error_description" with
  | some child =>
      have hasked : asked? root = some child := by rw [asked?, hdescription]; rfl
      obtain ⟨text, htext, hne⟩ := hsays hasked
      rw [hasked, Option.bind_some, htext]
      exact .described (tells_of_child? hdescription htext hne)
  | none =>
      have hsilent := isSilent_of_child? hdescription
      have hasked : asked? root = root.child? "error" := by rw [asked?, hdescription]; rfl
      cases herror : root.child? "error" with
      | some child =>
          rw [herror] at hasked
          obtain ⟨text, htext, hne⟩ := hsays hasked
          rw [hasked, Option.bind_some, htext]
          exact .named hsilent (tells_of_child? herror htext hne)
      | none =>
          rw [hasked, herror]
          exact .unknown hsilent (isSilent_of_child? herror)

/-- The rule is kept, unless the element that is asked has nothing to say and another one has. -/
theorem token_explains_iff {text : String} (hparse : Node.parse? text.toList = some root)
    (hroot : root.isNamed "OAuth" = true) (hnone : ∀ t, ¬HoldsToken root t) :
    ∃ told, token text = .error (.answer .missingAccessToken told) ∧
      (AsksInVain root → told = defaultReason ∨ told = "") ∧
      (Explains root told ↔
        (AsksInVain root → told = defaultReason ∧ Explains root defaultReason)) := by
  refine ⟨reason root, ?_, reason_of_asksInVain, ?_, ?_⟩
  · rw [token, hparse]
    exact tokenOf_eq_error hroot hnone
  · intro hexplains hvain
    have hdefault := (reason_of_asksInVain hvain).resolve_right hexplains.ne_empty
    exact ⟨hdefault, hdefault ▸ hexplains⟩
  · intro h
    by_cases hvain : AsksInVain root
    · obtain ⟨hdefault, hexplains⟩ := h hvain
      exact hdefault ▸ hexplains
    · exact explains_reason hvain

/-- An answer that gives both a description and an error. -/
def expired : Node := .element "OAuth".toList [
  .element "error".toList [.text "bad_verification_code".toList],
  .element "error_description".toList [.text "It is expired.".toList]]

def expiredText : String := "<OAuth><error>bad_verification_code</error>" ++
  "<error_description>It is expired.</error_description></OAuth>"

/-- The same, with a description that is empty and comes first. -/
def unheard : Node := .element "OAuth".toList [
  .element "error_description".toList [],
  .element "error".toList [.text "bad_verification_code".toList]]

def unheardText : String := "<OAuth><error_description></error_description>" ++
  "<error>bad_verification_code</error></OAuth>"

theorem token_explains_expired :
    Node.parse? expiredText.toList = some expired ∧ expired.isNamed "OAuth" = true ∧
      (∀ t, ¬HoldsToken expired t) ∧
      token expiredText = .error (.answer .missingAccessToken "It is expired.") ∧
      Explains expired "It is expired." := by
  have hparse : Node.parse? expiredText.toList = some expired := by
    rw [show expiredText.toList = expired.render by decide]
    exact Xml.parse?_render (by decide)
  have hnone : ∀ t, ¬HoldsToken expired t := not_holdsToken_of_child? rfl
  have hheard : ¬AsksInVain expired := by
    rintro ⟨child, hasked, hempty⟩
    obtain rfl := Option.some.inj hasked
    cases hempty _ rfl
  have htold : token expiredText = .error (.answer .missingAccessToken "It is expired.") := by
    rw [token, hparse]
    rfl
  obtain ⟨told, htoken, -, hexplains⟩ := token_explains_iff hparse rfl hnone
  obtain rfl : told = "It is expired." := by
    rw [htold] at htoken
    cases htoken
    rfl
  exact ⟨hparse, rfl, hnone, htold, hexplains.mpr fun hvain => absurd hvain hheard⟩

theorem eq_of_tells_unheard {name : String} {text : List Char} (h : Tells unheard name text) :
    name = "error" ∧ text = "bad_verification_code".toList := by
  obtain ⟨-, child, hchild, hnamed, htext⟩ := h
  rcases List.mem_cons.mp hchild with rfl | hchild
  · cases htext
  · obtain rfl := List.mem_singleton.mp hchild
    cases htext
    exact ⟨(String.toList_inj.mp (beq_iff_eq.mp hnamed)).symm, rfl⟩

/-- The empty description is asked, and the error that the answer does name is lost. -/
theorem token_loses_reason :
    Node.parse? unheardText.toList = some unheard ∧ unheard.isNamed "OAuth" = true ∧
      (∀ t, ¬HoldsToken unheard t) ∧ Tells unheard "error" "bad_verification_code".toList ∧
      token unheardText = .error (.answer .missingAccessToken defaultReason) ∧
      ¬Explains unheard defaultReason := by
  have hparse : Node.parse? unheardText.toList = some unheard := by
    rw [show unheardText.toList = unheard.render by decide]
    exact Xml.parse?_render (by decide)
  have htells : Tells unheard "error" "bad_verification_code".toList :=
    ⟨by decide, _, List.mem_cons_of_mem _ List.mem_cons_self, rfl, rfl⟩
  refine ⟨hparse, rfl, not_holdsToken_of_child? rfl, htells, by rw [token, hparse]; rfl, ?_⟩
  intro h
  generalize hdefault : defaultReason = told at h
  cases h with
  | described h => exact absurd (eq_of_tells_unheard h).1 (by decide)
  | named _ h =>
      rw [(eq_of_tells_unheard h).2] at hdefault
      exact absurd hdefault (by decide)
  | unknown _ h => exact h _ htells

end LoginGateway.GitHub.TokenDocument
