import LoginGateway.Proofs.Xml.Markup
import LoginGateway.Proofs.Xml.WrittenText
import LoginGateway.Xml.Parser

/-!
The grammar of plain elements. A tag may hold white space behind its name, an element without
children may be one tag, and texts are written with references. What spells a node adds just that
node to what has been built. Main statement: `Spells.reads`.
-/

namespace LoginGateway.Xml

namespace Node

mutual

/-- A tree of elements with plain names and of texts, none of which is empty or follows another. -/
def isPlain : Node → Bool
  | text content => !content.isEmpty && content.all isAllowed
  | aside => false
  | element name nodes => isPlainName name && arePlain nodes

def arePlain : List Node → Bool
  | [] => true
  | node :: rest => node.isPlain && !(node.isText && rest.head?.any isText) && arePlain rest

end

end Node

mutual

/-- The text spells the node, from its first character to its last. -/
inductive Spells : Node → List Char → Prop
  | text {content written : List Char} : SpellsText content written → Spells (.text content) written
  | element {name gap written gap' : List Char} {nodes : List Node} : Blank gap →
      SpellsAll nodes written → Blank gap' →
      Spells (.element name nodes)
        ('<' :: (name ++ (gap ++ '>' :: (written ++ '<' :: '/' :: (name ++ (gap' ++ ['>']))))))
  | empty {name gap : List Char} : Blank gap →
      Spells (.element name []) ('<' :: (name ++ (gap ++ ['/', '>'])))

inductive SpellsAll : List Node → List Char → Prop
  | nil : SpellsAll [] []
  | cons {node : Node} {nodes : List Node} {written more : List Char} : Spells node written →
      SpellsAll nodes more → SpellsAll (node :: nodes) (written ++ more)

end

theorem blank_nil : Blank [] := nofun

namespace Node

theorem isPlain_text_iff {content : List Char} :
    (text content).isPlain = true ↔ content ≠ [] ∧ Allowed content := by
  simp [isPlain, Allowed]

theorem isPlain_element_iff {name : List Char} {nodes : List Node} :
    (element name nodes).isPlain = true ↔ isPlainName name = true ∧ arePlain nodes = true := by
  rw [isPlain, Bool.and_eq_true]

theorem arePlain_cons {node : Node} {nodes : List Node} (h : arePlain (node :: nodes) = true) :
    node.isPlain = true ∧ (node.isText = true → nodes.head?.any isText = false) ∧
      arePlain nodes = true := by
  rw [arePlain, Bool.and_eq_true, Bool.and_eq_true] at h
  exact ⟨h.1.1, fun htext => by simpa [htext] using h.1.2, h.2⟩

mutual

/-- Every plain tree is spelled by the text that the printer makes of it. -/
theorem spells_render (node : Node) (h : node.isPlain = true) : Spells node node.render := by
  match node with
  | text content => exact .text (spellsText_escape content)
  | aside => cases h
  | element name nodes =>
      have hnodes := (isPlain_element_iff.mp h).2
      have hspells : Spells (.element name nodes) _ :=
        .element blank_nil (spellsAll_renderAll nodes hnodes) blank_nil
      change Spells _ ('<' :: name ++ '>' :: renderAll nodes ++ '<' :: '/' :: name ++ ['>'])
      simpa using hspells
termination_by structural node

theorem spellsAll_renderAll (nodes : List Node) (h : arePlain nodes = true) :
    SpellsAll nodes (renderAll nodes) := by
  match nodes with
  | [] => exact .nil
  | node :: rest =>
      obtain ⟨hnode, -, hrest⟩ := arePlain_cons h
      exact .cons (spells_render node hnode) (spellsAll_renderAll rest hrest)
termination_by structural nodes

end

end Node

/-! ### Characters that may occur -/

theorem Blank.allowed {gap : List Char} (h : Blank gap) : Allowed gap :=
  fun c hc => isAllowed_of_isSpace (h c hc)

theorem allowed_of_isPlainName {name : List Char} (h : isPlainName name = true) : Allowed name :=
  fun c hc => isAllowed_of_isPlainChar (isPlainChar_of_mem h c hc)

section allowed

variable {written name gap gap' : List Char}

theorem allowed_element (hname : isPlainName name = true) (hgap : Blank gap)
    (hwritten : Allowed written) (hgap' : Blank gap') : Allowed
      ('<' :: (name ++ (gap ++ '>' :: (written ++ '<' :: '/' :: (name ++ (gap' ++ ['>'])))))) := by
  have hname := allowed_of_isPlainName hname
  simp only [allowed_cons_iff, allowed_append_iff]
  exact ⟨by decide, hname, hgap.allowed, by decide, hwritten, by decide, by decide, hname,
    hgap'.allowed, by decide, allowed_nil⟩

theorem allowed_empty (hname : isPlainName name = true) (hgap : Blank gap) :
    Allowed ('<' :: (name ++ (gap ++ ['/', '>']))) := by
  simp only [allowed_cons_iff, allowed_append_iff]
  exact ⟨by decide, allowed_of_isPlainName hname, hgap.allowed, by decide, by decide, allowed_nil⟩

end allowed

/-- A plain node is spelled in characters that may occur. -/
theorem Spells.allowed {node : Node} {written : List Char} (h : Spells node written)
    (hplain : node.isPlain = true) : Allowed written :=
  @Spells.rec (fun node written _ => node.isPlain = true → Allowed written)
    (fun nodes written _ => Node.arePlain nodes = true → Allowed written)
    (fun h hplain => h.allowed (Node.isPlain_text_iff.mp hplain).2)
    (fun hgap _ hgap' hwritten hplain =>
      let ⟨hname, hnodes⟩ := Node.isPlain_element_iff.mp hplain
      allowed_element hname hgap (hwritten hnodes) hgap')
    (fun hgap hplain => allowed_empty (Node.isPlain_element_iff.mp hplain).1 hgap)
    (fun _ => allowed_nil)
    (fun _ _ hwritten hmore hplain =>
      let ⟨hnode, _, hnodes⟩ := Node.arePlain_cons hplain
      allowed_append_iff.mpr ⟨hwritten hnode, hmore hnodes⟩)
    node written h hplain

/-! ### What is left of a document -/

namespace Building

/-- Reads what is left of a document on top of what has been built. -/
def run (b : Building) (s : List Char) : Option Building :=
  (Token.scan s).bind fun tokens => tokens.foldlM step b

/-- The same inside an element that has these children so far, newest first. -/
def within (b : Building) (name : List Char) (children : List Node) : Building :=
  { b with opened := ⟨⟨[], name⟩, b.scope, children⟩ :: b.opened }

/-- Outside all elements there is one element and no text. -/
def Admits (b : Building) (node : Node) : Prop :=
  b.opened = [] → node.isText = false ∧ b.root = none

theorem run_nil (b : Building) : b.run [] = some b := by
  rw [run, Token.scan]
  rfl

theorem run_read {s rest : List Char} {token : Token} (h : Token.read? s = some (token, rest))
    (hlength : rest.length < s.length) (b : Building) :
    b.run s = (b.step token).bind (·.run rest) := by
  have hs : s.isEmpty = false := by
    cases s with
    | nil => cases hlength
    | cons => rfl
  simp only [run]
  rw [Token.scan, hs, if_neg (by decide), h]
  simp only [if_pos hlength]
  -- The tokens of the rest are read before the step is taken; both orders fail alike.
  cases Token.scan rest with
  | none => cases b.step token <;> rfl
  | some tokens => rfl

/-! #### One token -/

theorem enter?_plain (scope : List Binding) (name : List Char) :
    enter? scope ⟨[], name⟩ [] = some scope := rfl

section step

variable {b : Building} {name : List Char}

theorem not_complete (hopen : b.opened = [] → b.root = none) :
    ¬(b.opened.isEmpty && b.root.isSome) = true := by
  simpa using hopen

theorem step_opening (hopen : b.opened = [] → b.root = none) :
    b.step (.opening ⟨[], name⟩ [] false) = some (b.within name []) := by
  rw [step, enter?_plain, Option.bind_eq_bind, Option.bind_some, if_neg (not_complete hopen)]
  rfl

theorem step_openingEmpty (hopen : b.opened = [] → b.root = none) :
    b.step (.opening ⟨[], name⟩ [] true) = b.add (.element name []) := by
  rw [step, enter?_plain, Option.bind_eq_bind, Option.bind_some, if_neg (not_complete hopen)]
  rfl

theorem step_closing (b : Building) (name : List Char) (children : List Node) :
    (b.within name children).step (.closing ⟨[], name⟩) =
      b.add (.element name children.reverse) := if_pos rfl

theorem step_characters {content written : List Char} (hopen : b.opened ≠ [])
    (h : decodeText written = some content) :
    b.step (.characters written) = b.add (.text content) := by
  have hinside : ¬(b.opened.isEmpty && written.all isSpace) = true := by
    simp [hopen]
  rw [step, if_neg hinside, h, Option.bind_some]

theorem step_blank {gap : List Char} (hgap : Blank gap) (hopen : b.opened = []) :
    b.step (.characters gap) = some b := by
  have hspace : gap.all isSpace = true := List.all_eq_true.mpr hgap
  rw [step, hopen, hspace]
  exact if_pos rfl

end step

section tags

variable {name gap : List Char} (hname : isPlainName name = true) (hgap : Blank gap)
  (s : List Char) {b : Building}
include hname hgap

theorem run_opening (hopen : b.opened = [] → b.root = none) :
    b.run ('<' :: (name ++ (gap ++ '>' :: s))) = (b.within name []).run s := by
  rw [run_read (Token.read?_opening hname hgap s) (by simp; omega), step_opening hopen,
    Option.bind_some]

theorem run_openingEmpty (hopen : b.opened = [] → b.root = none) :
    b.run ('<' :: (name ++ (gap ++ '/' :: '>' :: s))) =
      (b.add (.element name [])).bind (·.run s) := by
  rw [run_read (Token.read?_openingEmpty hname hgap s) (by simp; omega), step_openingEmpty hopen]

theorem run_closing (b : Building) (children : List Node) :
    (b.within name children).run ('<' :: '/' :: (name ++ (gap ++ '>' :: s))) =
      (b.add (.element name children.reverse)).bind (·.run s) := by
  rw [run_read (Token.read?_closing hname hgap s) (by simp; omega), step_closing]

end tags

theorem run_text {content written : List Char} (h : SpellsText content written)
    (hne : content ≠ []) (hcontent : Allowed content) {b : Building}
    (hopen : b.opened ≠ []) {s : List Char} (hs : Token.EndsText s) :
    b.run (written ++ s) = (b.add (.text content)).bind (·.run s) := by
  have hlength : s.length < (written ++ s).length := by
    simpa using List.length_pos_of_ne_nil (h.ne_nil hne)
  rw [run_read (Token.read?_characters (h.ne_nil hne) (h.not_mem hcontent (by decide))
    (h.not_mem hcontent (by decide)) hs) hlength,
    step_characters hopen (h.decodeText_eq hcontent)]

theorem run_blank {gap : List Char} (hgap : Blank gap) {b : Building} (hopen : b.opened = [])
    {s : List Char} (hs : Token.EndsText s) : b.run (gap ++ s) = b.run s := by
  by_cases hne : gap = []
  · rw [hne, List.nil_append]
  · have hlength : s.length < (gap ++ s).length := by
      simpa using List.length_pos_of_ne_nil hne
    rw [run_read (Token.read?_characters hne (hgap.not_mem (by decide)) (hgap.not_mem (by decide))
      hs) hlength, step_blank hgap hopen, Option.bind_some]

end Building

/-! ### Reading, rule by rule -/

/-- Read on top of what has been built, the text adds the node to it. -/
def Reads (node : Node) (written : List Char) : Prop :=
  ∀ (b : Building) (s : List Char), b.Admits node → (node.isText = true → Token.EndsText s) →
    b.run (written ++ s) = (b.add node).bind (·.run s)

/-- Read inside an element, in front of a tag, the text adds the nodes to its children. -/
def ReadsAll (nodes : List Node) (written : List Char) : Prop :=
  ∀ (b : Building) (name : List Char) (children : List Node) (s : List Char),
    (children.head?.any Node.isText = true → nodes.head?.any Node.isText = false) →
    (b.within name children).run (written ++ '<' :: s) =
      (b.within name (nodes.reverse ++ children)).run ('<' :: s)

section rules

variable {content written more name gap gap' : List Char} {node : Node} {nodes : List Node}

theorem reads_text (h : SpellsText content written) (hne : content ≠ [])
    (hcontent : Allowed content) : Reads (.text content) written := by
  intro b s hadmits hs
  refine Building.run_text h hne hcontent ?_ (hs rfl)
  intro hopen
  cases (hadmits hopen).1

theorem reads_empty (hname : isPlainName name = true) (hgap : Blank gap) :
    Reads (.element name []) ('<' :: (name ++ (gap ++ ['/', '>']))) := by
  intro b s hadmits _
  simpa using Building.run_openingEmpty hname hgap s fun hopen => (hadmits hopen).2

theorem reads_element (hname : isPlainName name = true) (hgap : Blank gap)
    (hread : ReadsAll nodes written) (hgap' : Blank gap') :
    Reads (.element name nodes)
      ('<' :: (name ++ (gap ++ '>' :: (written ++ '<' :: '/' :: (name ++ (gap' ++ ['>'])))))) := by
  intro b s hadmits _
  have hopening := Building.run_opening hname hgap
    (written ++ '<' :: '/' :: (name ++ (gap' ++ '>' :: s))) fun hopen => (hadmits hopen).2
  have hinner := hread b name [] ('/' :: (name ++ (gap' ++ '>' :: s))) (by simp)
  have hclosing := Building.run_closing hname hgap' s b (nodes.reverse ++ [])
  simpa only [List.cons_append, List.append_assoc, List.nil_append, List.append_nil,
    List.reverse_reverse] using (hopening.trans hinner).trans hclosing

theorem readsAll_nil : ReadsAll [] [] := fun _ _ _ _ _ => rfl

theorem Spells.exists_cons (h : Spells node written) (hnode : node.isText = false) :
    ∃ tail, written = '<' :: tail := by
  cases h with
  | text => cases hnode
  | element | empty => exact ⟨_, rfl⟩

theorem SpellsAll.endsText (h : SpellsAll nodes written)
    (hnodes : nodes.head?.any Node.isText = false) (s : List Char) :
    Token.EndsText (written ++ '<' :: s) := by
  cases h with
  | nil =>
      rintro c ⟨⟩
      rfl
  | cons hnode =>
      obtain ⟨tail, rfl⟩ := hnode.exists_cons hnodes
      rintro c ⟨⟩
      rfl

/-- A child becomes the newest one, since no text comes upon a text. -/
theorem add_within (b : Building) (name : List Char) {children : List Node}
    (h : children.head?.any Node.isText = true → node.isText = false) :
    (b.within name children).add node = some (b.within name (node :: children)) := by
  have hchild : Building.addChild children node = node :: children := by
    rw [Building.addChild]
    rintro content before rest rfl rfl
    cases h rfl
  exact congrArg (fun children => some (b.within name children)) hchild

theorem readsAll_cons (hread : Reads node written) (hnodes : SpellsAll nodes more)
    (hnext : node.isText = true → nodes.head?.any Node.isText = false)
    (hmore : ReadsAll nodes more) : ReadsAll (node :: nodes) (written ++ more) := by
  intro b name children s hchildren
  have hadmits : (b.within name children).Admits node := nofun
  have hnode := hread (b.within name children) (more ++ '<' :: s) hadmits fun htext =>
    hnodes.endsText (hnext htext) s
  rw [add_within b name hchildren, Option.bind_some, hmore b name (node :: children) s hnext]
    at hnode
  simpa using hnode

end rules

/-- What spells a plain node is read as that node. -/
theorem Spells.reads {node : Node} {written : List Char} (h : Spells node written)
    (hplain : node.isPlain = true) : Reads node written :=
  @Spells.rec (fun node written _ => node.isPlain = true → Reads node written)
    (fun nodes written _ => Node.arePlain nodes = true → ReadsAll nodes written)
    (fun h hplain =>
      let ⟨hne, hcontent⟩ := Node.isPlain_text_iff.mp hplain
      reads_text h hne hcontent)
    (fun hgap _ hgap' hread hplain =>
      let ⟨hname, hnodes⟩ := Node.isPlain_element_iff.mp hplain
      reads_element hname hgap (hread hnodes) hgap')
    (fun hgap hplain => reads_empty (Node.isPlain_element_iff.mp hplain).1 hgap)
    (fun _ => readsAll_nil)
    (fun _ hspells hread hmore hplain =>
      let ⟨hnode, hnext, hnodes⟩ := Node.arePlain_cons hplain
      readsAll_cons (hread hnode) hspells hnext (hmore hnodes))
    node written h hplain

end LoginGateway.Xml
