import LoginGateway.Proofs.Xml.Declarations

/-!
Whole documents: an element, perhaps with white space around it, perhaps behind a declaration. Of a
document that spells a plain element the reader makes that element. Main statement:
`SpellsDocument.parse?_eq`.
-/

namespace LoginGateway.Xml

/-- The element, with white space around it. -/
inductive SpellsPadded (root : Node) : List Char → Prop
  | padded {before written after : List Char} : Blank before → Spells root written → Blank after →
      SpellsPadded root (before ++ (written ++ after))

inductive SpellsDocument (root : Node) : List Char → Prop
  | bare {text : List Char} : SpellsPadded root text → SpellsDocument root text
  | declared {declaration text : List Char} : Declares declaration → SpellsPadded root text →
      SpellsDocument root (declaration ++ text)

/-- Every plain element has a document. -/
theorem spellsDocument_render {root : Node} (h : root.isPlain = true) :
    SpellsDocument root root.render := by
  simpa using SpellsDocument.bare (.padded blank_nil (root.spells_render h) blank_nil)

theorem SpellsPadded.allowed {root : Node} {text : List Char} (h : SpellsPadded root text)
    (hplain : root.isPlain = true) : Allowed text := by
  cases h with
  | padded hbefore hwritten hafter =>
      exact allowed_append_iff.mpr
        ⟨hbefore.allowed, allowed_append_iff.mpr ⟨hwritten.allowed hplain, hafter.allowed⟩⟩

/-- No mark of the byte order stands in front. -/
theorem skipMark_eq {s : List Char} (h : ∀ c ∈ s.head?, c ≠ '\uFEFF') : skipMark s = s := by
  rw [skipMark]
  rintro rest rfl
  exact h _ rfl rfl

theorem parse?_eq_run {s : List Char} (hallowed : Allowed s) (hmark : ∀ c ∈ s.head?, c ≠ '\uFEFF') :
    Node.parse? s = ((skipDeclaration s).bind (Building.run {})).bind Building.finish := by
  rw [Node.parse?, skipMark_eq hmark, if_pos (List.all_eq_true.mpr hallowed)]
  cases skipDeclaration s with
  | none => rfl
  | some s =>
      rw [Option.bind_some, Building.run]
      cases hscan : Token.scan s <;> simp [hscan, Node.ofTokens?]

section documents

variable {name text : List Char} {nodes : List Node}

theorem Spells.exists_tag {written : List Char} (h : Spells (.element name nodes) written) :
    ∃ tail, written = '<' :: (name ++ tail) := by
  cases h with
  | element | empty => exact ⟨_, rfl⟩

theorem SpellsPadded.head (h : SpellsPadded (.element name nodes) text) :
    ∀ c ∈ text.head?, c ≠ '\uFEFF' := by
  cases h with
  | @padded before written after hbefore hwritten _ =>
      obtain ⟨tail, rfl⟩ := hwritten.exists_tag
      cases before with
      | nil =>
          rintro c ⟨⟩
          decide
      | cons d before =>
          rintro c ⟨⟩ rfl
          cases hbefore _ List.mem_cons_self

variable (hplain : (Node.element name nodes).isPlain = true)
include hplain

theorem SpellsPadded.run_eq (h : SpellsPadded (.element name nodes) text) :
    Building.run {} text = some { root := some (.element name nodes) } := by
  have hend : Token.EndsText [] := nofun
  cases h with
  | @padded before written after hbefore hwritten hafter =>
      have hstart : Token.EndsText (written ++ after) := by
        obtain ⟨tail, rfl⟩ := hwritten.exists_tag
        rintro c ⟨⟩
        rfl
      have hadd : Building.add {} (.element name nodes) =
          some { root := some (.element name nodes) } := rfl
      have hblank :=
        Building.run_blank hafter (b := { root := some (.element name nodes) }) rfl hend
      rw [List.append_nil, Building.run_nil] at hblank
      rw [Building.run_blank hbefore rfl hstart,
        hwritten.reads hplain {} after (fun _ => ⟨rfl, rfl⟩) nofun, hadd, Option.bind_some, hblank]

theorem SpellsPadded.skipDeclaration_eq (h : SpellsPadded (.element name nodes) text) :
    skipDeclaration text = some text := by
  have hbehind : Text.behind? "<?xml " text = none := by
    cases h with
    | @padded before written after hbefore hwritten _ =>
        obtain ⟨tail, rfl⟩ := hwritten.exists_tag
        obtain ⟨c, rest, rfl, hc⟩ := exists_first (Node.isPlain_element_iff.mp hplain).1
        cases before with
        | nil =>
            have hne : c ≠ '?' := ne_of_isPlainChar (isPlainChar_of_first hc) (by decide)
            simp [Text.behind?, hne.symm]
        | cons d before =>
            refine Text.behind?_of_head? rfl ?_ _
            rintro rfl
            cases hbefore _ List.mem_cons_self
  rw [skipDeclaration, hbehind]

/-- The reader makes of a document the element that it spells. -/
theorem SpellsDocument.parse?_eq (h : SpellsDocument (.element name nodes) text) :
    Node.parse? text = some (.element name nodes) := by
  cases h with
  | bare htext =>
      rw [parse?_eq_run (htext.allowed hplain) htext.head, htext.skipDeclaration_eq hplain,
        Option.bind_some, htext.run_eq hplain]
      rfl
  | @declared declaration text hdeclares htext =>
      have hhead : ∀ c ∈ (declaration ++ text).head?, c ≠ '\uFEFF' := by
        cases hdeclares with
        | version =>
            rintro c ⟨⟩
            decide
      rw [parse?_eq_run (allowed_append_iff.mpr ⟨hdeclares.allowed, htext.allowed hplain⟩) hhead,
        hdeclares.run_eq, htext.run_eq hplain]
      rfl

/-- What the printer makes of a plain element is read as that element. -/
theorem parse?_render : Node.parse? (Node.element name nodes).render = some (.element name nodes) :=
  (spellsDocument_render hplain).parse?_eq hplain

end documents

end LoginGateway.Xml
