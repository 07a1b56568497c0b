import LoginGateway.Json.Parser
import LoginGateway.Json.Printer

/-!
Documents of texts, read back from what was written. Whatever characters the texts hold, reading the
compact text of such a document gives the document. Main statement: `parse?_render`.
-/

namespace LoginGateway.Json

/-! ### Strings -/

theorem hexQuad?_control :
    ∀ n < 0x20, hexQuad? '0' '0' (Text.digitChar (n / 16)) (Text.digitChar (n % 16)) = some n := by
  decide

/-- A code unit that is not the first half of a pair is read by itself, also before another one, and
so is a half in front of which no other one stands. -/
theorem readText_unit {a b c d : Char} {n : Nat} {rest : List Char}
    (hquad : hexQuad? a b c d = some n)
    (halone : isLead n = false ∨ ∀ e f g h more, rest ≠ '\\' :: 'u' :: e :: f :: g :: h :: more) :
    readText ('\\' :: 'u' :: a :: b :: c :: d :: rest) =
      (unpaired? n).bind fun x => (readText rest).map fun p => (x :: p.1, p.2) := by
  rw [readText.eq_def]
  split
  case h_2 heq =>
    simp only [List.cons.injEq, true_and] at heq
    obtain ⟨rfl, rfl, rfl, rfl, rfl⟩ := heq
    have hlead : isLead n = false := halone.resolve_right fun h => h _ _ _ _ _ rfl
    simp only [hquad, hlead]
    exact Option.bind_congr fun x _ => Option.map_eq_bind.symm
  case h_3 heq =>
    simp only [List.cons.injEq, true_and] at heq
    obtain ⟨rfl, rfl, rfl, rfl, rfl⟩ := heq
    simp only [hquad, Option.bind_some]
    exact Option.bind_congr fun x _ => Option.map_eq_bind.symm
  case h_4 hshort heq =>
    simp only [List.cons.injEq, true_and] at heq
    exact absurd heq.2.symm (hshort _ _ _ _ _ heq.1.symm)
  case h_5 hescape heq =>
    simp only [List.cons.injEq] at heq
    exact absurd heq.2.symm (hescape _ _ heq.1.symm)
  all_goals simp_all

/-- An escape that is no half of a pair is read by itself, also before another escape. -/
theorem readText_unicode {a b c d x : Char} {n : Nat} (hquad : hexQuad? a b c d = some n)
    (hlead : isLead n = false) (hchar : unpaired? n = some x) (rest : List Char) :
    readText ('\\' :: 'u' :: a :: b :: c :: d :: rest) =
      (readText rest).map fun p => (x :: p.1, p.2) := by
  rw [readText_unit hquad (.inl hlead), hchar]
  rfl
theorem readText_simpleEscape {c x : Char} (hc : c ≠ 'u') (hescape : simpleEscape? c = some x)
    (rest : List Char) :
    readText ('\\' :: c :: rest) = (readText rest).map fun p => (x :: p.1, p.2) := by
  rw [readText.eq_def]
  split
  case h_4 heq =>
    simp only [List.cons.injEq, true_and] at heq
    obtain ⟨rfl, rfl⟩ := heq
    simp only [hescape]
    exact Option.map_eq_bind.symm
  case h_5 hother heq =>
    simp only [List.cons.injEq] at heq
    exact absurd heq.2.symm (hother _ _ heq.1.symm)
  all_goals simp_all

theorem readText_plain {c : Char} (hquote : c ≠ '"') (hslash : c ≠ '\\') (hcontrol : ¬c.toNat < 0x20)
    (rest : List Char) : readText (c :: rest) = (readText rest).map fun p => (c :: p.1, p.2) := by
  rw [readText.eq_def]
  split
  case h_5 heq =>
    obtain ⟨rfl, rfl⟩ := List.cons.inj heq
    simp only [hcontrol, hslash, decide_false, beq_eq_false_iff_ne.mpr, ne_eq, not_false_eq_true,
      Bool.or_self]
    exact Option.map_eq_bind.symm
  all_goals simp_all

/-- Every character is read back from what was written for it. -/
theorem readText_escapeChar (c : Char) (rest : List Char) :
    readText (escapeChar c ++ rest) = (readText rest).map fun p => (c :: p.1, p.2) := by
  rw [escapeChar]
  -- Seven characters have a letter of their own.
  iterate 7
    split
    · next h =>
        subst h
        exact readText_simpleEscape (by decide) rfl rest
  split
  · next hcontrol =>
      refine readText_unicode (hexQuad?_control _ hcontrol) ?_ ?_ rest
      · rw [isLead, Bool.and_eq_false_iff]
        exact .inl (decide_eq_false (by omega))
      · have hwhole : (isLead c.toNat || isTrail c.toNat) = false := by
          simp only [isLead, isTrail, Bool.or_eq_false_iff, Bool.and_eq_false_iff,
            decide_eq_false_iff_not]
          omega
        rw [unpaired?, hwhole]
        simp
  · next hquote hslash _ _ _ _ _ hcontrol => exact readText_plain hquote hslash hcontrol rest

theorem readText_renderText (s rest : List Char) :
    readText (s.flatMap escapeChar ++ '"' :: rest) = some (s, rest) := by
  induction s with
  | nil => simp [readText]
  | cons c s ih =>
      rw [List.flatMap_cons, List.append_assoc, readText_escapeChar, ih]
      rfl

/-! ### Objects -/

/-- A text, or an object that leads to texts alone and is nested at most `depth` deep. -/
inductive Textual : Nat → Json → Prop
  | string {depth : Nat} (s : List Char) : Textual depth (.string s)
  | object {depth : Nat} {members : List (List Char × Json)} :
      (∀ m ∈ members, Textual depth m.2) → Textual (depth + 1) (.object members)

def renderMember (m : List Char × Json) : List Char := renderText m.1 ++ ':' :: m.2.render

theorem renderMembers_eq (members : List (List Char × Json)) :
    renderMembers members = members.map renderMember := by
  induction members with
  | nil => rw [renderMembers, List.map_nil]
  | cons m rest ih =>
      rw [renderMembers, List.map_cons, ih]
      rfl

theorem skipBlanks_of_head {c : Char} (hc : isBlank c = false) (rest : List Char) :
    skipBlanks (c :: rest) = c :: rest := by
  rw [skipBlanks, List.dropWhile_cons_of_neg (by simp [hc])]

section items

variable {α : Type} {item : List Char → Option (α × List Char)} {write : α → List Char}
  {close : Char}

/-- Items that are read back one by one are read back from a list of them. -/
theorem readItems_commas (hclose : close ≠ ',') (hblank : isBlank close = false) {items : List α}
    (hne : items ≠ []) (hitem : ∀ a ∈ items, ∀ rest, item (write a ++ rest) = some (a, rest))
    {most : Nat} (hmost : items.length ≤ most) (rest : List Char) :
    readItems item close most (commas (items.map write) ++ close :: rest) = some (items, rest) := by
  induction items generalizing most with
  | nil => exact absurd rfl hne
  | cons a items ih =>
      have hread (rest : List Char) : item (write a ++ rest) = some (a, rest) :=
        hitem a List.mem_cons_self rest
      rw [List.length_cons] at hmost
      obtain ⟨most, rfl⟩ := Nat.exists_eq_add_of_lt hmost
      cases items with
      | nil =>
          rw [List.map_singleton, commas, readItems, hread]
          simp only [Option.bind_eq_bind, Option.bind_some, skipBlanks_of_head hblank, if_true]
      | cons b items =>
          have hle : (b :: items).length ≤ (b :: items).length + most := Nat.le_add_right _ _
          have htail := ih (by simp) (fun c hc => hitem c (List.mem_cons_of_mem a hc)) hle
          rw [List.map_cons, List.map_cons, commas, List.append_assoc, readItems, hread]
          simp only [List.map_cons] at htail
          simp only [Option.bind_eq_bind, Option.bind_some, List.cons_append,
            skipBlanks_of_head (show isBlank ',' = false by decide), htail]

theorem length_le_commas (pieces : List (List Char)) :
    pieces.length ≤ (commas pieces).length + 1 := by
  induction pieces with
  | nil => simp
  | cons piece pieces ih =>
      cases pieces with
      | nil => simp
      | cons next rest =>
          rw [commas]
          simp only [List.length_append, List.length_cons] at ih ⊢
          omega

theorem readParts_commas (hclose : close ≠ ',') (hblank : isBlank close = false) {items : List α}
    (hhead : ∀ a ∈ items, ∃ c text, write a = c :: text ∧ c ≠ close ∧ isBlank c = false)
    (hitem : ∀ a ∈ items, ∀ rest, item (write a ++ rest) = some (a, rest)) (rest : List Char) :
    readParts item close (commas (items.map write) ++ close :: rest) = some (items, rest) := by
  cases items with
  | nil =>
      rw [readParts, List.map_nil, commas, List.nil_append, skipBlanks_of_head hblank]
      simp
  | cons a items =>
      obtain ⟨c, text, hwrite, hc, hcblank⟩ := hhead a List.mem_cons_self
      have hlength : (a :: items).length ≤
          (commas ((a :: items).map write) ++ close :: rest).length := by
        have hpieces := length_le_commas ((a :: items).map write)
        rw [List.length_map] at hpieces
        rw [List.length_append, List.length_cons (a := close)]
        omega
      have hitems := readItems_commas hclose hblank (by simp) hitem hlength rest
      obtain ⟨tail, htail⟩ :
          ∃ tail, commas ((a :: items).map write) ++ close :: rest = c :: tail := by
        cases items <;> simp [commas, hwrite]
      rw [readParts, hitems, htail, skipBlanks_of_head hcblank]
      exact if_neg hc

end items

/-! ### Documents -/

theorem readMember_renderMember {value : List Char → Option (Json × List Char)}
    {m : List Char × Json} (hvalue : ∀ rest, value (m.2.render ++ rest) = some (m.2, rest))
    (rest : List Char) : readMember value (renderMember m ++ rest) = some (m, rest) := by
  have hwritten : renderMember m ++ rest =
      '"' :: (m.1.flatMap escapeChar ++ '"' :: ':' :: (m.2.render ++ rest)) := by
    simp [renderMember, renderText]
  rw [hwritten, readMember, skipBlanks_of_head (by decide)]
  simp only [readText_renderText, Option.bind_eq_bind, Option.bind_some,
    skipBlanks_of_head (show isBlank ':' = false by decide), hvalue]

theorem readValue_render {depth : Nat} {j : Json} (h : Textual depth j) (rest : List Char) :
    readValue depth (j.render ++ rest) = some (j, rest) := by
  induction h generalizing rest with
  | @string depth s =>
      have hwritten : (Json.string s).render ++ rest =
          '"' :: (s.flatMap escapeChar ++ '"' :: rest) := by
        simp [render, renderText]
      have hscalar : readScalar ('"' :: (s.flatMap escapeChar ++ '"' :: rest)) =
          some (.string s, rest) := by
        rw [readScalar, readText_renderText]
        rfl
      rw [hwritten]
      cases depth with
      | zero => rw [readValue, skipBlanks_of_head (by decide), hscalar]
      | succ depth =>
          rw [readValue, skipBlanks_of_head (by decide)]
          exact hscalar
  | @object depth members _ ih =>
      have hwritten : (Json.object members).render ++ rest =
          '\x7b' :: (commas (members.map renderMember) ++ '\x7d' :: rest) := by
        simp [render, renderMembers_eq]
      rw [hwritten, readValue, skipBlanks_of_head (by decide)]
      simp only
      rw [readParts_commas (by decide) (by decide) ?_ ?_ rest]
      · rfl
      · intro m _
        exact ⟨'"', _, rfl, by decide, by decide⟩
      · intro m hm rest
        exact readMember_renderMember (ih m hm) rest

/-- A document of texts that is not nested too deep is what its compact text writes. -/
theorem parse?_render {j : Json} (h : Textual maxDepth j) : parse? j.render = some j := by
  have hread := readValue_render h []
  rw [List.append_nil] at hread
  rw [parse?, hread]
  rfl

end LoginGateway.Json
