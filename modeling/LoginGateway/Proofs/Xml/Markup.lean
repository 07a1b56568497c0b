import LoginGateway.Proofs.Text.Numerals
import LoginGateway.Proofs.Text.Splitting
import LoginGateway.Xml.Token

/-!
Plain markup: tags without attributes, and white space before the end of a tag. One lemma for each
kind of markup tells what is read of it, whatever stands behind it.
-/

namespace LoginGateway.Xml

def Blank (s : List Char) : Prop := ∀ c ∈ s, isSpace c = true

instance : DecidablePred Blank := List.decidableBAll _

/-- A character that a plain name may have behind its first one. -/
def isPlainChar (c : Char) : Bool := c.isAlphanum || c == '_' || c == '-' || c == '.'

/-- ASCII letters and digits, underscores, hyphens and dots; a letter or an underscore is first. -/
def isPlainName : List Char → Bool
  | [] => false
  | c :: rest => (c.isAlpha || c == '_') && rest.all isPlainChar

/-! ### Characters -/

theorem exists_of_isSpace {c : Char} (h : isSpace c = true) :
    c = ' ' ∨ c = '\t' ∨ c = '\n' ∨ c = '\r' := by
  simpa [isSpace, or_assoc] using h

theorem isAllowed_of_isSpace {c : Char} (h : isSpace c = true) : isAllowed c = true := by
  rcases exists_of_isSpace h with rfl | rfl | rfl | rfl <;> decide

theorem isNameChar_of_isSpace {c : Char} (h : isSpace c = true) : isNameChar c = false := by
  rcases exists_of_isSpace h with rfl | rfl | rfl | rfl <;> decide

theorem skipSpaces_append {gap : List Char} (hgap : Blank gap) {c : Char} (hc : isSpace c = false)
    (s : List Char) : skipSpaces (gap ++ c :: s) = c :: s := by
  rw [skipSpaces, List.dropWhile_append_of_pos hgap, List.dropWhile_cons_of_neg (by simp [hc])]

theorem isPlainChar_of_first {c : Char} (h : (c.isAlpha || c == '_') = true) :
    isPlainChar c = true := by
  rcases Bool.or_eq_true _ _ |>.mp h with h | h <;> simp [isPlainChar, Char.isAlphanum, h]

theorem isNameStart_of_first {c : Char} (h : (c.isAlpha || c == '_') = true) :
    isNameStart c = true := by
  rcases Bool.or_eq_true _ _ |>.mp h with h | h <;> simp [isNameStart, h]

theorem ne_of_isPlainChar {c d : Char} (hc : isPlainChar c = true) (hd : isPlainChar d = false) :
    c ≠ d := by
  rintro rfl
  rw [hc] at hd
  cases hd

theorem isNameChar_of_isPlainChar {c : Char} (h : isPlainChar c = true) : isNameChar c = true := by
  simp only [isPlainChar, Char.isAlphanum, Bool.or_eq_true, beq_iff_eq] at h
  rcases h with (((h | h) | rfl) | rfl) | rfl
  · simp [isNameChar, isNameStart, h]
  · simp [isNameChar, h]
  all_goals decide

theorem isAllowed_of_isPlainChar {c : Char} (h : isPlainChar c = true) : isAllowed c = true := by
  have hrange : 0x2D ≤ c.toNat ∧ c.toNat ≤ 0x7A := by
    simp only [isPlainChar, Bool.or_eq_true, beq_iff_eq] at h
    rcases h with ((h | rfl) | rfl) | rfl
    · have hrange := Text.isAlphanum_iff.mp h
      omega
    all_goals decide
  have hallowed : 0x20 ≤ c.toNat ∧ c.toNat ≠ 0xFFFE ∧ c.toNat ≠ 0xFFFF := by omega
  simp [isAllowed, hallowed]

/-! ### Names -/

theorem Blank.not_mem {gap : List Char} (hgap : Blank gap) {c : Char} (hc : isSpace c = false) :
    c ∉ gap := by
  intro hmem
  rw [hgap c hmem] at hc
  cases hc

/-- What stands behind a name is no part of it. -/
def EndsName (rest : List Char) : Prop := ∀ c ∈ rest.head?, isNameChar c = false

theorem Blank.endsName {gap : List Char} (hgap : Blank gap) {c : Char} (hc : isNameChar c = false)
    (s : List Char) : EndsName (gap ++ c :: s) := by
  cases gap with
  | nil =>
      rintro d ⟨⟩
      exact hc
  | cons d gap =>
      rintro e ⟨⟩
      exact isNameChar_of_isSpace (hgap _ List.mem_cons_self)

section names

variable {name : List Char} (h : isPlainName name = true)
include h

theorem exists_first : ∃ c tail, name = c :: tail ∧ (c.isAlpha || c == '_') = true := by
  cases name with
  | nil => cases h
  | cons c tail => exact ⟨c, tail, rfl, (Bool.and_eq_true _ _ |>.mp h).1⟩

theorem isPlainChar_of_mem : ∀ c ∈ name, isPlainChar c = true := by
  cases name with
  | nil => cases h
  | cons c tail =>
      obtain ⟨hc, htail⟩ := Bool.and_eq_true _ _ |>.mp h
      exact List.forall_mem_cons.mpr ⟨isPlainChar_of_first hc, List.all_eq_true.mp htail⟩

theorem Name.read?_append {rest : List Char} (hrest : EndsName rest) :
    Name.read? (name ++ rest) = some (⟨[], name⟩, rest) := by
  have hplain := isPlainChar_of_mem h
  have hname : ∀ c ∈ name, isNameChar c = true := fun c hc =>
    isNameChar_of_isPlainChar (hplain c hc)
  obtain ⟨htake, hdrop⟩ := Text.span_append hname hrest
  have hsplit : Text.splitOn ':' name = [name] :=
    Text.splitWhere_of_no_sep fun c hc => by
      simpa using ne_of_isPlainChar (hplain c hc) (show isPlainChar ':' = false by decide)
  obtain ⟨c, tail, rfl, hc⟩ := exists_first h
  rw [Name.read?, htake, hdrop, hsplit]
  exact if_pos (isNameStart_of_first hc)

end names

namespace Token

/-! ### Tags -/

theorem readMarkup_name {name : List Char} (h : isPlainName name = true) (rest : List Char) :
    readMarkup (name ++ rest) = readOpening (name ++ rest) := by
  obtain ⟨c, tail, rfl, hc⟩ := exists_first h
  have hplain := isPlainChar_of_first hc
  have hne {d : Char} (hd : isPlainChar d = false) : c ≠ d := ne_of_isPlainChar hplain hd
  rw [List.cons_append, readMarkup]
  · rintro _ ⟨⟩
    exact hne (show isPlainChar '/' = false by decide) rfl
  · rintro _ ⟨⟩
    exact hne (show isPlainChar '?' = false by decide) rfl
  · rintro _ ⟨⟩
    exact hne (show isPlainChar '!' = false by decide) rfl

section tags

variable {name gap : List Char} (hname : isPlainName name = true) (hgap : Blank gap)
  (s : List Char)
include hgap

theorem readAttributes_close : readAttributes (gap ++ '>' :: s) = some ([], false, s) := by
  rw [readAttributes, skipSpaces_append hgap (by decide)]
  rfl

theorem readAttributes_closeEmpty :
    readAttributes (gap ++ '/' :: '>' :: s) = some ([], true, s) := by
  rw [readAttributes, skipSpaces_append hgap (by decide)]
  rfl

include hname

theorem read?_opening :
    read? ('<' :: (name ++ (gap ++ '>' :: s))) = some (opening ⟨[], name⟩ [] false, s) := by
  have hends := hgap.endsName (show isNameChar '>' = false by decide) s
  simp only [read?, readMarkup_name hname, readOpening, Name.read?_append hname hends,
    readAttributes_close hgap, Option.bind_eq_bind, Option.bind_some]

theorem read?_openingEmpty :
    read? ('<' :: (name ++ (gap ++ '/' :: '>' :: s))) = some (opening ⟨[], name⟩ [] true, s) := by
  have hends := hgap.endsName (show isNameChar '/' = false by decide) ('>' :: s)
  simp only [read?, readMarkup_name hname, readOpening, Name.read?_append hname hends,
    readAttributes_closeEmpty hgap, Option.bind_eq_bind, Option.bind_some]

theorem read?_closing :
    read? ('<' :: '/' :: (name ++ (gap ++ '>' :: s))) = some (closing ⟨[], name⟩, s) := by
  have hends := hgap.endsName (show isNameChar '>' = false by decide) s
  simp only [read?, readMarkup, readClosing, Name.read?_append hname hends, Option.bind_eq_bind,
    Option.bind_some, skipSpaces_append hgap (show isSpace '>' = false by decide)]

end tags

/-- Behind a text stands a tag or nothing. -/
def EndsText (rest : List Char) : Prop := ∀ c ∈ rest.head?, c = '<'

theorem read?_characters {written rest : List Char} (hne : written ≠ []) (hless : '<' ∉ written)
    (hgreater : '>' ∉ written) (hrest : EndsText rest) :
    read? (written ++ rest) = some (characters written, rest) := by
  have hwritten : ∀ c ∈ written, (c != '<') = true := fun c hc => by
    simpa using ne_of_mem_of_not_mem hc hless
  obtain ⟨htake, hdrop⟩ := Text.span_append hwritten fun c hc => by simpa using hrest c hc
  obtain ⟨c, tail, rfl⟩ := List.exists_cons_of_ne_nil hne
  rw [List.cons_append] at htake hdrop ⊢
  rw [read?, readCharacters, htake, hdrop, Text.cutBefore?_of_not_mem (by decide) hgreater]
  · rfl
  · rintro rest ⟨⟩
    exact hless List.mem_cons_self

end Token

end LoginGateway.Xml
