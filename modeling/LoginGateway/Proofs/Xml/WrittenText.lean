import LoginGateway.Proofs.Text.Numerals
import LoginGateway.Proofs.Text.Splitting
import LoginGateway.Xml.Printer
import LoginGateway.Xml.Reference

/-!
Texts as they are written. A character stands for itself or is referred to, by name or by its code
in either base; markup and the carriage return are always referred to. What is written so is read as
the text it was written for, with nothing trimmed and no line end changed. Main statement:
`SpellsText.decodeText_eq`.
-/

namespace LoginGateway.Xml

def Allowed (s : List Char) : Prop := ∀ c ∈ s, isAllowed c = true

instance : DecidablePred Allowed := List.decidableBAll _

/-- What stands for a character between an ampersand and a semicolon. -/
inductive Refers : List Char → Char → Prop
  | amp : Refers "amp".toList '&'
  | lt : Refers "lt".toList '<'
  | gt : Refers "gt".toList '>'
  | quot : Refers "quot".toList '"'
  | apos : Refers "apos".toList '\''
  | decimal {digits : List Char} {c : Char} : digits ≠ [] →
      Text.numeral? 10 digits = some c.toNat → Refers ('#' :: digits) c
  | hexadecimal {digits : List Char} {c : Char} : digits ≠ [] →
      Text.numeral? 16 digits = some c.toNat → Refers ('#' :: 'x' :: digits) c

/-- A character that does not stand for itself. -/
def isEscaped (c : Char) : Bool := c == '&' || c == '<' || c == '>' || c == '\r'

/-- A character of which a written text may consist. -/
def isWritten (c : Char) : Bool := isAllowed c && c != '<' && c != '>' && c != '\r'

/-- The text, and what is written for it. -/
inductive SpellsText : List Char → List Char → Prop
  | nil : SpellsText [] []
  | plain {c : Char} {content written : List Char} : isEscaped c = false →
      SpellsText content written → SpellsText (c :: content) (c :: written)
  | reference {c : Char} {body content written : List Char} : Refers body c →
      SpellsText content written → SpellsText (c :: content) ('&' :: (body ++ ';' :: written))

/-- What the printer writes for a text stands for that text. -/
theorem spellsText_escape (content : List Char) :
    SpellsText content (content.flatMap escapeChar) := by
  induction content with
  | nil => exact .nil
  | cons c rest ih =>
      have hreturn : Refers "#13".toList '\r' := .decimal (by decide) (by decide)
      rw [List.flatMap_cons]
      unfold escapeChar
      split
      · exact .reference .amp ih
      · exact .reference .lt ih
      · exact .reference .gt ih
      · exact .reference hreturn ih
      · exact .plain (by simp_all [isEscaped]) ih

/-! ### Characters that may occur -/

theorem allowed_nil : Allowed [] := nofun

theorem allowed_cons_iff {c : Char} {s : List Char} :
    Allowed (c :: s) ↔ isAllowed c = true ∧ Allowed s := List.forall_mem_cons

theorem allowed_append_iff {s t : List Char} : Allowed (s ++ t) ↔ Allowed s ∧ Allowed t :=
  List.forall_mem_append

/-! ### References -/

theorem isAllowed_of_digit {c : Char} {d : Nat} (h : Text.digitValue? c = some d) :
    isAllowed c = true := by
  have hrange : 0x30 ≤ c.toNat ∧ c.toNat ≤ 0x66 := by
    simp only [Text.digitValue?] at h
    split at h
    · omega
    · split at h
      · omega
      · split at h
        · omega
        · cases h
  have hallowed : 0x20 ≤ c.toNat ∧ c.toNat ≠ 0xFFFE ∧ c.toNat ≠ 0xFFFF := by omega
  simp [isAllowed, hallowed]

theorem ne_of_digit {c e : Char} {d : Nat} (h : Text.digitValue? c = some d)
    (he : Text.digitValue? e = none) : c ≠ e := by
  rintro rfl
  rw [he] at h
  cases h

theorem ofCode?_toNat {c : Char} (h : isAllowed c = true) : ofCode? c.toNat = some c := by
  have hbound : ¬Nat.pow 2 32 ≤ c.toNat := Nat.not_le_of_lt c.val.toNat_lt
  have hvalid : c.toNat.isValidChar := c.valid
  rw [ofCode?, if_neg hbound, if_pos hvalid, Char.ofNat_toNat, if_pos h]

namespace Refers

variable {body : List Char} {c : Char}

theorem reference?_eq (h : Refers body c) (hc : isAllowed c = true) : reference? body = some c := by
  cases h with
  | amp | lt | gt | quot | apos => decide
  | @decimal digits _ hne hcode =>
      obtain ⟨d, rest, rfl⟩ := List.exists_cons_of_ne_nil hne
      -- An `x` would make the code a hexadecimal one, but it is no digit.
      have hx : d ≠ 'x' := by
        obtain ⟨value, hvalue⟩ := Text.exists_digit_of_numeral? hcode d List.mem_cons_self
        exact ne_of_digit hvalue (by decide)
      rw [reference?]
      · rw [hcode, Option.bind_some, ofCode?_toNat hc]
        rfl
      · rintro digits ⟨⟩
        exact hx rfl
  | @hexadecimal digits _ hne hcode =>
      rw [reference?, hcode, Option.bind_some, ofCode?_toNat hc]
      exact if_neg (by simpa using hne)

theorem mem (h : Refers body c) : ∀ d ∈ body, isWritten d = true ∧ d ≠ ';' := by
  have hdigits {base : Nat} {digits : List Char}
      (hcode : Text.numeral? base digits = some c.toNat) :
      ∀ d ∈ digits, isWritten d = true ∧ d ≠ ';' := by
    intro d hd
    obtain ⟨value, hvalue⟩ := Text.exists_digit_of_numeral? hcode d hd
    have hless : d ≠ '<' := ne_of_digit hvalue (by decide)
    have hgreater : d ≠ '>' := ne_of_digit hvalue (by decide)
    have hreturn : d ≠ '\r' := ne_of_digit hvalue (by decide)
    exact ⟨by simp [isWritten, isAllowed_of_digit hvalue, hless, hgreater, hreturn],
      ne_of_digit hvalue (by decide)⟩
  cases h with
  | amp | lt | gt | quot | apos => simp [isWritten, isAllowed]
  | decimal _ hcode => exact List.forall_mem_cons.mpr ⟨by decide, hdigits hcode⟩
  | hexadecimal _ hcode =>
      rw [List.forall_mem_cons, List.forall_mem_cons]
      exact ⟨by decide, by decide, hdigits hcode⟩

theorem not_mem (h : Refers body c) : ';' ∉ body := fun hmem => (h.mem _ hmem).2 rfl

end Refers

/-! ### Texts -/

theorem resolve_cons {c : Char} (hreference : c ≠ '&') (hreturn : c ≠ '\r')
    (afterReference : Bool) (rest : List Char) :
    resolve afterReference (c :: rest) = (resolve false rest).map (c :: ·) := by
  rw [resolve]
  · exact hreference
  · exact hreturn

theorem resolve_reference {body : List Char} {c : Char} (h : Refers body c)
    (hc : isAllowed c = true) (afterReference : Bool) (after : List Char) :
    resolve afterReference ('&' :: (body ++ ';' :: after)) = (resolve true after).map (c :: ·) := by
  have hcut := Text.cutAt_append h.not_mem after
  rw [resolve]
  split
  · next hnone =>
      rw [hcut] at hnone
      cases hnone
  · next hsome =>
      rw [hcut] at hsome
      obtain ⟨rfl, rfl⟩ := by simpa using hsome
      rw [h.reference?_eq hc]
      cases resolve true after <;> rfl

namespace SpellsText

variable {content written : List Char}

theorem mem (h : SpellsText content written) (hcontent : Allowed content) :
    ∀ c ∈ written, isWritten c = true := by
  induction h with
  | nil => nofun
  | plain hc _ ih =>
      obtain ⟨hallowed, hrest⟩ := allowed_cons_iff.mp hcontent
      exact List.forall_mem_cons.mpr ⟨by simp_all [isWritten, isEscaped], ih hrest⟩
  | reference hbody _ ih =>
      obtain ⟨-, hrest⟩ := allowed_cons_iff.mp hcontent
      rw [List.forall_mem_cons, List.forall_mem_append, List.forall_mem_cons]
      exact ⟨by decide, fun d hd => (hbody.mem d hd).1, by decide, ih hrest⟩

theorem allowed (h : SpellsText content written) (hcontent : Allowed content) : Allowed written := by
  intro c hc
  have hwritten := h.mem hcontent c hc
  simp only [isWritten, Bool.and_eq_true] at hwritten
  exact hwritten.1.1.1

/-- No carriage return stands in the text, so it does not matter what it is behind. -/
theorem resolve_eq (h : SpellsText content written) (hcontent : Allowed content)
    (afterReference : Bool) : resolve afterReference written = some content := by
  induction h generalizing afterReference with
  | nil => rw [resolve]
  | plain hc _ ih =>
      obtain ⟨-, hrest⟩ := allowed_cons_iff.mp hcontent
      rw [resolve_cons (by rintro rfl; cases hc) (by rintro rfl; cases hc), ih hrest]
      rfl
  | reference hbody _ ih =>
      obtain ⟨hallowed, hrest⟩ := allowed_cons_iff.mp hcontent
      rw [resolve_reference hbody hallowed, ih hrest]
      rfl

theorem not_mem {c : Char} (h : SpellsText content written)
    (hcontent : Allowed content) (hc : isWritten c = false) : c ∉ written := by
  intro hmem
  rw [h.mem hcontent c hmem] at hc
  cases hc

theorem decodeText_eq (h : SpellsText content written)
    (hcontent : Allowed content) : decodeText written = some content :=
  h.resolve_eq hcontent false

theorem ne_nil (h : SpellsText content written) (hne : content ≠ []) : written ≠ [] := by
  cases h with
  | nil => exact absurd rfl hne
  | plain | reference => simp

end SpellsText

end LoginGateway.Xml
