import LoginGateway.Proofs.Text.Utf8RoundTrip
import LoginGateway.Url.Percent

/-!
What decoding does to escapes. An escape is read as its byte, and a text in which some bytes are
written as escapes decodes as before, as long as none of them could be part of an escape itself: a
percent sign, or a digit behind one. So the escapes that a URL puts into a component do not change
what the component stands for.
-/

namespace LoginGateway.Percent

theorem escapedByte?_of_ne {sign : UInt8} (h : sign ≠ 0x25) (high low : UInt8) :
    escapedByte? sign high low = none := by
  rw [escapedByte?, if_neg h]

theorem decode_cons {b : UInt8} {bs : Bytes}
    (h : ∀ high low rest, bs = high :: low :: rest → escapedByte? b high low = none) :
    decode (b :: bs) = b :: decode bs := by
  match bs with
  | [] => rfl
  | [_] => rfl
  | high :: low :: rest => rw [decode, h high low rest rfl]

theorem decode_cons_of_ne {b : UInt8} (h : b ≠ 0x25) (bs : Bytes) :
    decode (b :: bs) = b :: decode bs :=
  decode_cons fun high low _ _ => escapedByte?_of_ne h high low

theorem asciiByte_ne {c : Char} (hascii : c.toNat < 0x80) (h : c ≠ '%') :
    UInt8.ofNat c.toNat ≠ 0x25 := by
  intro hbyte
  have hn : c.toNat = 0x25 := by
    rw [← Utf8.toNat_ofNat_of_lt (show c.toNat < 256 by omega), hbyte]; rfl
  exact h (by rw [← Char.ofNat_toNat c, hn])

/-- A text without a percent sign stands for its own bytes. -/
theorem decodeText_of_not_mem {s : List Char} (h : '%' ∉ s) : decodeText s = Utf8.encode s := by
  have hbyte : ∀ b ∈ Utf8.encode s, b ≠ 0x25 := by
    intro b hb heq
    obtain ⟨c, hc, hb⟩ := List.mem_flatMap.mp hb
    rcases Nat.lt_or_ge c.toNat 0x80 with hascii | hwide
    · have hne := asciiByte_ne hascii fun heq => h (heq ▸ hc)
      rw [Utf8.encodeChar, if_pos hascii, List.mem_singleton] at hb
      exact hne (hb ▸ heq)
    · have hle := Utf8.le_of_mem_encodeChar hwide hb
      rw [heq] at hle
      exact absurd hle (by decide)
  rw [decodeText]
  generalize Utf8.encode s = bytes at hbyte
  induction bytes with
  | nil => rfl
  | cons b bytes ih =>
      rw [decode_cons_of_ne (hbyte b List.mem_cons_self),
        ih fun b' hb' => hbyte b' (List.mem_cons_of_mem b hb')]

/-- The byte of a hexadecimal digit. -/
def digitByte (n : Nat) : UInt8 := UInt8.ofNat (hexDigit n).toNat

theorem encodeChar_hexDigit {n : Nat} (h : n < 16) :
    Utf8.encodeChar (hexDigit n) = [digitByte n] := by
  revert n
  decide

theorem hexValue?_digitByte {n : Nat} (h : n < 16) : hexValue? (digitByte n).toNat = some n := by
  revert n
  decide

theorem encode_encodeByte (b : UInt8) :
    Utf8.encode (encodeByte b) = [0x25, digitByte (b.toNat / 16), digitByte (b.toNat % 16)] := by
  have hb : b.toNat < 256 := b.toNat_lt_size
  rw [encodeByte, Utf8.encode, List.flatMap_cons, List.flatMap_cons, List.flatMap_cons,
    encodeChar_hexDigit (by omega), encodeChar_hexDigit (by omega)]
  rfl

theorem decode_encodeByte (b : UInt8) (rest : Bytes) :
    decode (Utf8.encode (encodeByte b) ++ rest) = b :: decode rest := by
  have hb : b.toNat < 256 := b.toNat_lt_size
  have hvalue : 16 * (b.toNat / 16) + b.toNat % 16 = b.toNat := by omega
  rw [encode_encodeByte]
  simp only [List.cons_append, List.nil_append, decode, escapedByte?,
    hexValue?_digitByte (show b.toNat / 16 < 16 by omega),
    hexValue?_digitByte (show b.toNat % 16 < 16 by omega), if_pos, hvalue, UInt8.ofNat_toNat]

theorem decode_flatMap_encodeByte (bs rest : Bytes) :
    decode (Utf8.encode (bs.flatMap encodeByte) ++ rest) = bs ++ decode rest := by
  induction bs with
  | nil => rfl
  | cons b bs ih =>
      rw [List.flatMap_cons, Utf8.encode_append, List.append_assoc, decode_encodeByte, ih]
      rfl

/-! ### Texts with more escapes -/

/-- A byte that takes no part in an escape. -/
def IsLoose (b : UInt8) : Prop := b ≠ 0x25 ∧ hexValue? b.toNat = none

instance (b : UInt8) : Decidable (IsLoose b) := inferInstanceAs (Decidable (_ ∧ _))

/-- The second text is the first one with some loose bytes written as escapes. -/
inductive Respelled : Bytes → Bytes → Prop
  | nil : Respelled [] []
  | kept {bs ds : Bytes} (b : UInt8) : Respelled bs ds → Respelled (b :: bs) (b :: ds)
  | escaped {bs ds : Bytes} {b : UInt8} :
      IsLoose b → Respelled bs ds → Respelled (b :: bs) (Utf8.encode (encodeByte b) ++ ds)

namespace Respelled

theorem refl (bs : Bytes) : Respelled bs bs := by
  induction bs with
  | nil => exact .nil
  | cons b bs ih => exact .kept b ih

theorem append {as bs cs ds : Bytes} (h : Respelled as bs) (h' : Respelled cs ds) :
    Respelled (as ++ cs) (bs ++ ds) := by
  induction h with
  | nil => exact h'
  | kept b _ ih => exact .kept b ih
  | escaped hb _ ih =>
      rw [List.append_assoc]
      exact .escaped hb ih

theorem flatMap_encodeByte {bs : Bytes} (h : ∀ b ∈ bs, IsLoose b) :
    Respelled bs (Utf8.encode (bs.flatMap encodeByte)) := by
  induction bs with
  | nil => exact .nil
  | cons b bs ih =>
      rw [List.flatMap_cons, Utf8.encode_append]
      exact .escaped (h b List.mem_cons_self) (ih fun c hc => h c (List.mem_cons_of_mem b hc))

/-- An escape begins with no digit, so the first byte of the new text is a digit only if it stood
there before. -/
theorem head_of_hexValue {b : UInt8} {bs ds : Bytes} (h : Respelled bs (b :: ds))
    (hb : hexValue? b.toNat ≠ none) : ∃ bs', bs = b :: bs' ∧ Respelled bs' ds := by
  generalize htext : b :: ds = text at h
  cases h with
  | nil => cases htext
  | kept c hrest =>
      cases htext
      exact ⟨_, rfl, hrest⟩
  | escaped hc hrest =>
      rw [encode_encodeByte] at htext
      simp only [List.cons_append, List.cons.injEq] at htext
      exact absurd (by rw [htext.1]; decide) hb

/-- More escapes complete no escape that was not complete. -/
theorem escapedByte?_eq_none {b : UInt8} {bs ds : Bytes} (h : Respelled bs ds)
    (hnone : ∀ high low rest, bs = high :: low :: rest → escapedByte? b high low = none)
    {high low : UInt8} {rest : Bytes} (hds : ds = high :: low :: rest) :
    escapedByte? b high low = none := by
  subst hds
  by_cases hhigh : hexValue? high.toNat = none
  · simp [escapedByte?, hhigh]
  · by_cases hlow : hexValue? low.toNat = none
    · simp [escapedByte?, hlow]
    · obtain ⟨bs', rfl, h'⟩ := head_of_hexValue h hhigh
      obtain ⟨bs'', rfl, -⟩ := head_of_hexValue h' hlow
      exact hnone high low bs'' rfl

/-- A byte that is part of an escape was not written as one. -/
theorem kept_of_not_isLoose {b : UInt8} {bs ds : Bytes} (h : Respelled (b :: bs) ds)
    (hb : ¬IsLoose b) : ∃ ds', ds = b :: ds' ∧ Respelled bs ds' := by
  cases h with
  | kept _ hrest => exact ⟨_, rfl, hrest⟩
  | escaped hloose _ => exact absurd hloose hb

theorem decode_eq {bs ds : Bytes} (h : Respelled bs ds) : decode ds = decode bs := by
  -- An escape takes three bytes at once, so the induction is on the length and not on `h`.
  induction hn : bs.length using Nat.strongRecOn generalizing bs ds with
  | ind n ih =>
      subst hn
      cases h with
      | nil => rfl
      | @escaped bs ds b hb hrest =>
          rw [decode_encodeByte, decode_cons_of_ne hb.1, ih bs.length (by simp) hrest rfl]
      | @kept bs ds b hrest =>
          by_cases hnone : ∀ high low rest, bs = high :: low :: rest → escapedByte? b high low = none
          · rw [decode_cons hnone, decode_cons fun _ _ _ => escapedByte?_eq_none hrest hnone,
              ih bs.length (by simp) hrest rfl]
          · simp only [Classical.not_forall] at hnone
            obtain ⟨high, low, rest, rfl, hsome⟩ := hnone
            obtain ⟨byte, hbyte⟩ := Option.ne_none_iff_exists'.mp hsome
            have hhigh : ¬IsLoose high := fun hl => hsome (by simp [escapedByte?, hl.2])
            have hlow : ¬IsLoose low := fun hl => hsome (by simp [escapedByte?, hl.2])
            obtain ⟨ds', rfl, h'⟩ := kept_of_not_isLoose hrest hhigh
            obtain ⟨ds'', rfl, h''⟩ := kept_of_not_isLoose h' hlow
            simp only [decode, hbyte]
            rw [ih rest.length (by simp only [List.length_cons]; omega) h'' rfl]

end Respelled

end LoginGateway.Percent
