import LoginGateway.Proofs.Text.Numerals
import LoginGateway.Proofs.Text.Splitting
import LoginGateway.Proofs.Text.Utf8RoundTrip
import LoginGateway.Proofs.Url.PercentDecoding
import LoginGateway.Url.Form

/-!
Form encoding loses nothing: the pairs that were written are the pairs that are read, in their order
and whatever characters they hold (`decode_encode`). A query means the same pairs before and after
a URL has escaped it (`decode_percentEncode`).
-/

namespace LoginGateway.Form

open Percent (EscapeSet IsLoose Respelled encodeByte)

/-- The characters that the form encoding gives a meaning. -/
def isMark (c : Char) : Bool := ['&', '=', '+', '%'].contains c

theorem isMark_iff {c : Char} : isMark c = true ↔ c = '&' ∨ c = '=' ∨ c = '+' ∨ c = '%' := by
  simp [isMark]

theorem not_isAlphanum_of_isMark {c : Char} (h : isMark c = true) : c.isAlphanum = false := by
  rcases isMark_iff.mp h with rfl | rfl | rfl | rfl <;> decide

theorem isAlphanum_hexDigit {n : Nat} (h : n < 16) : (Percent.hexDigit n).isAlphanum = true := by
  revert n
  decide

/-- No mark but the percent sign stands in an escape. -/
theorem not_mem_encodeBytes {d : Char} (hd : isMark d = true) (hne : d ≠ '%') (bs : Bytes) :
    d ∉ bs.flatMap encodeByte := by
  rw [List.mem_flatMap]
  rintro ⟨b, -, h⟩
  have hb : b.toNat < 256 := b.toNat_lt_size
  have halnum : d.isAlphanum = true := by
    rw [encodeByte] at h
    rcases List.mem_cons.mp h with rfl | h
    · exact absurd rfl hne
    · rcases List.mem_cons.mp h with rfl | h
      · exact isAlphanum_hexDigit (by omega)
      · rw [List.mem_singleton.mp h]
        exact isAlphanum_hexDigit (by omega)
  rw [not_isAlphanum_of_isMark hd] at halnum
  exact absurd halnum (by decide)

/-! ### Reading what was written

A plus sign is written for a space, and it is turned back before the escapes are read. -/

def spaceForPlus (c : Char) : Char := if c = '+' then ' ' else c

theorem map_spaceForPlus_of_not_mem {s : List Char} (h : '+' ∉ s) : s.map spaceForPlus = s := by
  rw [List.map_congr_left (g := id), List.map_id]
  intro c hc
  exact if_neg fun heq : c = '+' => h (heq ▸ hc)

theorem decodeText_eq (s : List Char) :
    decodeText s = Utf8.decodeLossy (Percent.decode (Utf8.encode (s.map spaceForPlus))) := rfl

theorem isPlain_bounds {c : Char} (h : isPlain c = true) :
    c.toNat < 0x80 ∧ isMark c = false := by
  rw [isPlain, Bool.or_eq_true] at h
  rcases h with h | h
  · refine ⟨by have := Text.isAlphanum_iff.mp h; omega, ?_⟩
    by_contra hmark
    rw [not_isAlphanum_of_isMark (by simpa using hmark)] at h
    exact absurd h (by decide)
  · have hc : c = '*' ∨ c = '-' ∨ c = '.' ∨ c = '_' := by simpa using h
    rcases hc with rfl | rfl | rfl | rfl <;> decide

theorem encodeChar_plain {c : Char} (hc : c ≠ ' ') (h : isPlain c = true) : encodeChar c = [c] := by
  have hascii : Percent.isAscii c = true := by simp [Percent.isAscii, (isPlain_bounds h).1]
  rw [encodeChar, if_neg hc, Percent.encodeChar, if_pos (by simp [hascii, h])]

theorem encodeChar_escaped {c : Char} (hc : c ≠ ' ') (h : isPlain c = false) :
    encodeChar c = (Utf8.encodeChar c).flatMap encodeByte := by
  rw [encodeChar, if_neg hc, Percent.encodeChar, if_neg (by simp [h])]

theorem not_mem_encodeText {d : Char} (hd : d = '&' ∨ d = '=') (s : List Char) :
    d ∉ encodeText s := by
  have hmark : isMark d = true := by rcases hd with rfl | rfl <;> decide
  rw [encodeText, List.mem_flatMap]
  rintro ⟨c, -, h⟩
  by_cases hc : c = ' '
  · subst hc
    rcases hd with rfl | rfl <;> exact absurd h (by decide)
  · cases hplain : isPlain c with
    | true =>
        rw [encodeChar_plain hc hplain, List.mem_singleton] at h
        subst h
        rw [(isPlain_bounds hplain).2] at hmark
        exact absurd hmark (by decide)
    | false =>
        rw [encodeChar_escaped hc hplain] at h
        exact not_mem_encodeBytes hmark (by rcases hd with rfl | rfl <;> decide) _ h

theorem decode_encodeChar (c : Char) (rest : Bytes) :
    Percent.decode (Utf8.encode ((encodeChar c).map spaceForPlus) ++ rest) =
      Utf8.encodeChar c ++ Percent.decode rest := by
  by_cases hc : c = ' '
  · subst hc
    exact Percent.decode_cons_of_ne (by decide) rest
  · cases hplain : isPlain c with
    | true =>
        obtain ⟨hascii, hmark⟩ := isPlain_bounds hplain
        have hplus : c ≠ '+' := by
          rintro rfl
          exact absurd hmark (by decide)
        have hsign : c ≠ '%' := by
          rintro rfl
          exact absurd hmark (by decide)
        rw [encodeChar_plain hc hplain, List.map_singleton, spaceForPlus, if_neg hplus,
          Utf8.encode, List.flatMap_singleton, Utf8.encodeChar]
        simp only [if_pos hascii]
        exact Percent.decode_cons_of_ne (Percent.asciiByte_ne hascii hsign) rest
    | false =>
        rw [encodeChar_escaped hc hplain, map_spaceForPlus_of_not_mem
          (not_mem_encodeBytes (by decide) (by decide) _), Percent.decode_flatMap_encodeByte]

theorem decodeText_encodeText (s : List Char) : decodeText (encodeText s) = s := by
  have hbytes : Percent.decode (Utf8.encode ((encodeText s).map spaceForPlus)) = Utf8.encode s := by
    induction s with
    | nil => rfl
    | cons c rest ih =>
        rw [encodeText, List.flatMap_cons, List.map_append, Utf8.encode_append, decode_encodeChar]
        exact congrArg (Utf8.encodeChar c ++ ·) ih
  rw [decodeText_eq, hbytes, Utf8.decodeLossy_encode]

theorem decodePair_encodePair (p : Pair) : decodePair (encodePair p) = p := by
  rw [decodePair, encodePair, Text.cutAt_append (not_mem_encodeText (.inr rfl) p.1)]
  simp only [Option.getD_some, decodeText_encodeText]

theorem decode_encode (pairs : List Pair) : decode (encode pairs) = pairs := by
  have hfilter : (pairs.map encodePair).filter (!·.isEmpty) = pairs.map encodePair := by
    rw [List.filter_eq_self]
    intro s hs
    obtain ⟨p, -, rfl⟩ := List.mem_map.mp hs
    simp [encodePair]
  have hsep : ∀ s ∈ pairs.map encodePair, '&' ∉ s := by
    intro s hs
    obtain ⟨p, -, rfl⟩ := List.mem_map.mp hs
    rw [encodePair, List.mem_append, List.mem_cons, not_or, not_or]
    exact ⟨not_mem_encodeText (.inl rfl) _, by decide, not_mem_encodeText (.inl rfl) _⟩
  cases hp : pairs with
  | nil => rfl
  | cons first rest =>
      rw [decode, encode, ← hp, Text.splitOn_joinWith (by simp [hp]) hsep, hfilter, List.map_map]
      simp [Function.comp_def, decodePair_encodePair]

/-! ### Queries in a URL -/

/-- A set that leaves letters, digits and the marks of the form encoding as they are. -/
def Spares (escaped : EscapeSet) : Prop :=
  ∀ c, escaped c = true → c.isAlphanum = false ∧ isMark c = false

theorem spares_specialQuerySet : Spares Percent.specialQuerySet := by
  intro c h
  simp only [Percent.specialQuerySet, Percent.querySet, Percent.controls, Bool.or_eq_true,
    decide_eq_true_eq, beq_iff_eq] at h
  have hcontrol (hc : c.toNat < 0x20 ∨ c.toNat = 0x7F) : c.isAlphanum = false ∧ isMark c = false := by
    constructor
    · by_contra halnum
      have := Text.isAlphanum_iff.mp (by simpa using halnum)
      omega
    · by_contra hmark
      rcases isMark_iff.mp (by simpa using hmark) with rfl | rfl | rfl | rfl <;> revert hc <;>
        decide
  rcases h with ((hc | hc) | h) | rfl
  · exact hcontrol (.inl hc)
  · exact hcontrol (.inr hc)
  · have hc : c = ' ' ∨ c = '"' ∨ c = '#' ∨ c = '<' ∨ c = '>' := by simpa using h
    rcases hc with rfl | rfl | rfl | rfl | rfl <;> decide
  · decide

variable {escaped : EscapeSet}

theorem kept_of_isMark (hset : Spares escaped) {c : Char} (hc : isMark c = true) :
    (Percent.isAscii c && !escaped c) = true := by
  have hnot : escaped c = false := by
    by_contra h
    rw [(hset c (by simpa using h)).2] at hc
    exact absurd hc (by decide)
  have hascii : Percent.isAscii c = true := by
    rcases isMark_iff.mp hc with rfl | rfl | rfl | rfl <;> decide
  simp [hascii, hnot]

theorem percentEncodeChar_of_isMark (hset : Spares escaped) {c : Char} (hc : isMark c = true) :
    Percent.encodeChar escaped c = [c] := by
  rw [Percent.encodeChar, if_pos (kept_of_isMark hset hc)]

theorem not_mem_percentEncodeChar {c d : Char} (hd : isMark d = true) (hpercent : d ≠ '%')
    (hne : c ≠ d) : d ∉ Percent.encodeChar escaped c := by
  rw [Percent.encodeChar]
  split
  · simpa using Ne.symm hne
  · exact not_mem_encodeBytes hd hpercent _

theorem isLoose_of_mem_encodeChar (hset : Spares escaped) {c : Char}
    (h : (Percent.isAscii c && !escaped c) = false) {b : UInt8} (hb : b ∈ Utf8.encodeChar c) :
    IsLoose b := by
  by_cases hascii : c.toNat < 0x80
  · have hescaped : escaped c = true := by simpa [Percent.isAscii, hascii] using h
    obtain ⟨halnum, hmark⟩ := hset c hescaped
    have hbyte : b = UInt8.ofNat c.toNat := by simpa [Utf8.encodeChar, hascii] using hb
    subst hbyte
    refine ⟨Percent.asciiByte_ne hascii ?_, ?_⟩
    · rintro rfl
      exact absurd hmark (by decide)
    · have hrange := mt Text.isAlphanum_iff.mpr (Bool.eq_false_iff.mp halnum)
      rw [Utf8.toNat_ofNat_of_lt (by omega), Percent.hexValue?, if_neg (by omega),
        if_neg (by omega), if_neg (by omega)]
  · have hbig := Utf8.le_of_mem_encodeChar (by omega) hb
    refine ⟨fun heq => ?_, ?_⟩
    · rw [heq] at hbig
      exact absurd hbig (by decide)
    · rw [Percent.hexValue?, if_neg (by omega), if_neg (by omega), if_neg (by omega)]

theorem respelled_percentEncodeChar (hset : Spares escaped) (c : Char) :
    Respelled (Utf8.encodeChar (spaceForPlus c))
      (Utf8.encode ((Percent.encodeChar escaped c).map spaceForPlus)) := by
  cases h : Percent.isAscii c && !escaped c with
  | true =>
      rw [Percent.encodeChar, if_pos h, List.map_singleton, Utf8.encode, List.flatMap_singleton]
      exact .refl _
  | false =>
      have hplus : c ≠ '+' := by
        rintro rfl
        rw [kept_of_isMark hset (by decide)] at h
        exact absurd h (by decide)
      rw [Percent.encodeChar, if_neg (by simp [h]), map_spaceForPlus_of_not_mem
        (not_mem_encodeBytes (by decide) (by decide) _), spaceForPlus, if_neg hplus]
      exact .flatMap_encodeByte fun b hb => isLoose_of_mem_encodeChar hset h hb

theorem decodeText_percentEncode (hset : Spares escaped) (s : List Char) :
    decodeText (Percent.encode escaped s) = decodeText s := by
  have hrespelled : Respelled (Utf8.encode (s.map spaceForPlus))
      (Utf8.encode ((Percent.encode escaped s).map spaceForPlus)) := by
    induction s with
    | nil => exact .nil
    | cons c rest ih =>
        rw [Percent.encode, List.flatMap_cons, List.map_append, Utf8.encode_append]
        exact (respelled_percentEncodeChar hset c).append ih
  rw [decodeText_eq, decodeText_eq, hrespelled.decode_eq]

theorem decodePair_percentEncode (hset : Spares escaped) (s : List Char) :
    decodePair (Percent.encode escaped s) = decodePair s := by
  have hcut : Text.cutAt '=' (Percent.encode escaped s) =
      (Percent.encode escaped (Text.cutAt '=' s).1,
        (Text.cutAt '=' s).2.map (Percent.encode escaped)) :=
    Text.cutAt_flatMap (percentEncodeChar_of_isMark hset (by decide))
      (fun c hc => not_mem_percentEncodeChar (by decide) (by decide) hc) s
  rw [decodePair, decodePair, hcut]
  cases hvalue : (Text.cutAt '=' s).2 with
  | none => simp [decodeText_percentEncode hset, hvalue]
  | some value => simp [decodeText_percentEncode hset, hvalue]

theorem isEmpty_percentEncode (s : List Char) : (Percent.encode escaped s).isEmpty = s.isEmpty := by
  cases s with
  | nil => rfl
  | cons c rest =>
      have hne : Percent.encodeChar escaped c ≠ [] := by
        rw [Percent.encodeChar]
        split
        · simp
        · rw [Ne, List.flatMap_eq_nil_iff]
          intro hall
          obtain ⟨b, hb⟩ := List.exists_mem_of_ne_nil _ (Utf8.encodeChar_ne_nil c)
          exact absurd (hall b hb) (by simp [encodeByte])
      simp [Percent.encode, hne]

theorem decode_percentEncode (hset : Spares escaped) (s : List Char) :
    decode (Percent.encode escaped s) = decode s := by
  have hsplit : Text.splitOn '&' (Percent.encode escaped s) =
      (Text.splitOn '&' s).map (Percent.encode escaped) := by
    refine Text.splitWhere_flatMap ?_ ?_ s
    · intro c hc
      rw [beq_iff_eq.mp hc]
      exact percentEncodeChar_of_isMark hset (by decide)
    · intro c hc d hd
      rw [beq_eq_false_iff_ne]
      rintro rfl
      exact not_mem_percentEncodeChar (by decide) (by decide) (beq_eq_false_iff_ne.mp hc) hd
  have hempty : ((!·.isEmpty) ∘ Percent.encode escaped) = ((!·.isEmpty) : List Char → Bool) := by
    funext p
    rw [Function.comp_apply, isEmpty_percentEncode]
  rw [decode, decode, hsplit, List.filter_map, List.map_map, hempty]
  exact List.map_congr_left fun p _ => decodePair_percentEncode hset p

end LoginGateway.Form
