import LoginGateway.Text.Utf8

/-!
Encoding and reading are inverse: the reading of an encoded text is the text. A character is read
back whole, whatever follows it, so nothing depends on where a text was cut.
-/

namespace LoginGateway.Utf8

theorem toNat_ofNat_of_lt {n : Nat} (h : n < 256) : (UInt8.ofNat n).toNat = n := by
  simp only [UInt8.toNat_ofNat']
  omega

theorem follow_cons {value k low high n : Nat} (hlow : low ≤ n) (hhigh : n ≤ high) (hn : n < 256)
    (rest : Bytes) :
    follow value (k + 1) low high (UInt8.ofNat n :: rest) =
      follow (value * 64 + (n - 0x80)) k 0x80 0xBF rest := by
  rw [follow, toNat_ofNat_of_lt hn, if_pos ⟨hlow, hhigh⟩]

/-- A first byte is read as one character with the bytes that follow it. -/
theorem decodeLossy_lead {n value : Nat} {l : Lead} {tail rest : Bytes} (hn : n < 256)
    (hbig : 0x80 ≤ n) (hlead : lead? (UInt8.ofNat n) = some l)
    (hfollow : follow l.value l.following l.low l.high tail = (some value, rest)) :
    decodeLossy (UInt8.ofNat n :: tail) = Char.ofNat value :: decodeLossy rest := by
  rw [decodeLossy, toNat_ofNat_of_lt hn, if_neg (by omega), hlead]
  simp only [hfollow]

theorem lead?_two {n : Nat} (hlow : 0x80 ≤ n) (hhigh : n < 0x800) :
    lead? (UInt8.ofNat (0xC0 + n / 64)) = some { value := n / 64, following := 1 } := by
  simp only [lead?, toNat_ofNat_of_lt (show 0xC0 + n / 64 < 256 by omega)]
  rw [if_neg (by omega), if_pos (by omega), Nat.add_sub_cancel_left]

/-- The range of the second byte leaves room for it: it shuts out overlong forms and surrogates. -/
theorem lead?_three {n : Nat} (hlow : 0x800 ≤ n) (hhigh : n < 0x10000)
    (hchar : n < 0xD800 ∨ 0xDFFF < n) :
    ∃ l, lead? (UInt8.ofNat (0xE0 + n / 4096)) = some l ∧ l.value = n / 4096 ∧ l.following = 2 ∧
      l.low ≤ 0x80 + n / 64 % 64 ∧ 0x80 + n / 64 % 64 ≤ l.high := by
  simp only [lead?, toNat_ofNat_of_lt (show 0xE0 + n / 4096 < 256 by omega)]
  rw [if_neg (by omega), if_neg (by omega)]
  split
  · exact ⟨_, rfl, by simp only; omega, rfl, by simp only; omega, by simp only; omega⟩
  · split
    · exact ⟨_, rfl, by simp only; omega, rfl, by simp only; omega, by simp only; omega⟩
    · rw [if_pos (by omega)]
      exact ⟨_, rfl, by simp only; omega, rfl, by simp only; omega, by simp only; omega⟩

theorem lead?_four {n : Nat} (hlow : 0x10000 ≤ n) (hhigh : n < 0x110000) :
    ∃ l, lead? (UInt8.ofNat (0xF0 + n / 262144)) = some l ∧ l.value = n / 262144 ∧
      l.following = 3 ∧ l.low ≤ 0x80 + n / 4096 % 64 ∧ 0x80 + n / 4096 % 64 ≤ l.high := by
  simp only [lead?, toNat_ofNat_of_lt (show 0xF0 + n / 262144 < 256 by omega)]
  rw [if_neg (by omega), if_neg (by omega), if_neg (by omega), if_neg (by omega), if_neg (by omega)]
  split
  · exact ⟨_, rfl, by simp only; omega, rfl, by simp only; omega, by simp only; omega⟩
  · split
    · exact ⟨_, rfl, by simp only; omega, rfl, by simp only; omega, by simp only; omega⟩
    · rw [if_pos (by omega)]
      exact ⟨_, rfl, by simp only; omega, rfl, by simp only; omega, by simp only; omega⟩

theorem decodeLossy_encodeChar_append (c : Char) (rest : Bytes) :
    decodeLossy (encodeChar c ++ rest) = c :: decodeLossy rest := by
  have hvalid : c.toNat < 0xD800 ∨ 0xDFFF < c.toNat ∧ c.toNat < 0x110000 := c.valid
  have hc : Char.ofNat c.toNat = c := Char.ofNat_toNat c
  generalize hn : c.toNat = n at hvalid hc
  simp only [encodeChar, hn]
  split
  case isTrue h1 =>
    rw [List.cons_append, List.nil_append, decodeLossy, toNat_ofNat_of_lt (by omega), if_pos h1, hc]
  case isFalse h1 =>
  split
  case isTrue h2 =>
    simp only [List.cons_append, List.nil_append]
    rw [decodeLossy_lead (by omega) (by omega) (lead?_two (by omega) h2), hc]
    rw [follow_cons (by simp only; omega) (by simp only; omega) (by omega), follow]
    simp only [Prod.mk.injEq, Option.some.injEq, and_true]
    omega
  case isFalse h2 =>
  split
  case isTrue h3 =>
    obtain ⟨l, hl, hvalue, hfollowing, hlow, hhigh⟩ :=
      lead?_three (by omega) h3 (hvalid.imp_right And.left)
    simp only [List.cons_append, List.nil_append]
    rw [decodeLossy_lead (by omega) (by omega) hl, hc]
    rw [hvalue, hfollowing, follow_cons hlow hhigh (by omega), follow_cons (by omega) (by omega) (by omega), follow]
    simp only [Prod.mk.injEq, Option.some.injEq, and_true]
    omega
  case isFalse h3 =>
    obtain ⟨l, hl, hvalue, hfollowing, hlow, hhigh⟩ := lead?_four (n := n) (by omega) (by omega)
    simp only [List.cons_append, List.nil_append]
    rw [decodeLossy_lead (by omega) (by omega) hl, hc]
    rw [hvalue, hfollowing, follow_cons hlow hhigh (by omega), follow_cons (by omega) (by omega) (by omega),
      follow_cons (by omega) (by omega) (by omega), follow]
    simp only [Prod.mk.injEq, Option.some.injEq, and_true]
    omega

/-- Outside ASCII no byte of a character is an ASCII byte. -/
theorem le_of_mem_encodeChar {c : Char} (hc : 0x80 ≤ c.toNat) {b : UInt8}
    (hb : b ∈ encodeChar c) : 0x80 ≤ b.toNat := by
  have hvalid : c.toNat < 0xD800 ∨ 0xDFFF < c.toNat ∧ c.toNat < 0x110000 := c.valid
  simp only [encodeChar] at hb
  generalize c.toNat = n at hc hvalid hb
  rw [if_neg (by omega)] at hb
  split at hb
  · simp only [List.mem_cons, List.not_mem_nil, or_false] at hb
    rcases hb with rfl | rfl <;> rw [toNat_ofNat_of_lt (by omega)] <;> omega
  · split at hb
    · simp only [List.mem_cons, List.not_mem_nil, or_false] at hb
      rcases hb with rfl | rfl | rfl <;> rw [toNat_ofNat_of_lt (by omega)] <;> omega
    · simp only [List.mem_cons, List.not_mem_nil, or_false] at hb
      rcases hb with rfl | rfl | rfl | rfl <;> rw [toNat_ofNat_of_lt (by omega)] <;> omega

theorem encodeChar_ne_nil (c : Char) : encodeChar c ≠ [] := by
  simp only [encodeChar]
  (repeat' split) <;> simp

@[simp] theorem decodeLossy_encode (s : List Char) : decodeLossy (encode s) = s := by
  induction s with
  | nil => simp [encode, decodeLossy]
  | cons c rest ih =>
      rw [encode, List.flatMap_cons, decodeLossy_encodeChar_append]
      exact congrArg (c :: ·) ih

@[simp] theorem decode?_encode (s : List Char) : decode? (encode s) = some s := by
  simp [decode?]

end LoginGateway.Utf8
