import LoginGateway.Proofs.Text.Splitting
import LoginGateway.Url.Punycode
import Mathlib.Tactic.Ring

/-!
Every label is found again in its Punycode. The writer counts the places that the reader skips, so
the reader stands where the writer stood whenever a character is written. Main statement:
`decode?_encode`.
-/

namespace LoginGateway.Punycode

/-! ### What is written -/

theorem threshold_bounds (position bias : Nat) :
    1 ≤ threshold position bias ∧ threshold position bias ≤ 26 := by
  rw [threshold]
  omega

/-- The character is a digit of a numeral. -/
def IsDigit (c : Char) : Prop := (digitValue? c).isSome = true

theorem isDigit_iff {c : Char} : IsDigit c ↔
    (0x61 ≤ c.toNat ∧ c.toNat ≤ 0x7A) ∨ (0x30 ≤ c.toNat ∧ c.toNat ≤ 0x39) := by
  have hletter : ('a' ≤ c ∧ c ≤ 'z') ↔ 0x61 ≤ c.toNat ∧ c.toNat ≤ 0x7A := by
    simp [Char.le_def, UInt32.le_iff_toNat_le]
  have hdigit : ('0' ≤ c ∧ c ≤ '9') ↔ 0x30 ≤ c.toNat ∧ c.toNat ≤ 0x39 := by
    simp [Char.le_def, UInt32.le_iff_toNat_le]
  rw [IsDigit, digitValue?, ← hletter, ← hdigit]
  split
  · next h => simp [h]
  · next h =>
      split
      · next h' => simp [h']
      · next h' => simp [h, h']

theorem digitValue?_digit {d : Nat} (h : d < 36) : digitValue? (digit d) = some d := by
  revert d
  decide

theorem isDigit_digit {d : Nat} (h : d < 36) : IsDigit (digit d) := by
  rw [IsDigit, digitValue?_digit h, Option.isSome_some]

theorem isDigit_of_mem_writeDelta {bias position q : Nat} {c : Char}
    (hc : c ∈ writeDelta bias position q) : IsDigit c := by
  induction q using Nat.strongRecOn generalizing position with
  | ind q ih =>
      have hbounds := threshold_bounds position bias
      rw [writeDelta] at hc
      split at hc
      · next hlast =>
          rw [List.mem_singleton.mp hc]
          exact isDigit_digit (by omega)
      · rcases List.mem_cons.mp hc with rfl | hc
        · have hmod := Nat.mod_lt (q - threshold position bias)
            (show 0 < 36 - threshold position bias by omega)
          exact isDigit_digit (by omega)
        · have hle := Nat.div_le_self (q - threshold position bias) (36 - threshold position bias)
          exact ih _ (by omega) hc

theorem isDigit_of_mem_place {label : List Char} {plain n : Nat} {p : Progress}
    (hp : ∀ c ∈ p.written, IsDigit c) : ∀ c ∈ (place label plain n p).written, IsDigit c := by
  rw [place]
  induction label generalizing p with
  | nil => exact hp
  | cons d rest ih =>
      rw [List.foldl_cons]
      refine ih ?_
      split
      · exact hp
      · split
        · intro c hc
          exact (List.mem_append.mp hc).elim (hp c) isDigit_of_mem_writeDelta
        · exact hp

theorem isDigit_of_mem_placeAll {label : List Char} {plain reached : Nat} {codes : List Nat}
    {p : Progress} (hp : ∀ c ∈ p.written, IsDigit c) :
    ∀ c ∈ (placeAll label plain codes reached p).written, IsDigit c := by
  induction codes generalizing reached p with
  | nil => exact hp
  | cons n later ih => exact ih (isDigit_of_mem_place hp)

theorem mem_encode {label : List Char} {c : Char} (hc : c ∈ encode label) :
    c ∈ label ∨ c = '-' ∨ IsDigit c := by
  rw [encode] at hc
  simp only [List.mem_append] at hc
  rcases hc with (hc | hc) | hc
  · exact .inl ((List.mem_filter.mp hc).1)
  · split at hc
    · cases hc
    · exact .inr (.inl (List.mem_singleton.mp hc))
  · exact .inr (.inr (isDigit_of_mem_placeAll (by simp) c hc))

/-! ### What is read -/

theorem readDelta_eq_some {bias position weight value n : Nat} {s rest : List Char}
    (h : readDelta bias s position weight value = some (n, rest)) :
    ∃ numeral, s = numeral ++ rest ∧ ∀ c ∈ numeral, IsDigit c := by
  induction s generalizing position weight value with
  | nil => cases h
  | cons c s ih =>
      rw [readDelta] at h
      split at h
      · cases h
      · next d hd =>
          have hc : IsDigit c := by rw [IsDigit, hd, Option.isSome_some]
          simp only at h
          split at h
          · cases h
            exact ⟨[c], rfl, fun e he => List.mem_singleton.mp he ▸ hc⟩
          · obtain ⟨numeral, rfl, hnumeral⟩ := ih h
            exact ⟨c :: numeral, rfl, List.forall_mem_cons.mpr ⟨hc, hnumeral⟩⟩

/-- Only numerals are read, and what was there is kept. -/
theorem insertAll_eq_some {s out t : List Char} {code index bias : Nat}
    (h : insertAll s code index bias out = some t) :
    (∀ c ∈ s, IsDigit c) ∧ ∀ c ∈ out, c ∈ t := by
  induction s, code, index, bias, out using insertAll.induct with
  | case1 s code index bias out hempty =>
      rw [insertAll, if_pos hempty] at h
      rw [List.isEmpty_iff.mp hempty]
      exact ⟨by simp, fun c hc => Option.some.inj h ▸ hc⟩
  | case2 s code index bias out hmore hnone =>
      rw [insertAll, if_neg hmore] at h
      split at h
      · cases h
      · next hsome =>
          rw [hnone] at hsome
          cases hsome
  | case3 s code index bias out hmore n rest hsome count next _ hvalid ih =>
      obtain ⟨numeral, rfl, hnumeral⟩ := readDelta_eq_some hsome
      rw [insertAll, if_neg hmore] at h
      split at h
      · cases h
      · next n' rest' hsome' =>
          rw [hsome] at hsome'
          cases hsome'
          have hscalar : (code + n / (out.length + 1)).isValidChar := hvalid
          simp only [if_pos hscalar] at h
          obtain ⟨hdigits, hkept⟩ := ih h
          refine ⟨List.forall_mem_append.mpr ⟨hnumeral, hdigits⟩, fun c hc => hkept c ?_⟩
          rw [← List.take_append_drop (n % (out.length + 1)) out] at hc
          simp only [List.mem_append, List.mem_cons] at hc ⊢
          exact hc.imp_right .inr
  | case4 s code index bias out hmore n rest hsome count next _ hvalid =>
      rw [insertAll, if_neg hmore] at h
      split at h
      · cases h
      · next n' rest' hsome' =>
          rw [hsome] at hsome'
          cases hsome'
          have hscalar : ¬(code + n / (out.length + 1)).isValidChar := hvalid
          simp only [if_neg hscalar] at h
          cases h

theorem mem_of_decode? {s t : List Char} (h : decode? s = some t) {c : Char} (hc : c ∈ s) :
    (c ∈ t ∧ isPlain c = true) ∨ c = '-' ∨ IsDigit c := by
  rw [decode?] at h
  split at h
  · exact .inr (.inr ((insertAll_eq_some h).1 c hc))
  · cases h
  · next plain rest _ hcut =>
      split at h
      · next hplain =>
          obtain ⟨hdigits, hkept⟩ := insertAll_eq_some h
          obtain rfl := Text.eq_of_cutAtLast? hcut
          rcases List.mem_append.mp hc with hc | hc
          · exact .inl ⟨hkept c hc, List.all_eq_true.mp hplain c hc⟩
          · rcases List.mem_cons.mp hc with rfl | hc
            · exact .inr (.inl rfl)
            · exact .inr (.inr (hdigits c hc))
      · cases h

/-! ### Numerals -/

theorem writeDelta_ne_nil (bias position q : Nat) : writeDelta bias position q ≠ [] := by
  rw [writeDelta]
  split <;> simp

/-- A numeral is read to its end, whatever follows it. -/
theorem readDelta_writeDelta (bias position q weight value : Nat) (rest : List Char) :
    readDelta bias (writeDelta bias position q ++ rest) position weight value =
      some (value + q * weight, rest) := by
  induction q using Nat.strongRecOn generalizing position weight value with
  | ind q ih =>
      have hbounds := threshold_bounds position bias
      rw [writeDelta]
      split
      · next hlast =>
          rw [List.singleton_append, readDelta, digitValue?_digit (by omega)]
          simp only [if_pos hlast]
      · next hmore =>
          have hpos : 0 < 36 - threshold position bias := by omega
          have hmod := Nat.mod_lt (q - threshold position bias) hpos
          have hle := Nat.div_le_self (q - threshold position bias) (36 - threshold position bias)
          have hdiv := Nat.mod_add_div (q - threshold position bias) (36 - threshold position bias)
          have hnot : ¬threshold position bias +
              (q - threshold position bias) % (36 - threshold position bias) <
                threshold position bias := by omega
          rw [List.cons_append, readDelta, digitValue?_digit (by omega)]
          simp only [if_neg hnot]
          rw [ih _ (by omega)]
          -- The digit and the rest of the numeral, which weighs `36 - t` times as much, add up.
          congr 2
          generalize (q - threshold position bias) / (36 - threshold position bias) = d at *
          generalize (q - threshold position bias) % (36 - threshold position bias) = r at *
          have hq : q = threshold position bias + r + (36 - threshold position bias) * d := by omega
          generalize 36 - threshold position bias = turns at *
          rw [hq]
          ring

/-! ### Placing one character -/

/-- What the reader has: the code point and the place where it goes on, and the text so far. -/
structure Reading where
  code : Nat
  index : Nat
  out : List Char

def Reading.finish (r : Reading) (bias : Nat) (s : List Char) : Option (List Char) :=
  insertAll s r.code r.index bias r.out

/-- The distance grows by the places that the writer skips. -/
def Progress.ahead (p : Progress) (turns : Nat) : Progress := { p with delta := p.delta + turns }

/-- The distance that the writer counts leads the reader to the place `position` for the code point
`n`. -/
structure InStep (plain n position : Nat) (p : Progress) (r : Reading) : Prop where
  distance : r.index + p.delta = (n - r.code) * (r.out.length + 1) + position
  code : r.code ≤ n
  placed : p.placed = r.out.length
  least : plain ≤ p.placed
  first : r.index = 0 ↔ p.placed = plain

/-- The writer's step for one character of the label. -/
def placeChar (plain n : Nat) (p : Progress) (c : Char) : Progress :=
  if c.toNat < n then p.ahead 1
  else if c.toNat = n then
    { written := p.written ++ writeDelta p.bias 36 p.delta
      delta := 0
      bias := adapt p.delta (p.placed + 1) (p.placed == plain)
      placed := p.placed + 1 }
  else p

theorem place_eq (label : List Char) (plain n : Nat) (p : Progress) :
    place label plain n p = label.foldl (placeChar plain n) p := rfl

section step

variable {plain n position : Nat} {p : Progress} {r : Reading}
  (h : InStep plain n position p r)

include h

theorem InStep.skip : InStep plain n (position + 1) (p.ahead 1) r where
  distance := by
    have hdistance := h.distance
    simp only [Progress.ahead]
    omega
  code := h.code
  placed := h.placed
  least := h.least
  first := h.first

theorem InStep.div_mod (hplace : position ≤ r.out.length) :
    (r.index + p.delta) / (r.out.length + 1) = n - r.code ∧
      (r.index + p.delta) % (r.out.length + 1) = position := by
  have hlt : position < r.out.length + 1 := by omega
  rw [h.distance, Nat.add_comm, Nat.add_mul_div_right _ _ (by omega), Nat.add_mul_mod_self_right,
    Nat.div_eq_of_lt hlt, Nat.mod_eq_of_lt hlt, Nat.zero_add]
  exact ⟨rfl, rfl⟩

/-- What the writer writes for a character makes the reader insert it. -/
theorem InStep.insert {c : Char} (hc : c.toNat = n) (hplace : position ≤ r.out.length) :
    InStep plain n (position + 1) (placeChar plain n p c)
      ⟨n, position + 1, r.out.take position ++ c :: r.out.drop position⟩ ∧
    ∀ rest, r.finish p.bias (writeDelta p.bias 36 p.delta ++ rest) =
      Reading.finish ⟨n, position + 1, r.out.take position ++ c :: r.out.drop position⟩
        (placeChar plain n p c).bias rest := by
  have hplaced : placeChar plain n p c =
      { written := p.written ++ writeDelta p.bias 36 p.delta
        delta := 0
        bias := adapt p.delta (p.placed + 1) (p.placed == plain)
        placed := p.placed + 1 } := by
    rw [placeChar, if_neg (by omega), if_pos hc]
  rw [hplaced]
  constructor
  · have hleast := h.least
    have hplaced := h.placed
    refine ⟨?_, Nat.le_refl n, ?_, ?_, ?_⟩
    · simp only [Nat.sub_self]
      omega
    · simp only [List.length_append, List.length_take, List.length_cons, List.length_drop,
        h.placed]
      omega
    · simp only
      omega
    · simp only
      omega
  · intro rest
    -- The sum that is read, divided by the number of places, is the code point and the place.
    obtain ⟨hdiv, hmod⟩ := h.div_mod hplace
    have hcode := h.code
    have hnext : r.code + (n - r.code) = n := by omega
    have hvalid : n.isValidChar := hc ▸ c.valid
    have hchar : Char.ofNat n = c := by rw [← hc, Char.ofNat_toNat]
    have hfirst : (r.index == 0) = (p.placed == plain) := by
      rw [Bool.eq_iff_iff, beq_iff_eq, beq_iff_eq]
      exact h.first
    rw [Reading.finish, insertAll, if_neg (by simp [writeDelta_ne_nil])]
    split
    · next hnone =>
        rw [readDelta_writeDelta] at hnone
        cases hnone
    · next value tail hsome =>
        rw [readDelta_writeDelta, Nat.mul_one] at hsome
        cases hsome
        simp only [hdiv, hmod, hnext, if_pos hvalid, hchar, Nat.add_sub_cancel_left, hfirst]
        rw [Reading.finish, h.placed]

end step

/-! ### Placing all characters -/

/-- Of the characters that were read the ones up to `n` are placed, of the others those below. -/
def placedBefore (n : Nat) (done todo : List Char) : List Char :=
  done.filter (·.toNat ≤ n) ++ todo.filter (·.toNat < n)

/-- The writer goes from `p` to `q` by text that takes the reader from `r` to `t`. -/
structure Leads (p q : Progress) (r t : Reading) : Prop where
  read : ∃ text, q.written = p.written ++ text ∧
    ∀ rest, r.finish p.bias (text ++ rest) = t.finish q.bias rest

theorem Leads.refl (p : Progress) (r : Reading) : Leads p p r r :=
  ⟨[], by rw [List.append_nil], fun rest => by rw [List.nil_append]⟩

/-- Skipped places are not written before the next character is. -/
theorem Leads.ahead (p : Progress) (turns : Nat) (r : Reading) : Leads p (p.ahead turns) r r :=
  ⟨[], by rw [List.append_nil, Progress.ahead], fun rest => by
    rw [List.nil_append, Progress.ahead]⟩

theorem Leads.trans {p q o : Progress} {r t v : Reading} (h : Leads p q r t) (h' : Leads q o t v) :
    Leads p o r v := by
  obtain ⟨text, hwritten, hread⟩ := h.read
  obtain ⟨text', hwritten', hread'⟩ := h'.read
  refine ⟨text ++ text', ?_, fun rest => ?_⟩
  · rw [hwritten', hwritten, List.append_assoc]
  · rw [List.append_assoc, hread, hread']

/-- One pass over the label: what is written makes the reader insert the characters of the code
point `n`. -/
theorem foldl_placeChar {plain n : Nat} (done todo : List Char) {p : Progress} {r : Reading}
    (h : InStep plain n (done.filter (·.toNat ≤ n)).length p r)
    (hout : r.out = placedBefore n done todo) :
    ∃ t, Leads p (todo.foldl (placeChar plain n) p) r t ∧
      InStep plain n ((done ++ todo).filter (·.toNat ≤ n)).length
        (todo.foldl (placeChar plain n) p) t ∧
      t.out = (done ++ todo).filter (·.toNat ≤ n) := by
  induction todo generalizing done p r with
  | nil =>
      rw [placedBefore, List.filter_nil, List.append_nil] at hout
      rw [List.append_nil]
      exact ⟨r, .refl _ _, h, hout⟩
  | cons c todo ih =>
      rw [List.foldl_cons, List.append_cons done c todo]
      rcases Nat.lt_trichotomy c.toNat n with hlt | heq | hgt
      -- A smaller character has been placed before this pass: its place is skipped.
      · have hfilter :
            (done ++ [c]).filter (·.toNat ≤ n) = done.filter (·.toNat ≤ n) ++ [c] := by
          simp [Nat.le_of_lt hlt]
        have hstep : placeChar plain n p c = p.ahead 1 := if_pos hlt
        have hskip : InStep plain n ((done ++ [c]).filter (·.toNat ≤ n)).length
            (placeChar plain n p c) r := by
          rw [hfilter, List.length_append, hstep]
          exact h.skip
        obtain ⟨t, hleads, hafter⟩ := ih _ hskip (by
          rw [hout, placedBefore, placedBefore, hfilter]
          simp [hlt])
        exact ⟨t, (hstep ▸ Leads.ahead p 1 r).trans hleads, hafter⟩
      -- This one is written, and the reader inserts it behind those of `done` that are placed.
      · have hfilter :
            (done ++ [c]).filter (·.toNat ≤ n) = done.filter (·.toNat ≤ n) ++ [c] := by
          simp [heq]
        have hlength : (done.filter (·.toNat ≤ n)).length ≤ r.out.length := by
          rw [hout, placedBefore, List.length_append]
          exact Nat.le_add_right _ _
        obtain ⟨hinsert, hread⟩ := h.insert heq hlength
        have hleads : Leads p (placeChar plain n p c) r _ :=
          ⟨writeDelta p.bias 36 p.delta, by rw [placeChar, if_neg (by omega), if_pos heq],
            hread⟩
        obtain ⟨t, hrest, hafter⟩ := ih (done ++ [c])
          (by rw [hfilter, List.length_append]; exact hinsert) (by
          rw [hout, placedBefore, placedBefore, hfilter, List.take_left, List.drop_left]
          simp [heq])
        exact ⟨t, hleads.trans hrest, hafter⟩
      -- A larger one is left to a later pass, and has no place yet.
      · have hfilter : (done ++ [c]).filter (·.toNat ≤ n) = done.filter (·.toNat ≤ n) := by
          simp [hgt]
        have hstep : placeChar plain n p c = p := by
          rw [placeChar, if_neg (by omega), if_neg (by omega)]
        rw [hstep]
        refine ih _ (by rw [hfilter]; exact h) ?_
        rw [hout, placedBefore, placedBefore, hfilter]
        simp [Nat.not_lt_of_gt hgt]

theorem mem_insertCode {n m : Nat} {codes : List Nat} :
    m ∈ insertCode n codes ↔ m = n ∨ m ∈ codes := by
  induction codes with
  | nil => simp [insertCode]
  | cons k codes ih =>
      rw [insertCode]
      split
      · rw [List.mem_cons]
      · split
        · next heq =>
            rw [heq, List.mem_cons]
            exact ⟨.inr, fun h => h.elim .inl id⟩
        · rw [List.mem_cons, ih, List.mem_cons, or_left_comm]

theorem pairwise_insertCode (n : Nat) {codes : List Nat} (h : codes.Pairwise (· < ·)) :
    (insertCode n codes).Pairwise (· < ·) := by
  induction h with
  | nil => exact List.pairwise_singleton _ n
  | @cons k codes hk hcodes ih =>
      rw [insertCode]
      split
      · next hlt =>
          refine .cons (fun m hm => ?_) (.cons hk hcodes)
          rcases List.mem_cons.mp hm with rfl | hm
          · exact hlt
          · exact Nat.lt_trans hlt (hk m hm)
      · split
        · exact .cons hk hcodes
        · refine .cons (fun m hm => ?_) ih
          rcases mem_insertCode.mp hm with rfl | hm
          · omega
          · exact hk m hm

theorem mem_foldr_insertCode {m : Nat} {codes : List Nat} :
    m ∈ codes.foldr insertCode [] ↔ m ∈ codes := by
  induction codes with
  | nil => rfl
  | cons n codes ih => rw [List.foldr_cons, mem_insertCode, ih, List.mem_cons]

theorem pairwise_foldr_insertCode (codes : List Nat) :
    (codes.foldr insertCode []).Pairwise (· < ·) := by
  induction codes with
  | nil => exact .nil
  | cons n codes ih => exact pairwise_insertCode n ih

section pass

variable {plain n reached : Nat} {p : Progress} {r : Reading}

/-- Code points that no character has are passed over by lengthening the distance. -/
theorem InStep.advance (h : InStep plain reached 0 p r) (hle : reached ≤ n) :
    InStep plain n 0 (p.ahead ((n - reached) * (p.placed + 1))) r where
  distance := by
    have hdistance := h.distance
    have hcode := h.code
    have hturns : n - r.code = (reached - r.code) + (n - reached) := by omega
    rw [hturns, Nat.add_mul, Progress.ahead, h.placed, ← Nat.add_assoc, hdistance]
    omega
  code := Nat.le_trans h.code hle
  placed := h.placed
  least := h.least
  first := h.first

theorem InStep.wrap (h : InStep plain n r.out.length p r) :
    InStep plain (n + 1) 0 (p.ahead 1) r where
  distance := by
    have hdistance := h.distance
    have hcode := h.code
    have hturns : n + 1 - r.code = (n - r.code) + 1 := by omega
    simp only [Progress.ahead]
    rw [hturns, Nat.add_mul]
    omega
  code := Nat.le_succ_of_le h.code
  placed := h.placed
  least := h.least
  first := h.first

/-- Behind the whole label the reader has all characters up to the code point of the pass. -/
theorem InStep.pass {label : List Char} (h : InStep plain n 0 p r)
    (hout : r.out = label.filter (·.toNat < n)) :
    ∃ t, Leads p (place label plain n p) r t ∧ t.out = label.filter (·.toNat < n + 1) ∧
      InStep plain (n + 1) 0 ((place label plain n p).ahead 1) t := by
  obtain ⟨t, hleads, hstep, htext⟩ := foldl_placeChar [] label h
    (by rw [hout, placedBefore, List.filter_nil, List.nil_append])
  rw [List.nil_append] at hstep htext
  rw [← place_eq, ← htext] at hstep
  rw [← place_eq] at hleads
  refine ⟨t, hleads, ?_, hstep.wrap⟩
  rw [htext]
  exact List.filter_congr fun c _ => by rw [decide_eq_decide, Nat.lt_succ_iff]

theorem placeAll_cons (label : List Char) (plain n reached : Nat) (later : List Nat)
    (p : Progress) :
    placeAll label plain (n :: later) reached p = placeAll label plain later (n + 1)
      ((place label plain n (p.ahead ((n - reached) * (p.placed + 1)))).ahead 1) := rfl

/-- The writer leads the reader to the label. -/
theorem leads_placeAll (label : List Char) {codes : List Nat} (h : InStep plain reached 0 p r)
    (hout : r.out = label.filter (·.toNat < reached)) (hsorted : codes.Pairwise (· < ·))
    (hlater : ∀ n ∈ codes, reached ≤ n)
    (hall : ∀ c ∈ label, reached ≤ c.toNat → c.toNat ∈ codes) :
    ∃ t, Leads p (placeAll label plain codes reached p) r t ∧ t.out = label := by
  induction hsorted generalizing reached p r with
  | nil =>
      refine ⟨r, .refl _ _, hout.trans (List.filter_eq_self.mpr fun c hc => ?_)⟩
      by_contra hge
      have hmem := hall c hc (by simpa using hge)
      cases hmem
  | @cons n codes hn hcodes ih =>
      have hle : reached ≤ n := hlater n List.mem_cons_self
      -- No character of the label lies between what was reached and the next code point.
      have hbetween (c : Char) (hc : c ∈ label) (hge : reached ≤ c.toNat) : n ≤ c.toNat := by
        rcases List.mem_cons.mp (hall c hc hge) with heq | hmem
        · exact Nat.le_of_eq heq.symm
        · exact Nat.le_of_lt (hn _ hmem)
      have hbefore : r.out = label.filter (·.toNat < n) := by
        rw [hout]
        refine List.filter_congr fun c hc => ?_
        have hge := hbetween c hc
        rw [decide_eq_decide]
        omega
      obtain ⟨t, hleads, htext, hstep⟩ := (h.advance hle).pass hbefore
      obtain ⟨v, hleads', hv⟩ := ih hstep htext (fun m hm => hn m hm) fun c hc hge => by
        rcases List.mem_cons.mp (hall c hc (by omega)) with heq | hmem
        · omega
        · exact hmem
      refine ⟨v, ?_, hv⟩
      rw [placeAll_cons]
      exact (Leads.ahead p _ r).trans (hleads.trans ((Leads.ahead _ 1 t).trans hleads'))

end pass

/-! ### Labels -/

/-- What stands in the encoding for the characters outside ASCII. -/
def numerals (label : List Char) : List Char :=
  (placeAll label (label.filter isPlain).length
    (((label.filter (!isPlain ·)).map Char.toNat).foldr insertCode []) 0x80
    ⟨[], 0, 72, (label.filter isPlain).length⟩).written

theorem encode_eq (label : List Char) : encode label = label.filter isPlain ++
    (if (label.filter isPlain).isEmpty then [] else ['-']) ++ numerals label := rfl

theorem hyphen_not_mem_numerals (label : List Char) : '-' ∉ numerals label := by
  intro hmem
  exact absurd (isDigit_iff.mp (isDigit_of_mem_placeAll (by simp) _ hmem)) (by decide)

theorem insertAll_nil (code index bias : Nat) (out : List Char) :
    insertAll [] code index bias out = some out := by
  rw [insertAll, List.isEmpty_nil, if_pos rfl]

/-- The reader that begins with the plain characters inserts all others. -/
theorem insertAll_numerals (label : List Char) :
    insertAll (numerals label) 0x80 0 72 (label.filter isPlain) = some label := by
  have hstart : InStep (label.filter isPlain).length 0x80 0
      ⟨[], 0, 72, (label.filter isPlain).length⟩ ⟨0x80, 0, label.filter isPlain⟩ :=
    ⟨by simp, Nat.le_refl _, rfl, Nat.le_refl _, by simp⟩
  obtain ⟨t, ⟨text, hwritten, hread⟩, ht⟩ := leads_placeAll label hstart rfl
    (pairwise_foldr_insertCode ((label.filter (!isPlain ·)).map Char.toNat))
    (fun n hn => by
      obtain ⟨c, hc, rfl⟩ := List.mem_map.mp (mem_foldr_insertCode.mp hn)
      have houtside : (!isPlain c) = true := (List.mem_filter.mp hc).2
      simpa [isPlain] using houtside)
    (fun c hc hge => mem_foldr_insertCode.mpr (List.mem_map.mpr
      ⟨c, List.mem_filter.mpr ⟨hc, by simpa [isPlain] using hge⟩, rfl⟩))
  have hfinish := hread []
  rw [List.append_nil, Reading.finish, Reading.finish, insertAll_nil, ht] at hfinish
  rw [numerals, hwritten, List.nil_append]
  exact hfinish

theorem decode?_encode (label : List Char) : decode? (encode label) = some label := by
  have hread := insertAll_numerals label
  have hhyphen := hyphen_not_mem_numerals label
  rw [decode?, encode_eq]
  cases hplain : label.filter isPlain with
  | nil =>
      rw [hplain] at hread
      rw [List.isEmpty_nil, if_pos rfl, List.nil_append, List.nil_append,
        Text.cutAtLast?_of_not_mem hhyphen]
      exact hread
  | cons c rest =>
      have hall : (c :: rest).all isPlain = true :=
        List.all_eq_true.mpr fun d hd => (List.mem_filter.mp (hplain ▸ hd)).2
      rw [hplain] at hread
      rw [List.isEmpty_cons, if_neg (by decide), List.append_assoc, List.singleton_append,
        Text.cutAtLast?_append hhyphen]
      simp only [if_pos hall]
      exact hread

end LoginGateway.Punycode
