import LoginGateway.Proofs.Text.CodeTables
import LoginGateway.Url.Idna.Label

/-!
What the tables of composition say. A decomposition ends after three steps, so that what four steps
give cannot be decomposed further; and the decomposition of a composed pair is that of the pair.
-/

namespace LoginGateway.Idna

open CodeTable (ascends bits readChars)

/-- The code points that an entry puts in the place of its own. -/
def parts (s : Stretch) : List Char := codePoints (s.note.drop 1)

/-- The character cannot be decomposed. -/
def Final (c : Char) : Prop := isSyllable c.toNat = false ∧ decompositions.lookup c.toNat = none

/-- The decomposition of the character ends within so many steps. -/
def Ends : Nat → Char → Prop
  | 0, c => Final c
  | n + 1, c => Final c ∨ isSyllable c.toNat = false ∧
      ∃ s, decompositions.lookup c.toNat = some s ∧ ∀ p ∈ parts s, Ends n p

theorem decompose_of_final {c : Char} (h : Final c) (n : Nat) : decompose n c = [c] := by
  cases n with
  | zero => rfl
  | succ n =>
      simp only [decompose, h.1, h.2, Option.elim_none, Bool.false_eq_true, if_false]

theorem decompose_of_lookup {c : Char} {s : Stretch} (hplain : isSyllable c.toNat = false)
    (h : decompositions.lookup c.toNat = some s) (n : Nat) :
    decompose (n + 1) c = (parts s).flatMap (decompose n) := by
  simp only [decompose, hplain, h, Option.elim_some, Bool.false_eq_true, if_false, parts]

theorem Ends.decompose_eq {n m : Nat} {c : Char} (h : Ends n c) (hle : n ≤ m) :
    decompose m c = decompose n c ∧ ∀ d ∈ decompose n c, Final d := by
  induction n generalizing m c with
  | zero =>
      have hfinal : Final c := h
      rw [decompose_of_final hfinal, decompose_of_final hfinal]
      exact ⟨rfl, by simpa using hfinal⟩
  | succ n ih =>
      rcases h with h | ⟨hplain, s, hs, hparts⟩
      · rw [decompose_of_final h, decompose_of_final h]
        exact ⟨rfl, by simpa using h⟩
      · obtain ⟨m, rfl⟩ := Nat.exists_eq_add_of_le' hle
        rw [show m + (n + 1) = (m + n) + 1 by omega, decompose_of_lookup hplain hs,
          decompose_of_lookup hplain hs]
        constructor
        · rw [List.flatMap_def, List.flatMap_def, List.map_congr_left]
          exact fun p hp => (ih (hparts p hp) (Nat.le_add_left n m)).1
        · intro d hd
          obtain ⟨p, hp, hd⟩ := List.mem_flatMap.mp hd
          exact (ih (hparts p hp) (Nat.le_refl n)).2 d hd

/-! ### The entries -/

/-- The code points, among those of the table, all of whose parts are not in `known` or are in
`ended`. -/
def settling (known ended : Nat) (t : CodeTable) : Nat :=
  bits (t.filter fun s =>
    (parts s).all fun p => !known.testBit p.toNat || ended.testBit p.toNat)

/-- The entry stands for a character that is no part of a syllable. None of its parts is a dot or a
syllable, or has parts that have parts that are entries; only the first part is plain. -/
def isSound (known ended : Nat) (s : Stretch) : Bool :=
  decide (0xC0 ≤ s.first) && decide s.first.isValidChar && !isSyllable s.first &&
    (decide (s.first < 0x1100) || decide (0x1200 ≤ s.first)) &&
    ((parts s).all fun p => p != '.' && !isSyllable p.toNat &&
      (!known.testBit p.toNat || ended.testBit p.toNat)) &&
    ((parts s).drop 1).all fun p => decide (0x80 ≤ p.toNat)

def isSoundTable (t : CodeTable) : Bool :=
  ascends 0 t && t.all (isSound (bits t) (settling (bits t) (settling (bits t) 0 t) t))

set_option maxRecDepth 40000 in
theorem isSoundTable_decompositions : isSoundTable decompositions = true := by
  obtain ⟨l₁, l₂, l₃, l₄, l₅, l₆, l₇, l₈, h₁, h₂, h₃, h₄, h₅, h₆, h₇, h₈, hsound⟩ :
      ∃ l₁ l₂ l₃ l₄ l₅ l₆ l₇ l₈,
        letterDecompositions = CodeTable.read (String.ofList l₁) ∧
        indicDecompositions = CodeTable.read (String.ofList l₂) ∧
        latinDecompositions = CodeTable.read (String.ofList l₃) ∧
        greekDecompositions = CodeTable.read (String.ofList l₄) ∧
        kanaDecompositions = CodeTable.read (String.ofList l₅) ∧
        hanDecompositions = CodeTable.read (String.ofList l₆) ∧
        pointedDecompositions = CodeTable.read (String.ofList l₇) ∧
        rareHanDecompositions = CodeTable.read (String.ofList l₈) ∧
        isSoundTable (readChars l₁ ++ readChars l₂ ++ readChars l₃ ++ readChars l₄ ++
          readChars l₅ ++ readChars l₆ ++ readChars l₇ ++ readChars l₈) = true :=
    -- Decompositions go from one part of the table to another, so the check runs over all parts.
    ⟨_, _, _, _, _, _, _, _, rfl, rfl, rfl, rfl, rfl, rfl, rfl, rfl, by decide +kernel⟩
  simp only [decompositions, h₁, h₂, h₃, h₄, h₅, h₆, h₇, h₈, CodeTable.read_ofList]
  exact hsound

theorem ascends_decompositions : ascends 0 decompositions = true :=
  (Bool.and_eq_true _ _ ▸ isSoundTable_decompositions).1

section entries

variable {s : Stretch} (hs : s ∈ decompositions)

include hs

theorem isSound_of_mem : isSound (bits decompositions) (settling (bits decompositions)
    (settling (bits decompositions) 0 decompositions) decompositions) s = true :=
  List.all_eq_true.mp (Bool.and_eq_true _ _ ▸ isSoundTable_decompositions).2 s hs

theorem not_isSyllable_of_mem_parts {p : Char} (hp : p ∈ parts s) :
    isSyllable p.toNat = false := by
  have hsound := isSound_of_mem hs
  simp only [isSound, Bool.and_eq_true, List.all_eq_true, Bool.not_eq_true'] at hsound
  exact (hsound.1.2 p hp).1.2

end entries

theorem final_of_testBit {c : Char} (hplain : isSyllable c.toNat = false)
    (h : (bits decompositions).testBit c.toNat = false) : Final c :=
  ⟨hplain, CodeTable.lookup_eq_none_of_testBit ascends_decompositions h⟩

theorem ends_of_settling {n ended : Nat}
    (hended : ∀ p : Char, isSyllable p.toNat = false → ended.testBit p.toNat = true → Ends n p)
    (hmore : ∀ p, Final p → Ends n p) {c : Char} (hplain : isSyllable c.toNat = false)
    (h : (settling (bits decompositions) ended decompositions).testBit c.toNat = true) :
    Ends (n + 1) c := by
  obtain ⟨s, hs, hfirst⟩ := (CodeTable.testBit_bits _ _).mp h
  obtain ⟨hs, hparts⟩ := List.mem_filter.mp hs
  have hlookup := CodeTable.lookup_of_mem ascends_decompositions hs
  rw [hfirst] at hlookup
  refine .inr ⟨hplain, s, hlookup, fun p hp => ?_⟩
  have hpart := not_isSyllable_of_mem_parts hs hp
  have hbits := List.all_eq_true.mp hparts p hp
  rw [Bool.or_eq_true, Bool.not_eq_true'] at hbits
  rcases hbits with hnone | hbit
  · exact hmore p (final_of_testBit hpart hnone)
  · exact hended p hpart hbit

/-- What is known of an entry. -/
structure Sound (s : Stretch) : Prop where
  scalar : s.first.isValidChar
  wide : 0xC0 ≤ s.first
  whole : isSyllable s.first = false
  noJamo : s.first < 0x1100 ∨ 0x1200 ≤ s.first
  noDot : '.' ∉ parts s
  ends : ∀ p ∈ parts s, Ends 2 p
  marks : ∀ p ∈ (parts s).drop 1, 0x80 ≤ p.toNat

theorem sound_of_mem {s : Stretch} (hs : s ∈ decompositions) : Sound s := by
  have hfirst : ∀ p : Char, isSyllable p.toNat = false → Nat.testBit 0 p.toNat = true →
      Ends 0 p := by
    intro p _ hp
    rw [Nat.zero_testBit] at hp
    cases hp
  have hsecond : ∀ p : Char, isSyllable p.toNat = false →
      (settling (bits decompositions) 0 decompositions).testBit p.toNat = true → Ends 1 p :=
    fun p => ends_of_settling hfirst fun _ h => h
  have hsound := isSound_of_mem hs
  simp only [isSound, Bool.and_eq_true, List.all_eq_true, Bool.not_eq_true', Bool.or_eq_true,
    decide_eq_true_eq, bne_iff_ne] at hsound
  obtain ⟨⟨⟨⟨⟨hwide, hscalar⟩, hwhole⟩, hjamo⟩, hparts⟩, hmarks⟩ := hsound
  refine ⟨hscalar, hwide, hwhole, hjamo, fun hdot => (hparts _ hdot).1.1 rfl, ?_, hmarks⟩
  intro p hp
  have hplain := not_isSyllable_of_mem_parts hs hp
  rcases (hparts p hp).2 with hnone | hbit
  · exact .inl (final_of_testBit hplain hnone)
  · exact ends_of_settling hsecond (fun _ h => .inl h) hplain hbit

/-! ### Characters -/

theorem entry_of_lookup {c : Char} {s : Stretch} (h : decompositions.lookup c.toNat = some s) :
    s ∈ decompositions ∧ s.first = c.toNat := by
  obtain ⟨hs, hle, hge⟩ := CodeTable.mem_of_lookup h
  have hsingle := (CodeTable.lt_of_ascends ascends_decompositions hs).2
  exact ⟨hs, by omega⟩

theorem final_of_mem_parts {c d : Char} {s : Stretch} (hs : s ∈ decompositions) (hc : c ∈ parts s)
    (hd : d ∈ decompose 3 c) : Final d :=
  ((sound_of_mem hs).ends c hc).decompose_eq (by omega : 2 ≤ 2) |>.2 d
    (((sound_of_mem hs).ends c hc).decompose_eq (by omega : 2 ≤ 3) |>.1 ▸ hd)

theorem final_of_plain {c : Char} (h : c.toNat < 0xC0) : Final c := by
  constructor
  · rw [isSyllable, Bool.and_eq_false_iff, decide_eq_false_iff_not, syllableBase]
    omega
  · refine CodeTable.lookup_eq_none_of_forall fun s hs => ?_
    have hwide := (sound_of_mem hs).wide
    omega

theorem final_of_jamo {c : Char} (h : 0x1100 ≤ c.toNat ∧ c.toNat < 0x1200) : Final c := by
  constructor
  · rw [isSyllable, Bool.and_eq_false_iff, decide_eq_false_iff_not, syllableBase]
    omega
  · refine CodeTable.lookup_eq_none_of_forall fun s hs => ?_
    have hjamo := (sound_of_mem hs).noJamo
    have hsingle := (CodeTable.lt_of_ascends ascends_decompositions hs).2
    omega

theorem toNat_ofNat_of_lt {n : Nat} (h : n < 0xD800) : (Char.ofNat n).toNat = n := by
  rw [Char.ofNat, dif_pos (Or.inl h)]
  rfl

theorem isSyllable_iff {n : Nat} : isSyllable n = true ↔ 0xAC00 ≤ n ∧ n < 0xD7A4 := by
  rw [isSyllable, Bool.and_eq_true, decide_eq_true_eq, decide_eq_true_eq, syllableBase]

/-- A syllable is decomposed into two or three letters. -/
theorem decompose_syllable {c : Char} (h : isSyllable c.toNat = true) (n : Nat) :
    decompose (n + 1) c =
      [Char.ofNat (0x1100 + (c.toNat - 0xAC00) / 588),
        Char.ofNat (0x1161 + (c.toNat - 0xAC00) % 588 / 28)] ++
      (if (c.toNat - 0xAC00) % 28 = 0 then []
        else [Char.ofNat (0x11A7 + (c.toNat - 0xAC00) % 28)]) := by
  rw [decompose]
  exact if_pos h

theorem jamo_of_mem_syllable {c d : Char} {n : Nat} (hplain : isSyllable c.toNat = true)
    (h : d ∈ decompose (n + 1) c) : 0x1100 ≤ d.toNat ∧ d.toNat < 0x1200 := by
  have hrange := isSyllable_iff.mp hplain
  rw [decompose_syllable hplain] at h
  rcases List.mem_append.mp h with h | h
  · simp only [List.mem_cons, List.not_mem_nil, or_false] at h
    rcases h with rfl | rfl
    · rw [toNat_ofNat_of_lt (by omega)]
      omega
    · rw [toNat_ofNat_of_lt (by omega)]
      omega
  · split at h
    · cases h
    · rw [List.mem_singleton.mp h, toNat_ofNat_of_lt (by omega)]
      omega

theorem final_of_mem_decompose {c d : Char} (h : d ∈ decompose 4 c) : Final d := by
  cases hplain : isSyllable c.toNat with
  | true => exact final_of_jamo (jamo_of_mem_syllable hplain h)
  | false =>
      cases hlookup : decompositions.lookup c.toNat with
      | none =>
          have hfinal : Final c := ⟨hplain, hlookup⟩
          rw [decompose_of_final hfinal, List.mem_singleton] at h
          exact h ▸ hfinal
      | some s =>
          rw [decompose_of_lookup hplain hlookup] at h
          obtain ⟨p, hp, hd⟩ := List.mem_flatMap.mp h
          exact final_of_mem_parts (entry_of_lookup hlookup).1 hp hd

theorem dot_of_mem_decompose {n : Nat} {c : Char} (h : '.' ∈ decompose n c) : c = '.' := by
  induction n generalizing c with
  | zero => exact (List.mem_singleton.mp h).symm
  | succ n ih =>
      cases hplain : isSyllable c.toNat with
      | true =>
          have hdot := jamo_of_mem_syllable hplain h
          exact absurd hdot.1 (by decide)
      | false =>
          cases hlookup : decompositions.lookup c.toNat with
          | none =>
              rw [decompose_of_final ⟨hplain, hlookup⟩] at h
              exact (List.mem_singleton.mp h).symm
          | some s =>
              rw [decompose_of_lookup hplain hlookup] at h
              obtain ⟨p, hp, hdot⟩ := List.mem_flatMap.mp h
              have hsound := sound_of_mem (entry_of_lookup hlookup).1
              exact absurd (ih hdot ▸ hp) hsound.noDot

/-! ### Pairs -/

theorem composePair?_eq_some {a b d : Char} (h : composePair? a b = some d) :
    ((0x1100 ≤ a.toNat ∧ a.toNat < 0x1113) ∧ (0x1161 ≤ b.toNat ∧ b.toNat < 0x1176) ∧
      d = Char.ofNat (0xAC00 + ((a.toNat - 0x1100) * 21 + (b.toNat - 0x1161)) * 28)) ∨
    (isSyllable a.toNat = true ∧ (a.toNat - 0xAC00) % 28 = 0 ∧
      (0x11A7 < b.toNat ∧ b.toNat < 0x11C3) ∧ d = Char.ofNat (a.toNat + (b.toNat - 0x11A7))) ∨
    ∃ s ∈ decompositions, parts s = [a, b] ∧ d = Char.ofNat s.first := by
  rw [composePair?] at h
  split at h
  · next hletters =>
      exact .inl ⟨⟨hletters.1, hletters.2.1⟩, hletters.2.2, (Option.some.inj h).symm⟩
  · split at h
    · next hletters =>
        exact .inr (.inl ⟨hletters.1, hletters.2.1, hletters.2.2, (Option.some.inj h).symm⟩)
    · obtain ⟨s, hs, rfl⟩ := Option.map_eq_some_iff.mp h
      have hparts := List.find?_some hs
      rw [Bool.and_eq_true, beq_iff_eq] at hparts
      exact .inr (.inr ⟨s, List.mem_of_find?_eq_some hs, hparts.2, rfl⟩)

theorem decompose_letters {a b : Char} (ha : 0x1100 ≤ a.toNat ∧ a.toNat < 0x1113)
    (hb : 0x1161 ≤ b.toNat ∧ b.toNat < 0x1176) :
    decompose 4 (Char.ofNat (0xAC00 + ((a.toNat - 0x1100) * 21 + (b.toNat - 0x1161)) * 28)) =
      decompose 4 a ++ [b] := by
  have hcode := toNat_ofNat_of_lt
    (show 0xAC00 + ((a.toNat - 0x1100) * 21 + (b.toNat - 0x1161)) * 28 < 0xD800 by omega)
  have hplain : isSyllable (Char.ofNat
      (0xAC00 + ((a.toNat - 0x1100) * 21 + (b.toNat - 0x1161)) * 28)).toNat = true := by
    rw [hcode, isSyllable_iff]
    omega
  have hlead : 0x1100 + ((a.toNat - 0x1100) * 21 + (b.toNat - 0x1161)) * 28 / 588 = a.toNat := by
    omega
  have hvowel : 0x1161 + ((a.toNat - 0x1100) * 21 + (b.toNat - 0x1161)) * 28 % 588 / 28 =
      b.toNat := by
    omega
  rw [decompose_syllable hplain, hcode, Nat.add_sub_cancel_left, Nat.mul_mod_left, if_pos rfl,
    hlead, hvowel, Char.ofNat_toNat, Char.ofNat_toNat,
    decompose_of_final (final_of_jamo (by omega)), List.append_nil]
  rfl

theorem decompose_lettersEnd {a b : Char} (ha : isSyllable a.toNat = true)
    (hopen : (a.toNat - 0xAC00) % 28 = 0) (hb : 0x11A7 < b.toNat ∧ b.toNat < 0x11C3) :
    decompose 4 (Char.ofNat (a.toNat + (b.toNat - 0x11A7))) = decompose 4 a ++ [b] := by
  have hrange := isSyllable_iff.mp ha
  have hcode := toNat_ofNat_of_lt (show a.toNat + (b.toNat - 0x11A7) < 0xD800 by omega)
  have hplain : isSyllable (Char.ofNat (a.toNat + (b.toNat - 0x11A7))).toNat = true := by
    rw [hcode, isSyllable_iff]
    omega
  have hindex : a.toNat + (b.toNat - 0x11A7) - 0xAC00 = a.toNat - 0xAC00 + (b.toNat - 0x11A7) := by
    omega
  have hlead : (a.toNat - 0xAC00 + (b.toNat - 0x11A7)) / 588 = (a.toNat - 0xAC00) / 588 := by omega
  have hvowel : (a.toNat - 0xAC00 + (b.toNat - 0x11A7)) % 588 / 28 =
      (a.toNat - 0xAC00) % 588 / 28 := by
    omega
  have htail : (a.toNat - 0xAC00 + (b.toNat - 0x11A7)) % 28 = b.toNat - 0x11A7 := by omega
  have hback : 0x11A7 + (b.toNat - 0x11A7) = b.toNat := by omega
  rw [decompose_syllable hplain, decompose_syllable ha, hcode, hindex, hlead, hvowel, htail, hback,
    if_neg (by omega), if_pos hopen, Char.ofNat_toNat, List.append_nil]

theorem decompose_entry {s : Stretch} (hs : s ∈ decompositions) {a b : Char}
    (hparts : parts s = [a, b]) (hb : Final b) :
    decompose 4 (Char.ofNat s.first) = decompose 4 a ++ [b] := by
  have hsound := sound_of_mem hs
  have hcode : (Char.ofNat s.first).toNat = s.first := by
    rw [Char.ofNat, dif_pos hsound.scalar]
    rfl
  have hlookup := CodeTable.lookup_of_mem ascends_decompositions hs
  have ha := hsound.ends a (by rw [hparts]; exact List.mem_cons_self)
  rw [← hcode] at hlookup
  rw [decompose_of_lookup (by rw [hcode]; exact hsound.whole) hlookup, hparts, List.flatMap_cons,
    List.flatMap_singleton, decompose_of_final hb, (ha.decompose_eq (show 2 ≤ 3 by omega)).1,
    (ha.decompose_eq (show 2 ≤ 4 by omega)).1]

/-- Composing a pair loses nothing: it is decomposed into what the pair is. -/
theorem decompose_composePair {a b d : Char} (h : composePair? a b = some d) (hb : Final b) :
    decompose 4 d = decompose 4 a ++ [b] := by
  rcases composePair?_eq_some h with
    ⟨ha, hrange, hd⟩ | ⟨ha, hopen, hrange, hd⟩ | ⟨s, hs, hparts, hd⟩
  · rw [hd, decompose_letters ha hrange]
  · rw [hd, decompose_lettersEnd ha hopen hrange]
  · rw [hd, decompose_entry hs hparts hb]

/-- A plain character, such as a dot, is composed with nothing before it. -/
theorem composePair?_plain {a b : Char} (hb : b.toNat < 0x80) : composePair? a b = none := by
  cases h : composePair? a b with
  | none => rfl
  | some d =>
      rcases composePair?_eq_some h with ⟨-, hrange, -⟩ | ⟨-, -, hrange, -⟩ | ⟨s, hs, hparts, -⟩
      · omega
      · omega
      · have hmark := (sound_of_mem hs).marks b (by rw [hparts]; exact List.mem_cons_self)
        omega

theorem composePair?_dot (b : Char) : composePair? '.' b = none := by
  cases h : composePair? '.' b with
  | none => rfl
  | some d =>
      have hdot : '.'.toNat = 0x2E := rfl
      rcases composePair?_eq_some h with ⟨hrange, -, -⟩ | ⟨hrange, -, -⟩ | ⟨s, hs, hparts, -⟩
      · omega
      · have hrange := isSyllable_iff.mp hrange
        omega
      · exact absurd (by rw [hparts]; exact List.mem_cons_self) (sound_of_mem hs).noDot

/-! ### Combining classes -/

set_option maxRecDepth 40000 in
theorem wide_of_mem_combiningClasses {s : Stretch} (hs : s ∈ combiningClasses) :
    0x80 ≤ s.first := by
  obtain ⟨l, hl, hall⟩ : ∃ l, combiningClasses = CodeTable.read (String.ofList l) ∧
      (readChars l).all (fun s => decide (0x80 ≤ s.first)) = true :=
    ⟨_, rfl, by decide +kernel⟩
  rw [hl, CodeTable.read_ofList] at hs
  exact of_decide_eq_true (List.all_eq_true.mp hall s hs)

theorem combiningClass_plain {c : Char} (h : c.toNat < 0x80) : combiningClass c = 0 := by
  have hnone : combiningClasses.lookup c.toNat = none := by
    refine CodeTable.lookup_eq_none_of_forall fun s hs => ?_
    have hwide := wide_of_mem_combiningClasses hs
    omega
  rw [combiningClass, hnone, Option.bind_none, Option.getD_none]

end LoginGateway.Idna
