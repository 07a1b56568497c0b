import LoginGateway.Proofs.Json.Literals
import Mathlib.Algebra.Order.Field.Power
import Mathlib.Data.Rat.Cast.Order
import Mathlib.Tactic.Linarith
import Mathlib.Tactic.NormNum
import Mathlib.Tactic.Positivity

/-!
The size of a number. The reader keeps 64 bits of a literal and a power of ten, rounds both to doubles
and multiplies them, so it is wrong about the size by a small part of it at most. Literals that are
clearly below 2^1024 are kept and those clearly above are refused; what lies between depends on the
digits. Main statements: `isTooLarge_of_le` and `isTooLarge_eq_false`.
-/

namespace LoginGateway.Json

namespace Numeral

/-! ### Digits -/

/-- The number with the digits behind it. -/
def place (n : Nat) (digits : List Char) : Nat :=
  digits.foldl (fun n c => n * 10 + (Text.digitValue? c).getD 0) n

theorem place_append (n : Nat) (s t : List Char) : place n (s ++ t) = place (place n s) t :=
  List.foldl_append

theorem exists_digitValue? {c : Char} (hc : c.isDigit = true) :
    ∃ d, Text.digitValue? c = some d ∧ d < 10 := by
  have hrange : 0x30 ≤ c.toNat ∧ c.toNat ≤ 0x39 := by
    simp only [Char.isDigit, Bool.and_eq_true, decide_eq_true_eq] at hc
    exact ⟨UInt32.le_iff_toNat_le.mp hc.1, UInt32.le_iff_toNat_le.mp hc.2⟩
  exact ⟨c.toNat - 0x30, if_pos hrange, by omega⟩

theorem numeral?_eq_place {digits : List Char} (h : ∀ c ∈ digits, c.isDigit = true) :
    Text.numeral? 10 digits = some (place 0 digits) := by
  induction digits using List.reverseRecOn with
  | nil => rfl
  | append_singleton digits c ih =>
      obtain ⟨d, hd, hlt⟩ := exists_digitValue? (h c (by simp))
      rw [Text.numeral?_concat, ih fun e he => h e (List.mem_append_left _ he), place_append]
      simp [hd, hlt, place]

/-- The digits behind a number make it grow by less than one in the place of the number. -/
theorem place_bounds (n : Nat) {digits : List Char} (h : ∀ c ∈ digits, c.isDigit = true) :
    n * 10 ^ digits.length ≤ place n digits ∧
      place n digits + 1 ≤ (n + 1) * 10 ^ digits.length := by
  induction digits using List.reverseRecOn with
  | nil => simp [place]
  | append_singleton digits c ih =>
      obtain ⟨d, hd, hlt⟩ := exists_digitValue? (h c (by simp))
      obtain ⟨hlower, hupper⟩ := ih fun e he => h e (List.mem_append_left _ he)
      have hplace : place n (digits ++ [c]) = place n digits * 10 + d := by
        rw [place_append]
        simp [place, hd]
      rw [hplace, List.length_append, List.length_singleton, pow_succ, ← mul_assoc, ← mul_assoc]
      omega

/-- Digits are left only when many have been taken. -/
theorem gather_spec (n : Nat) {digits : List Char} (h : ∀ c ∈ digits, c.isDigit = true) :
    ∃ taken, digits = taken ++ (gather n digits).2 ∧ (gather n digits).1 = place n taken ∧
      ((gather n digits).2 = [] ∨ 10 ^ 18 ≤ (gather n digits).1) := by
  induction digits generalizing n with
  | nil => exact ⟨[], rfl, rfl, .inl rfl⟩
  | cons c rest ih =>
      obtain ⟨hc, hrest⟩ := List.forall_mem_cons.mp h
      rw [gather]
      split
      · obtain ⟨taken, hdigits, hvalue, hleft⟩ := ih (n * 10 + (Text.digitValue? c).getD 0) hrest
        exact ⟨c :: taken, congrArg (c :: ·) hdigits, hvalue, hleft⟩
      · next hfull =>
          obtain ⟨d, hd, hlt⟩ := exists_digitValue? hc
          have hsize : Nat.pow 2 64 = 18446744073709551616 := by decide
          rw [hd, Option.getD_some, hsize] at hfull
          exact ⟨[], rfl, rfl, .inr (by omega)⟩

theorem gather_lt {n : Nat} (hn : n < 2 ^ 64) (digits : List Char) :
    (gather n digits).1 < 2 ^ 64 := by
  induction digits generalizing n with
  | nil => exact hn
  | cons c rest ih =>
      rw [gather]
      split
      · next hnext => exact ih hnext
      · exact hn

/-! ### Rounding -/

/-- A number is rounded to a multiple of the unit of its last bit, up or down by half of it at most. -/
theorem nearestDouble_cases (n : Nat) : ∃ unit, (unit = 1 ∨ unit * 2 ^ 52 ≤ n) ∧
    (nearestDouble n = n + (unit - n % unit) ∧ unit ≤ 2 * (n % unit) ∨
      nearestDouble n = n - n % unit ∧ 2 * (n % unit) ≤ unit) := by
  refine ⟨Nat.pow 2 (n.log2 - 52), ?_, ?_⟩
  · rcases Nat.lt_or_ge 52 n.log2 with hlarge | hsmall
    · have hne : n ≠ 0 := by
        rintro rfl
        simp at hlarge
      refine .inr (le_trans (le_of_eq ?_) (Nat.log2_self_le hne))
      rw [Nat.pow_eq, ← pow_add, Nat.sub_add_cancel hlarge.le]
    · rw [Nat.sub_eq_zero_of_le hsmall]
      exact .inl rfl
  · have hunit : 0 < Nat.pow 2 (n.log2 - 52) := Nat.pow_pos (by decide)
    rw [nearestDouble]
    generalize Nat.pow 2 (n.log2 - 52) = unit at hunit ⊢
    have hover := Nat.mod_lt n hunit
    have hdivide := Nat.div_add_mod' n unit
    split
    · next hup =>
        simp only [Bool.or_eq_true, Bool.and_eq_true, decide_eq_true_eq, beq_iff_eq] at hup
        rw [Nat.succ_mul]
        omega
    · next hdown =>
        simp only [Bool.or_eq_true, decide_eq_true_eq, not_or] at hdown
        omega

/-- Half a unit of its last bit is a small part of a number. -/
theorem nearestDouble_bounds (n : Nat) : 2 ^ 53 * nearestDouble n ≤ (2 ^ 53 + 1) * n ∧
    (2 ^ 53 - 1) * n ≤ 2 ^ 53 * nearestDouble n := by
  obtain ⟨unit, rfl | hunit, hcases⟩ := nearestDouble_cases n
  · rw [Nat.mod_one] at hcases
    omega
  · have hle := Nat.mod_le n unit
    omega

/-! ### What is kept -/

/-- The digits in front of the point and those behind it, as one number. -/
def mantissa (n : Numeral) : Nat := (Text.numeral? 10 (n.whole ++ n.fraction.getD [])).getD 0

/-- The value without its sign. -/
def magnitude (n : Numeral) : ℚ :=
  n.mantissa * 10 ^ (n.exponent.getD 0 - (n.fraction.getD []).length)

/-- What is left of the value without its sign. -/
def kept (n : Numeral) : ℚ := n.scaled.1 * 10 ^ n.scaled.2

/-- Each of the two is greater than the other by a small part of it at most. -/
def Near (x y : ℚ) : Prop :=
  x * 10 ^ 18 ≤ y * (10 ^ 18 + 1) ∧ y * 10 ^ 18 ≤ x * (10 ^ 18 + 1)

theorem near_refl {x : ℚ} (hx : 0 ≤ x) : Near x x := by
  constructor <;> linarith

section near

variable {x y : ℚ} {edge part whole : Nat}

theorem lt_of_near (hx : edge ≤ x) (hnear : x * 10 ^ 18 ≤ y * (10 ^ 18 + 1))
    (hy : y * part < whole) : edge * 10 ^ 18 * part < whole * (10 ^ 18 + 1) := by
  have hpart : (0 : ℚ) ≤ part := Nat.cast_nonneg _
  have hedge := mul_le_mul_of_nonneg_right hx hpart
  have hscaled := mul_le_mul_of_nonneg_right hnear hpart
  have hlt : (edge * 10 ^ 18 * part : ℚ) < whole * (10 ^ 18 + 1) := by linarith
  exact_mod_cast hlt

theorem le_of_near (hx : x ≤ edge) (hnear : y * 10 ^ 18 ≤ x * (10 ^ 18 + 1))
    (hy : whole ≤ y * part) : whole * 10 ^ 18 ≤ edge * (10 ^ 18 + 1) * part := by
  have hpart : (0 : ℚ) ≤ part := Nat.cast_nonneg _
  have hedge := mul_le_mul_of_nonneg_right hx hpart
  have hscaled := mul_le_mul_of_nonneg_right hnear hpart
  have hle : (whole * 10 ^ 18 : ℚ) ≤ edge * (10 ^ 18 + 1) * part := by linarith
  exact_mod_cast hle

end near

theorem near_of_between {a : Nat} {unit x y : ℚ} (ha : 10 ^ 18 ≤ a) (hunit : 0 ≤ unit)
    (hx : a * unit ≤ x ∧ x ≤ (a + 1) * unit) (hy : a * unit ≤ y ∧ y ≤ (a + 1) * unit) :
    Near x y := by
  have ha' : (10 : ℚ) ^ 18 ≤ a := by exact_mod_cast ha
  have hsmall : 10 ^ 18 * unit ≤ a * unit := mul_le_mul_of_nonneg_right ha' hunit
  constructor <;> linarith

theorem place_between (a : Nat) {digits : List Char} (h : ∀ c ∈ digits, c.isDigit = true)
    (p : Int) : a * 10 ^ p ≤ place a digits * (10 : ℚ) ^ (p - digits.length) ∧
      place a digits * (10 : ℚ) ^ (p - digits.length) ≤ (a + 1) * 10 ^ p := by
  obtain ⟨hlower, hupper⟩ := place_bounds a h
  have hsplit : (10 : ℚ) ^ p = 10 ^ digits.length * 10 ^ (p - digits.length) := by
    rw [← zpow_natCast, ← zpow_add₀ (by decide), add_sub_cancel]
  have hlower' : (a : ℚ) * 10 ^ digits.length ≤ place a digits := by exact_mod_cast hlower
  have hupper' : (place a digits : ℚ) ≤ (a + 1) * 10 ^ digits.length := by
    exact_mod_cast (Nat.le_succ _).trans hupper
  rw [hsplit, ← mul_assoc, ← mul_assoc]
  exact ⟨mul_le_mul_of_nonneg_right hlower' (by positivity),
    mul_le_mul_of_nonneg_right hupper' (by positivity)⟩

/-- Digits that are counted or dropped are few beside those that are taken. -/
theorem near_gather {whole fraction : List Char} (hwhole : ∀ c ∈ whole, c.isDigit = true)
    (hfraction : ∀ c ∈ fraction, c.isDigit = true) (e : Int) :
    let front := gather 0 whole
    let all := gather front.1 fraction
    Near (place (place 0 whole) fraction * 10 ^ (e - fraction.length))
      (all.1 * 10 ^ (e + front.2.length + all.2.length - fraction.length)) := by
  intro front all
  obtain ⟨taken, htaken, hfront, hmany⟩ := gather_spec 0 hwhole
  obtain ⟨taken', htaken', hall, hmany'⟩ := gather_spec front.1 hfraction
  change whole = taken ++ front.2 at htaken
  change front.1 = _ at hfront
  change fraction = taken' ++ all.2 at htaken'
  change all.1 = _ at hall
  have hunit (p : Int) : (0 : ℚ) ≤ 10 ^ p := by positivity
  by_cases hcounted : front.2 = []
  · -- All digits in front of the point are taken, and perhaps some of the others.
    have hplace : place (place 0 whole) fraction = place all.1 all.2 := by
      rw [htaken, hcounted, List.append_nil, ← hfront, htaken', place_append, ← hall]
    have hlength : e - fraction.length =
        (e + front.2.length + all.2.length - fraction.length) - all.2.length := by
      rw [hcounted, List.length_nil]
      omega
    rw [hplace, hlength]
    generalize e + front.2.length + all.2.length - (fraction.length : Int) = p
    rcases hmany' with hdropped | hmany'
    · change all.2 = [] at hdropped
      rw [hdropped, place, List.foldl_nil, List.length_nil, Int.natCast_zero, sub_zero]
      exact near_refl (by positivity)
    · have hleft : ∀ c ∈ all.2, c.isDigit = true := fun c hc =>
        hfraction c (htaken' ▸ List.mem_append_right _ hc)
      refine near_of_between hmany' (hunit p) (place_between all.1 hleft p) ⟨le_rfl, ?_⟩
      exact mul_le_mul_of_nonneg_right (le_add_of_nonneg_right zero_le_one) (hunit p)
  · -- Those that are taken in front of the point are many already.
    have hmany := hmany.resolve_left hcounted
    have hplace : place (place 0 whole) fraction = place front.1 (front.2 ++ fraction) := by
      rw [htaken, place_append, ← hfront, place_append]
    have hlength : e - fraction.length =
        (e + front.2.length) - (front.2 ++ fraction).length := by
      rw [List.length_append]
      omega
    have hlength' : e + front.2.length + all.2.length - fraction.length =
        (e + front.2.length) - taken'.length := by
      rw [htaken', List.length_append]
      omega
    rw [hplace, hlength, hlength', hall]
    refine near_of_between hmany (hunit _) (place_between _ ?_ _) (place_between _ ?_ _)
    · refine List.forall_mem_append.mpr ⟨fun c hc => hwhole c ?_, hfraction⟩
      rw [htaken]
      exact List.mem_append_right _ hc
    · intro c hc
      refine hfraction c ?_
      rw [htaken']
      exact List.mem_append_left _ hc

/-! ### Products -/

section product

variable {n : Numeral}

theorem isTooLarge_iff : n.isTooLarge = true ↔ 0 < n.scaled.1 ∧ 0 ≤ n.scaled.2 ∧
    (308 < n.scaled.2 ∨
      bound ≤ nearestDouble n.scaled.1 * nearestDouble (10 ^ n.scaled.2.toNat)) := by
  simp [isTooLarge, and_assoc]

theorem scaled_lt (n : Numeral) : n.scaled.1 < 2 ^ 64 :=
  gather_lt (gather_lt (by decide) _) _

theorem kept_eq (h : 0 ≤ n.scaled.2) :
    n.kept = ((n.scaled.1 * 10 ^ n.scaled.2.toNat : Nat) : ℚ) := by
  obtain ⟨k, hk⟩ := Int.eq_ofNat_of_zero_le h
  rw [kept, hk, zpow_natCast, Int.toNat_natCast]
  exact_mod_cast rfl

/-- The product of two rounded numbers is near that of the numbers. -/
theorem nearestDouble_mul_bounds (m k : Nat) :
    (2 ^ 53) ^ 2 * (nearestDouble m * nearestDouble k) ≤ (2 ^ 53 + 1) ^ 2 * (m * k) ∧
      (2 ^ 53 - 1) ^ 2 * (m * k) ≤ (2 ^ 53) ^ 2 * (nearestDouble m * nearestDouble k) := by
  obtain ⟨hupper, hlower⟩ := nearestDouble_bounds m
  obtain ⟨hupper', hlower'⟩ := nearestDouble_bounds k
  constructor
  · have hmul := Nat.mul_le_mul hupper hupper'
    rwa [mul_mul_mul_comm, mul_mul_mul_comm (2 ^ 53 + 1), ← pow_two, ← pow_two] at hmul
  · have hmul := Nat.mul_le_mul hlower hlower'
    rwa [mul_mul_mul_comm, mul_mul_mul_comm (2 ^ 53), ← pow_two, ← pow_two] at hmul

theorem bound_le_pow {k : Nat} (hk : 309 ≤ k) : bound ≤ 10 ^ k := by
  have hpow := Nat.pow_le_pow_right (n := 10) (by decide) hk
  refine le_trans ?_ hpow
  decide +kernel

theorem kept_lt (h : n.isTooLarge = false) :
    n.kept * ((2 ^ 53 - 1) ^ 2 : Nat) < ((bound * (2 ^ 53) ^ 2 : Nat) : ℚ) := by
  have hsmall := scaled_lt n
  rcases Int.lt_or_le n.scaled.2 0 with hneg | hnonneg
  · have hkept : n.kept ≤ n.scaled.1 := by
      refine mul_le_of_le_one_right (Nat.cast_nonneg _) ?_
      exact zpow_le_one_of_nonpos₀ (by decide) hneg.le
    have hlarge : n.scaled.1 * (2 ^ 53 - 1) ^ 2 < bound * (2 ^ 53) ^ 2 := by
      have hmost : 2 ^ 64 * (2 ^ 53 - 1) ^ 2 ≤ bound * (2 ^ 53) ^ 2 := by decide +kernel
      exact lt_of_lt_of_le (Nat.mul_lt_mul_of_pos_right hsmall (by decide)) hmost
    refine (mul_le_mul_of_nonneg_right hkept (Nat.cast_nonneg _)).trans_lt ?_
    exact_mod_cast hlarge
  · have hlt : n.scaled.1 * 10 ^ n.scaled.2.toNat * (2 ^ 53 - 1) ^ 2 < bound * (2 ^ 53) ^ 2 := by
      rcases Nat.eq_zero_or_pos n.scaled.1 with hzero | hpos
      · have hbound : 0 < bound * (2 ^ 53) ^ 2 := by decide +kernel
        rw [hzero, zero_mul, zero_mul]
        exact hbound
      · have hproduct : nearestDouble n.scaled.1 * nearestDouble (10 ^ n.scaled.2.toNat) < bound := by
          refine Nat.lt_of_not_le fun hle => ?_
          rw [isTooLarge_iff.mpr ⟨hpos, hnonneg, .inr hle⟩] at h
          cases h
        have hlower := (nearestDouble_mul_bounds n.scaled.1 (10 ^ n.scaled.2.toNat)).2
        rw [mul_comm bound, mul_comm _ ((2 ^ 53 - 1) ^ 2)]
        exact hlower.trans_lt (Nat.mul_lt_mul_of_pos_left hproduct (by decide))
    rw [kept_eq hnonneg]
    exact_mod_cast hlt

theorem le_kept (h : n.isTooLarge = true) :
    ((bound * (2 ^ 53) ^ 2 : Nat) : ℚ) ≤ n.kept * ((2 ^ 53 + 1) ^ 2 : Nat) := by
  obtain ⟨hpos, hnonneg, hlarge⟩ := isTooLarge_iff.mp h
  have hgoal : bound * (2 ^ 53) ^ 2 ≤
      n.scaled.1 * 10 ^ n.scaled.2.toNat * (2 ^ 53 + 1) ^ 2 := by
    rcases hlarge with hpower | hproduct
    · have hvalue : bound ≤ n.scaled.1 * 10 ^ n.scaled.2.toNat :=
        (bound_le_pow (by omega)).trans (Nat.le_mul_of_pos_left _ hpos)
      exact Nat.mul_le_mul hvalue (by decide)
    · have hupper := (nearestDouble_mul_bounds n.scaled.1 (10 ^ n.scaled.2.toNat)).1
      rw [mul_comm bound, mul_comm _ ((2 ^ 53 + 1) ^ 2)]
      exact (Nat.mul_le_mul_left _ hproduct).trans hupper
  rw [kept_eq hnonneg]
  exact_mod_cast hgoal

end product

end Numeral

namespace Literal

open Numeral (place kept Near)

theorem near_kept (l : Literal) : Near l.numeral.magnitude l.numeral.kept := by
  have hfraction : ∀ c ∈ l.numeral.fraction.getD [], c.isDigit = true := by
    rw [numeral]
    cases l.fraction with
    | none => exact List.forall_mem_nil _
    | some d => exact d.digits
  have hmantissa : l.numeral.mantissa =
      place (place 0 l.whole.text) (l.numeral.fraction.getD []) := by
    have hdigits : ∀ c ∈ l.whole.text ++ l.numeral.fraction.getD [], c.isDigit = true :=
      List.forall_mem_append.mpr ⟨l.whole.digits, hfraction⟩
    show (Text.numeral? 10 (l.whole.text ++ _)).getD 0 = _
    rw [Numeral.numeral?_eq_place hdigits, Option.getD_some, Numeral.place_append]
  rw [Numeral.magnitude, hmantissa]
  exact Numeral.near_gather l.whole.digits hfraction _

/-- From a little above 2^1024 on, a literal is refused. -/
theorem isTooLarge_of_le {l : Literal}
    (h : ((2 ^ 1024 + 2 ^ 973 : Nat) : ℚ) ≤ l.numeral.magnitude) : l.numeral.isTooLarge = true := by
  by_contra hsmall
  have hkept := Numeral.kept_lt (eq_false_of_ne_true hsmall)
  have hroom : Numeral.bound * (2 ^ 53) ^ 2 * (10 ^ 18 + 1) ≤
      (2 ^ 1024 + 2 ^ 973) * 10 ^ 18 * (2 ^ 53 - 1) ^ 2 := by decide +kernel
  exact absurd hroom (not_le_of_gt (Numeral.lt_of_near h l.near_kept.1 hkept))

/-- A literal up to a little below 2^1024 is kept. -/
theorem isTooLarge_eq_false {l : Literal}
    (h : l.numeral.magnitude ≤ ((2 ^ 1024 - 2 ^ 973 : Nat) : ℚ)) : l.numeral.isTooLarge = false := by
  by_contra hlarge
  have hkept := Numeral.le_kept (eq_true_of_ne_false hlarge)
  have hroom : (2 ^ 1024 - 2 ^ 973) * (10 ^ 18 + 1) * (2 ^ 53 + 1) ^ 2 <
      Numeral.bound * (2 ^ 53) ^ 2 * 10 ^ 18 := by decide +kernel
  exact absurd hroom (not_lt_of_ge (Numeral.le_of_near h l.near_kept.2 hkept))

theorem IsInteger.magnitude_eq {l : Literal} {n : Int} (h : l.IsInteger n) :
    l.numeral.magnitude = n.natAbs := by
  have hwhole : (Text.numeral? 10 l.whole.text).getD 0 = n.natAbs := h.whole
  simp [Numeral.magnitude, Numeral.mantissa, numeral, h.fraction, h.exponent, hwhole]

/-- A literal stands for a number exactly if it does not overflow. -/
theorem value?_isSome_iff (l : Literal) :
    l.value?.isSome = true ↔ l.numeral.isTooLarge = false := by
  rw [value?]
  cases hinteger : l.numeral.integer? with
  | some n =>
      obtain ⟨hn, hlower, hupper⟩ := (l.integer?_eq_some_iff n).mp hinteger
      refine iff_of_true rfl (isTooLarge_eq_false ?_)
      have hsmall : n.natAbs ≤ 2 ^ 1024 - 2 ^ 973 := by
        have hle : 2 ^ 64 ≤ 2 ^ 1024 - 2 ^ 973 := by decide +kernel
        exact le_trans (by omega) hle
      rw [hn.magnitude_eq]
      exact Nat.cast_le.mpr hsmall
  | none => cases l.numeral.isTooLarge <;> simp

end Literal

end LoginGateway.Json
