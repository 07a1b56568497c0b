import LoginGateway.Text.Number
import Mathlib.Algebra.Group.Nat.Defs
import Mathlib.Data.List.Induction

/-!
Numerals. The digits of a number are read as that number, in every base up to sixteen; only those of
zero begin with a zero. Main statement: `numeral?_digits`.
-/

namespace LoginGateway.Text

theorem digitValue?_digitChar {d : Nat} (h : d < 16) : digitValue? (digitChar d) = some d := by
  revert d
  decide

theorem isAlphanum_iff {c : Char} : c.isAlphanum = true ↔
    ((65 ≤ c.toNat ∧ c.toNat ≤ 90) ∨ (97 ≤ c.toNat ∧ c.toNat ≤ 122)) ∨
      (48 ≤ c.toNat ∧ c.toNat ≤ 57) := by
  change (decide (65 ≤ c.val ∧ c.val ≤ 90) || (decide (97 ≤ c.val) && decide (c.val ≤ 122)) ||
    (decide (48 ≤ c.val) && decide (c.val ≤ 57))) = true ↔ _
  simp only [Bool.or_eq_true, Bool.and_eq_true, decide_eq_true_eq, UInt32.le_iff_toNat_le,
    UInt32.reduceToNat, Char.toNat_val]

theorem isAlphanum_digitChar {d : Nat} (h : d < 16) : (digitChar d).isAlphanum = true := by
  revert d
  decide

theorem isDigit_digitChar {d : Nat} (h : d < 10) : (digitChar d).isDigit = true := by
  revert d
  decide

theorem numeral?_concat (base : Nat) (s : List Char) (c : Char) :
    numeral? base (s ++ [c]) = (numeral? base s).bind fun value => (digitValue? c).bind fun d =>
      if d < base then some (value * base + d) else none := by
  rw [numeral?, List.foldl_append]
  rfl

theorem exists_digit_of_numeral? {base : Nat} {s : List Char} {n : Nat}
    (h : numeral? base s = some n) : ∀ c ∈ s, ∃ d, digitValue? c = some d := by
  induction s using List.reverseRecOn generalizing n with
  | nil => nofun
  | append_singleton s c ih =>
      rw [numeral?_concat] at h
      obtain ⟨value, hvalue, h⟩ := Option.bind_eq_some_iff.mp h
      obtain ⟨d, hd, -⟩ := Option.bind_eq_some_iff.mp h
      rw [List.forall_mem_append]
      exact ⟨ih hvalue, fun e he => List.mem_singleton.mp he ▸ ⟨d, hd⟩⟩

section digits

variable {base : Nat} (h : 1 < base)

theorem digits_of_lt {n : Nat} (hlt : n < base) : digits base h n = [digitChar n] := by
  rw [digits, if_pos hlt]

theorem digits_of_le {n : Nat} (hle : base ≤ n) :
    digits base h n = digits base h (n / base) ++ [digitChar (n % base)] := by
  rw [digits, if_neg (Nat.not_lt_of_le hle)]

theorem digits_ne_nil (n : Nat) : digits base h n ≠ [] := by
  rw [digits]
  split <;> simp

/-- What holds of the digits of the base holds of all characters of a numeral. -/
theorem forall_mem_digits {p : Char → Prop} (hp : ∀ d < base, p (digitChar d)) (n : Nat) :
    ∀ c ∈ digits base h n, p c := by
  induction n using Nat.strongRecOn with
  | ind n ih =>
      rcases Nat.lt_or_ge n base with hlt | hle
      · rw [digits_of_lt h hlt]
        exact fun c hc => List.mem_singleton.mp hc ▸ hp n hlt
      · rw [digits_of_le h hle, List.forall_mem_append]
        exact ⟨ih (n / base) (Nat.div_lt_self (by omega) h), fun c hc =>
          List.mem_singleton.mp hc ▸ hp _ (Nat.mod_lt n (by omega))⟩

theorem isAlphanum_of_mem_digits (hbase : base ≤ 16) (n : Nat) {c : Char}
    (hc : c ∈ digits base h n) : c.isAlphanum = true :=
  forall_mem_digits (p := fun c => c.isAlphanum = true) h
    (fun _ hd => isAlphanum_digitChar (Nat.lt_of_lt_of_le hd hbase)) n c hc

theorem numeral?_digits (hbase : base ≤ 16) (n : Nat) :
    numeral? base (digits base h n) = some n := by
  induction n using Nat.strongRecOn with
  | ind n ih =>
      rcases Nat.lt_or_ge n base with hlt | hle
      · rw [digits_of_lt h hlt, ← List.nil_append [digitChar n], numeral?_concat,
          digitValue?_digitChar (by omega)]
        simp [numeral?, hlt]
      · have hmod := Nat.mod_lt n (show base > 0 by omega)
        rw [digits_of_le h hle, numeral?_concat, ih _ (Nat.div_lt_self (by omega) h),
          digitValue?_digitChar (by omega), Option.bind_some, Option.bind_some, if_pos hmod,
          Nat.div_add_mod']

theorem length_digits_le {k : Nat} (hk : 0 < k) {n : Nat} (hn : n < base ^ k) :
    (digits base h n).length ≤ k := by
  induction k generalizing n with
  | zero => omega
  | succ k ih =>
      rcases Nat.lt_or_ge n base with hlt | hle
      · rw [digits_of_lt h hlt]
        simp
      · have hdiv : n / base < base ^ k := by
          rw [Nat.div_lt_iff_lt_mul (by omega), ← Nat.pow_succ]
          exact hn
        have hpos : 0 < k := by
          rcases Nat.eq_zero_or_pos k with rfl | hpos
          · rw [Nat.zero_add, Nat.pow_one] at hn
            omega
          · exact hpos
        rw [digits_of_le h hle, List.length_append, List.length_singleton]
        exact Nat.succ_le_succ (ih hpos hdiv)

/-- A numeral other than that of zero does not begin with a zero. -/
theorem head?_digits_ne {n : Nat} (hbase : base ≤ 16) (hn : n ≠ 0) :
    (digits base h n).head? ≠ some '0' := by
  induction n using Nat.strongRecOn with
  | ind n ih =>
      rcases Nat.lt_or_ge n base with hlt | hle
      · rw [digits_of_lt h hlt, List.head?_cons, ne_eq, Option.some.injEq]
        intro hzero
        have hvalue := digitValue?_digitChar (show n < 16 by omega)
        rw [hzero] at hvalue
        exact hn (Option.some.inj hvalue).symm
      · have hdiv : n / base ≠ 0 := Nat.ne_of_gt (Nat.div_pos hle (by omega))
        have hfirst := ih _ (Nat.div_lt_self (by omega) h) hdiv
        obtain ⟨c, rest, hdigits⟩ := List.exists_cons_of_ne_nil (digits_ne_nil h (n / base))
        rw [hdigits] at hfirst
        rw [digits_of_le h hle, hdigits]
        exact hfirst

end digits

theorem isDigit_of_mem_decimal {n : Nat} {c : Char} (hc : c ∈ decimal n) : c.isDigit = true :=
  forall_mem_digits (p := fun c => c.isDigit = true) _ (fun _ => isDigit_digitChar) n c hc

theorem digitChar_eq {d : Nat} (h : d < 10) : digitChar d = Nat.digitChar d := by
  revert d
  decide

theorem decimal_eq_toDigits (n : Nat) : decimal n = Nat.toDigits 10 n := by
  rw [decimal]
  induction n using Nat.strongRecOn with
  | ind n ih =>
      rw [Nat.toDigits_eq_if (by decide)]
      rcases Nat.lt_or_ge n 10 with hlt | hle
      · rw [digits_of_lt _ hlt, if_pos hlt, digitChar_eq hlt]
      · rw [digits_of_le _ hle, if_neg (Nat.not_lt_of_le hle),
          ih _ (Nat.div_lt_self (by omega) (by decide)), digitChar_eq (Nat.mod_lt n (by decide))]

theorem numeral?_decimal (n : Nat) : numeral? 10 (decimal n) = some n :=
  numeral?_digits (by decide) (by decide) n

theorem numeral?_hexadecimal (n : Nat) : numeral? 16 (hexadecimal n) = some n :=
  numeral?_digits (by decide) (by decide) n

end LoginGateway.Text
