import LoginGateway.Text.CodeTable

/-!
Tables whose stretches are single code points in ascending order. Such a table has one entry for each
of its code points, and whether a code point is among them is a bit of one number.
-/

namespace LoginGateway.CodeTable

theorem read_ofList (s : List Char) : read (String.ofList s) = readChars s := by
  rw [read, String.toList_ofList]

theorem mem_of_lookup {t : CodeTable} {code : Nat} {s : Stretch} (h : lookup t code = some s) :
    s ∈ t ∧ s.first ≤ code ∧ code ≤ s.last := by
  have hcovers := List.find?_some h
  rw [Bool.and_eq_true, decide_eq_true_eq, decide_eq_true_eq] at hcovers
  exact ⟨List.mem_of_find?_eq_some h, hcovers⟩

theorem lookup_eq_none_of_forall {t : CodeTable} {code : Nat}
    (h : ∀ s ∈ t, code < s.first ∨ s.last < code) : lookup t code = none := by
  rw [lookup, List.find?_eq_none]
  intro s hs
  have hs := h s hs
  rw [Bool.and_eq_true, decide_eq_true_eq, decide_eq_true_eq]
  omega

/-- The stretches are single code points, ascending from above `n`. -/
def ascends (n : Nat) : CodeTable → Bool
  | [] => true
  | s :: t => decide (n < s.first) && s.first == s.last && ascends s.first t

section ascends

variable {t : CodeTable} {n : Nat}

theorem ascends_cons {s : Stretch} (h : ascends n (s :: t) = true) :
    n < s.first ∧ s.first = s.last ∧ ascends s.first t = true := by
  simpa [ascends, and_assoc] using h

theorem lt_of_ascends (h : ascends n t = true) {s : Stretch} (hs : s ∈ t) :
    n < s.first ∧ s.first = s.last := by
  induction t generalizing n with
  | nil => cases hs
  | cons r t ih =>
      obtain ⟨hlt, hsingle, htail⟩ := ascends_cons h
      rcases List.mem_cons.mp hs with rfl | hs
      · exact ⟨hlt, hsingle⟩
      · exact ⟨Nat.lt_trans hlt (ih htail hs).1, (ih htail hs).2⟩

theorem lookup_of_mem (h : ascends n t = true) {s : Stretch} (hs : s ∈ t) :
    lookup t s.first = some s := by
  induction t generalizing n with
  | nil => cases hs
  | cons r t ih =>
      obtain ⟨-, hsingle, htail⟩ := ascends_cons h
      rw [lookup, List.find?_cons]
      rcases List.mem_cons.mp hs with rfl | hs
      · simp [← hsingle]
      · have hlt := (lt_of_ascends htail hs).1
        have hfirst : (decide (r.first ≤ s.first) && decide (s.first ≤ r.last)) = false := by
          rw [Bool.and_eq_false_iff, decide_eq_false_iff_not, decide_eq_false_iff_not]
          omega
        rw [hfirst]
        exact ih htail hs

end ascends

/-- The number whose bits are the code points at which stretches begin. -/
def bits : CodeTable → Nat
  | [] => 0
  | s :: t => bits t ||| 1 <<< s.first

theorem testBit_bits (t : CodeTable) (code : Nat) :
    (bits t).testBit code = true ↔ ∃ s ∈ t, s.first = code := by
  induction t with
  | nil => simp [bits]
  | cons s t ih =>
      rw [bits, Nat.testBit_or, Bool.or_eq_true, ih, Nat.one_shiftLeft, Nat.testBit_two_pow]
      simp [or_comm]

theorem lookup_eq_none_of_testBit {t : CodeTable} {n code : Nat} (h : ascends n t = true)
    (hcode : (bits t).testBit code = false) : lookup t code = none := by
  refine lookup_eq_none_of_forall fun s hs => ?_
  have hsingle := (lt_of_ascends h hs).2
  have hne : s.first ≠ code := by
    intro heq
    rw [(testBit_bits t code).mpr ⟨s, hs, heq⟩] at hcode
    cases hcode
  omega

end LoginGateway.CodeTable
