import LoginGateway.Proofs.Json.WrittenText
import LoginGateway.Proofs.Text.Numerals
import LoginGateway.Proofs.Text.Splitting
import Mathlib.Algebra.Group.Int.Defs

/-!
Numbers and strings as they are spelled in JSON. A spelling carries the proof that it is one; the
reader takes it off the front of a text, and finds in it what it stands for, or nothing if it stands
for nothing. Main statements: `readNumber_write` and `readText_write`.
-/

namespace LoginGateway.Json

/-! ### Numbers -/

structure Digits where
  text : List Char
  nonempty : text ≠ []
  digits : ∀ c ∈ text, c.isDigit = true

def Digits.value (d : Digits) : Nat := (Text.numeral? 10 d.text).getD 0

inductive Sign
  | unsigned
  | plus
  | minus

def Sign.text : Sign → List Char
  | unsigned => []
  | plus => ['+']
  | minus => ['-']

structure Exponent where
  mark : Char
  sign : Sign
  digits : Digits
  isMark : mark = 'e' ∨ mark = 'E'

namespace Exponent

def write (e : Exponent) : List Char := e.mark :: (e.sign.text ++ e.digits.text)

def value (e : Exponent) : Int :=
  match e.sign with
  | .minus => -e.digits.value
  | _ => e.digits.value

end Exponent

/-- A number as it is spelled. Several digits in front of the point do not begin with a zero. -/
structure Literal where
  negative : Bool
  whole : Digits
  fraction : Option Digits
  exponent : Option Exponent
  canonical : whole.text.head? = some '0' → whole.text = ['0']

namespace Literal

def write (l : Literal) : List Char :=
  (if l.negative then ['-'] else []) ++ l.whole.text ++
    ((l.fraction.map fun d => '.' :: d.text).getD [] ++ (l.exponent.map Exponent.write).getD [])

def numeral (l : Literal) : Numeral where
  negative := l.negative
  whole := l.whole.text
  fraction := l.fraction.map Digits.text
  exponent := l.exponent.map Exponent.value

/-- The number as the reader keeps it; one that is too large for a double is none. -/
def value? (l : Literal) : Option Json :=
  match l.numeral.integer? with
  | some n => some (.integer n)
  | none => if l.numeral.isTooLarge then none else some (.decimal l.write)

/-- The literal of an integer: no fraction, no exponent, and no sign before zero. -/
structure IsInteger (l : Literal) (n : Int) : Prop where
  fraction : l.fraction = none
  exponent : l.exponent = none
  whole : l.whole.value = n.natAbs
  negative : l.negative = decide (n < 0)

end Literal

/-- The text does not go on with anything that belongs to a number. -/
def EndsNumber (rest : List Char) : Prop :=
  ∀ c ∈ rest.head?, c.isDigit = false ∧ c ≠ '.' ∧ c ≠ 'e' ∧ c ≠ 'E'

section numbers

variable {rest : List Char}

theorem span_digits (d : Digits) (hrest : ∀ c ∈ rest.head?, c.isDigit = false) :
    (d.text ++ rest).takeWhile Char.isDigit = d.text ∧
      (d.text ++ rest).dropWhile Char.isDigit = rest :=
  Text.span_append d.digits hrest

theorem Digits.isEmpty_text (d : Digits) : d.text.isEmpty = false := by
  simpa using d.nonempty

theorem Digits.exists_cons (d : Digits) : ∃ c tail, d.text = c :: tail ∧ c.isDigit = true := by
  obtain ⟨c, tail, htext⟩ := List.exists_cons_of_ne_nil d.nonempty
  exact ⟨c, tail, htext, d.digits c (htext ▸ List.mem_cons_self)⟩

theorem readSign_text (sign : Sign) (d : Digits) (rest : List Char) :
    readSign (sign.text ++ (d.text ++ rest)) =
      (match sign with | .minus => true | _ => false, d.text ++ rest) := by
  cases sign with
  | plus => rfl
  | minus => rfl
  | unsigned =>
      obtain ⟨c, tail, htext, hc⟩ := d.exists_cons
      rw [Sign.text, List.nil_append, htext, List.cons_append, readSign]
      · rintro _ ⟨⟩
        exact absurd hc (by decide)
      · rintro _ ⟨⟩
        exact absurd hc (by decide)

theorem readExponent_write (e : Option Exponent) (hrest : EndsNumber rest) :
    readExponent ((e.map Exponent.write).getD [] ++ rest) = some (e.map Exponent.value, rest) := by
  cases e with
  | none =>
      cases rest with
      | nil => rfl
      | cons c rest =>
          obtain ⟨-, -, he, hE⟩ := hrest c rfl
          simp [readExponent, he, hE]
  | some e =>
      obtain ⟨htake, hdrop⟩ := span_digits e.digits fun c hc => (hrest c hc).1
      have hmark : (e.mark == 'e' || e.mark == 'E') = true := by simpa using e.isMark
      simp only [Option.map_some, Option.getD_some, Exponent.write, List.cons_append,
        List.append_assoc, readExponent, hmark, if_true, readSign_text, htake, hdrop,
        e.digits.isEmpty_text, Exponent.value, Digits.value]
      cases e.sign <;> rfl

theorem readFraction_write (f : Option Digits)
    (hrest : ∀ c ∈ rest.head?, c.isDigit = false ∧ c ≠ '.') :
    readFraction ((f.map fun d => '.' :: d.text).getD [] ++ rest) =
      some (f.map Digits.text, rest) := by
  cases f with
  | none =>
      rw [Option.map_none, Option.getD_none, List.nil_append, readFraction]
      · rfl
      · rintro tail rfl
        exact (hrest '.' rfl).2 rfl
  | some d =>
      obtain ⟨htake, hdrop⟩ := span_digits d fun c hc => (hrest c hc).1
      simp [readFraction, htake, hdrop, d.nonempty]

/-- Behind the digits in front of the point, no digit stands. -/
theorem head?_exponent (e : Option Exponent) (hrest : EndsNumber rest) :
    ∀ c ∈ ((e.map Exponent.write).getD [] ++ rest).head?, c.isDigit = false ∧ c ≠ '.' := by
  cases e with
  | none => exact fun c hc => ⟨(hrest c hc).1, (hrest c hc).2.1⟩
  | some e =>
      rintro c ⟨⟩
      rcases e.isMark with h | h <;> rw [h] <;> decide

theorem head?_fraction (l : Literal) (hrest : EndsNumber rest) :
    ∀ c ∈ ((l.fraction.map fun d => '.' :: d.text).getD [] ++
      ((l.exponent.map Exponent.write).getD [] ++ rest)).head?, c.isDigit = false := by
  cases l.fraction with
  | none => exact fun c hc => (head?_exponent l.exponent hrest c hc).1
  | some d =>
      rintro c ⟨⟩
      decide

theorem head?_sign (l : Literal) (more : List Char) :
    (((if l.negative then ['-'] else []) ++ (l.whole.text ++ more)).head? == some '-') =
      l.negative := by
  cases l.negative with
  | true => rfl
  | false =>
      obtain ⟨c, tail, htext, hc⟩ := l.whole.exists_cons
      have hminus : c ≠ '-' := by
        rintro rfl
        exact absurd hc (by decide)
      simpa [htext] using hminus

theorem readNumeral_write (l : Literal) (hrest : EndsNumber rest) :
    readNumeral (l.write ++ rest) = some (l.numeral, rest) := by
  obtain ⟨htake, hdrop⟩ := span_digits l.whole (head?_fraction l hrest)
  have hunsigned (more : List Char) :
      (if l.negative then ((if l.negative then ['-'] else []) ++ (l.whole.text ++ more)).tail
        else (if l.negative then ['-'] else []) ++ (l.whole.text ++ more)) =
      l.whole.text ++ more := by
    cases l.negative <;> rfl
  have hzero : (l.whole.text.head? == some '0' && decide (1 < l.whole.text.length)) = false := by
    by_cases h : l.whole.text.head? = some '0'
    · simp [l.canonical h]
    · simp [h]
  rw [Literal.write, readNumeral]
  simp only [List.append_assoc, head?_sign, hunsigned, htake, hdrop, l.whole.isEmpty_text, hzero,
    Bool.or_self, Bool.false_eq_true, if_false, Option.bind_eq_bind, Option.bind_some,
    readFraction_write l.fraction (head?_exponent l.exponent hrest),
    readExponent_write l.exponent hrest]
  rfl

/-- A number is taken off the front of the text; nothing is left to decide but its size. -/
theorem readNumber_write (l : Literal) (hrest : EndsNumber rest) :
    readNumber (l.write ++ rest) = l.value?.map fun j => (j, rest) := by
  rw [readNumber, readNumeral_write l hrest, Literal.value?]
  simp only [Option.bind_eq_bind, Option.bind_some]
  cases l.numeral.integer? with
  | some n => rfl
  | none =>
      cases l.numeral.isTooLarge with
      | true => rfl
      | false => simp

end numbers

namespace Literal

theorem value?_eq_some_iff (l : Literal) (j : Json) : l.value? = some j ↔
    (∃ n, l.numeral.integer? = some n ∧ j = .integer n) ∨
      l.numeral.integer? = none ∧ l.numeral.isTooLarge = false ∧ j = .decimal l.write := by
  rw [value?]
  cases l.numeral.integer? with
  | some n =>
      simp only [Option.some.injEq, reduceCtorEq, false_and, or_false, exists_eq_left']
      exact eq_comm
  | none =>
      cases l.numeral.isTooLarge with
      | true => simp
      | false =>
          simp only [Bool.false_eq_true, if_false, Option.some.injEq, reduceCtorEq, false_and,
            exists_false, true_and, false_or]
          exact eq_comm

/-- A literal is kept as an integer exactly if it is one of the range. -/
theorem integer?_eq_some_iff (l : Literal) (n : Int) :
    l.numeral.integer? = some n ↔ l.IsInteger n ∧ -2 ^ 63 ≤ n ∧ n < 2 ^ 64 := by
  have hvalue : (Text.numeral? 10 l.numeral.whole).getD 0 = l.whole.value := rfl
  have hsmall : Nat.pow 2 63 = 9223372036854775808 := by decide
  have hlarge : Nat.pow 2 64 = 18446744073709551616 := by decide
  rw [Numeral.integer?, hvalue, hsmall, hlarge]
  by_cases hwritten : l.fraction = none ∧ l.exponent = none
  · obtain ⟨hfraction, hexponent⟩ := hwritten
    have hinteger : l.IsInteger n ↔ l.whole.value = n.natAbs ∧ l.negative = decide (n < 0) :=
      ⟨fun h => ⟨h.whole, h.negative⟩, fun h => ⟨hfraction, hexponent, h.1, h.2⟩⟩
    rw [if_neg (by simp [numeral, hfraction, hexponent]), hinteger,
      show l.numeral.negative = l.negative from rfl]
    cases l.negative with
    | true =>
        have hsign : true = decide (n < 0) ↔ n < 0 := by simp
        simp only [if_true, Option.ite_none_right_eq_some, Option.some.injEq, hsign]
        omega
    | false =>
        have hsign : false = decide (n < 0) ↔ 0 ≤ n := by simp
        simp only [Bool.false_eq_true, if_false, Option.ite_none_right_eq_some, Option.some.injEq,
          hsign]
        omega
  · have hparts : (l.numeral.fraction.isSome || l.numeral.exponent.isSome) = true := by
      cases hfraction : l.fraction <;> cases hexponent : l.exponent <;>
        simp_all [numeral]
    rw [if_pos hparts]
    exact iff_of_false (by simp) fun h => hwritten ⟨h.1.fraction, h.1.exponent⟩

/-- The literal of an integer. -/
def ofInt (n : Int) : Literal where
  negative := decide (n < 0)
  whole := ⟨Text.decimal n.natAbs, Text.digits_ne_nil _ _, fun _ => Text.isDigit_of_mem_decimal⟩
  fraction := none
  exponent := none
  canonical := by
    intro hzero
    by_cases hn : n.natAbs = 0
    · show Text.decimal n.natAbs = ['0']
      rw [hn]
      exact Text.digits_of_lt _ (by decide)
    · exact absurd hzero (Text.head?_digits_ne _ (by decide) hn)

theorem isInteger_ofInt (n : Int) : (ofInt n).IsInteger n where
  fraction := rfl
  exponent := rfl
  whole := by simp [ofInt, Digits.value, Text.numeral?_decimal]
  negative := rfl

end Literal

/-! ### Strings -/

/-- A piece of a string as it is spelled: a character that stands for itself, one behind a backslash,
or the four digits of a code unit. -/
inductive Piece
  | plain (c : Char) (h : c ≠ '"' ∧ c ≠ '\\' ∧ 0x20 ≤ c.toNat)
  | letter (c : Char) (stands : Char) (h : simpleEscape? c = some stands)
  | unit (a b c d : Char) (value : Nat) (h : hexQuad? a b c d = some value)

namespace Piece

def write : Piece → List Char
  | plain c _ => [c]
  | letter c _ _ => ['\\', c]
  | unit a b c d _ _ => ['\\', 'u', a, b, c, d]

/-- The text that the pieces stand for. A code unit of a surrogate pair needs the other one next to
it. -/
def text? : List Piece → Option (List Char)
  | [] => some []
  | plain c _ :: rest => (text? rest).map (c :: ·)
  | letter _ stands _ :: rest => (text? rest).map (stands :: ·)
  | unit _ _ _ _ lead _ :: unit a b c d trail h :: rest =>
    if isLead lead then (paired? lead trail).bind fun x => (text? rest).map (x :: ·)
    else (unpaired? lead).bind fun x => (text? (unit a b c d trail h :: rest)).map (x :: ·)
  | unit _ _ _ _ value _ :: rest => (unpaired? value).bind fun x => (text? rest).map (x :: ·)

end Piece

/-- A string without escapes. -/
def letters (s : List Char) (h : s.all fun c => c ≠ '"' ∧ c ≠ '\\' ∧ 0x20 ≤ c.toNat) : List Piece :=
  s.pmap (fun c hc => .plain c (of_decide_eq_true hc)) (List.all_eq_true.mp h)

def quoted (pieces : List Piece) : List Char := '"' :: (pieces.flatMap Piece.write ++ ['"'])

theorem readText_pair {a b c d e f g h : Char} {lead trail : Nat} (hquad : hexQuad? a b c d = some lead)
    (hquad' : hexQuad? e f g h = some trail) (hlead : isLead lead = true) (rest : List Char) :
    readText ('\\' :: 'u' :: a :: b :: c :: d :: '\\' :: 'u' :: e :: f :: g :: h :: rest) =
      (paired? lead trail).bind fun x => (readText rest).map fun p => (x :: p.1, p.2) := by
  rw [readText, hquad]
  simp only [hlead, if_true, hquad', Option.bind_some]
  exact Option.bind_congr fun x _ => Option.map_eq_bind.symm

/-- What does not begin with a code unit does not look like it. -/
theorem not_unit_of_pieces {pieces : List Piece}
    (hpieces : ∀ a b c d n h rest, pieces ≠ .unit a b c d n h :: rest) (rest : List Char)
    (a b c d : Char) (more : List Char) :
    pieces.flatMap Piece.write ++ '"' :: rest ≠ '\\' :: 'u' :: a :: b :: c :: d :: more := by
  cases pieces with
  | nil => simp
  | cons p pieces =>
      cases p with
      | plain c h => simp [Piece.write, h.2.1]
      | letter c stands h =>
          have hletter : c ≠ 'u' := by
            rintro rfl
            exact absurd h (by simp [simpleEscape?])
          simp [Piece.write, hletter]
      | unit => exact absurd rfl (hpieces _ _ _ _ _ _ _)

theorem map_cons_front (x : Option Char) (text : Option (List Char)) (rest : List Char) :
    (x.bind fun x => (text.map fun text => (text, rest)).map fun p => (x :: p.1, p.2)) =
      (x.bind fun x => text.map (x :: ·)).map fun text => (text, rest) := by
  cases x <;> cases text <;> rfl

/-- A string is taken off the front of the text. -/
theorem readText_write (pieces : List Piece) (rest : List Char) :
    readText (pieces.flatMap Piece.write ++ '"' :: rest) =
      (Piece.text? pieces).map fun text => (text, rest) := by
  fun_induction Piece.text? pieces with
  | case1 => rfl
  | case2 c h pieces ih =>
      rw [List.flatMap_cons, List.append_assoc, Piece.write, List.singleton_append,
        readText_plain h.1 h.2.1 (by omega), ih]
      exact map_cons_front (some c) _ rest
  | case3 c stands h pieces ih =>
      have hletter : c ≠ 'u' := by
        rintro rfl
        exact absurd h (by simp [simpleEscape?])
      rw [List.flatMap_cons, List.append_assoc, Piece.write, List.cons_append,
        List.singleton_append, readText_simpleEscape hletter h, ih]
      exact map_cons_front (some stands) _ rest
  | case4 a b c d lead h e f g i trail h' pieces hlead ih =>
      rw [List.flatMap_cons, List.flatMap_cons]
      simp only [Piece.write, List.cons_append, List.nil_append, if_pos hlead]
      rw [readText_pair h h' hlead, ih, map_cons_front]
  | case5 a b c d lead h e f g i trail h' pieces hlead ih =>
      rw [List.flatMap_cons]
      simp only [Piece.write, List.cons_append, List.nil_append, if_neg hlead] at ih ⊢
      rw [readText_unit h (.inl (by simpa using hlead)), ih, map_cons_front]
  | case6 a b c d n h pieces hpieces ih =>
      have halone := not_unit_of_pieces (fun a b c d n h more => hpieces a b c d n h more) rest
      rw [List.flatMap_cons]
      simp only [Piece.write, List.cons_append, List.nil_append]
      rw [readText_unit h (.inr halone), ih, map_cons_front]

end LoginGateway.Json
