import LoginGateway.Proofs.Text.Splitting
import LoginGateway.Proofs.Url.Idna.Decompositions
import Mathlib.Data.List.Chain

/-!
Canonical composition. What was composed is its own composition, and a dot parts what is composed
from what is composed behind it; so the labels of a canonical name are canonical. Main statement:
`compose_of_mem_splitOn`.
-/

namespace LoginGateway.Idna

/-- A character with its combining class. -/
abbrev Mark := Char × Nat

def mark (c : Char) : Mark := (c, combiningClass c)

@[simp] theorem mark_fst (c : Char) : (mark c).1 = c := rfl

@[simp] theorem mark_snd (c : Char) : (mark c).2 = combiningClass c := by rw [mark]

/-! ### Canonical order -/

/-- Inserts each character behind the marks that it does not have to pass. -/
def insertMarks (acc : List Mark) (s : List Char) : List Mark :=
  s.foldl (fun acc c => insertMark c (combiningClass c) acc) acc

theorem ordered_eq (s : List Char) : ordered s = insertMarks [] s := rfl

theorem insertMarks_cons (acc : List Mark) (c : Char) (s : List Char) :
    insertMarks acc (c :: s) = insertMarks (insertMark c (combiningClass c) acc) s := rfl

theorem insertMarks_append (acc : List Mark) (s t : List Char) :
    insertMarks acc (s ++ t) = insertMarks (insertMarks acc s) t := List.foldl_append

theorem mem_insertMark {c : Char} {k : Nat} {acc : List Mark} {m : Mark} :
    m ∈ insertMark c k acc ↔ m = (c, k) ∨ m ∈ acc := by
  induction acc with
  | nil => simp [insertMark]
  | cons e acc ih =>
      rw [insertMark]
      split
      · rw [List.mem_cons, ih, List.mem_cons, or_left_comm]
      · rw [List.mem_cons]

theorem mem_insertMarks {acc : List Mark} {s : List Char} {m : Mark} :
    m ∈ insertMarks acc s ↔ (∃ c ∈ s, m = mark c) ∨ m ∈ acc := by
  induction s generalizing acc with
  | nil => simp [insertMarks]
  | cons c s ih =>
      rw [insertMarks_cons, ih, mem_insertMark]
      simp [mark, or_assoc, or_left_comm]

/-- What is no mark stays where it is. -/
theorem insertMark_zero (c : Char) (acc : List Mark) : insertMark c 0 acc = (c, 0) :: acc := by
  cases acc with
  | nil => rfl
  | cons e acc => exact if_neg (by simp)

/-- The later mark, which stands first, does not have to pass the earlier one. -/
def Behind (later earlier : Mark) : Prop := ¬(later.2 < earlier.2 ∧ later.2 ≠ 0)

theorem insertMark_of_isChain {c : Char} {k : Nat} {acc : List Mark}
    (h : ((c, k) :: acc).IsChain Behind) : insertMark c k acc = (c, k) :: acc := by
  cases acc with
  | nil => rfl
  | cons e acc =>
      rw [insertMark, if_neg]
      exact (List.isChain_cons_cons.mp h).1

theorem isChain_insertMark {acc : List Mark} (h : acc.IsChain Behind) (c : Char) (k : Nat) :
    (insertMark c k acc).IsChain Behind := by
  induction acc with
  | nil => exact .singleton _
  | cons e acc ih =>
      by_cases hpass : k < e.2 ∧ k ≠ 0
      · have hback : Behind e (c, k) := fun hlt => by simp only at hlt; omega
        rw [insertMark, if_pos hpass]
        cases acc with
        | nil => exact List.isChain_cons_cons.mpr ⟨hback, .singleton _⟩
        | cons d acc =>
            have hrest := ih (List.isChain_cons_cons.mp h).2
            by_cases hnext : k < d.2 ∧ k ≠ 0
            · rw [insertMark, if_pos hnext] at hrest ⊢
              exact List.isChain_cons_cons.mpr ⟨(List.isChain_cons_cons.mp h).1, hrest⟩
            · rw [insertMark, if_neg hnext] at hrest ⊢
              exact List.isChain_cons_cons.mpr ⟨hback, hrest⟩
      · rw [insertMark, if_neg hpass]
        exact List.isChain_cons_cons.mpr ⟨hpass, h⟩

theorem isChain_insertMarks {acc : List Mark} (h : acc.IsChain Behind) (s : List Char) :
    (insertMarks acc s).IsChain Behind := by
  induction s generalizing acc with
  | nil => exact h
  | cons c s ih => exact ih (isChain_insertMark h c _)

theorem insertMark_comm_of_lt {j k : Nat} (hlt : j < k) (hj : j ≠ 0) (c d : Char)
    (acc : List Mark) :
    insertMark d j (insertMark c k acc) = insertMark c k (insertMark d j acc) := by
  have hk : k ≠ 0 := by omega
  have hnot : ¬(k < j ∧ k ≠ 0) := by omega
  induction acc with
  | nil => simp only [insertMark, if_pos (And.intro hlt hj), if_neg hnot]
  | cons e acc ih =>
      by_cases hki : k < e.2
      · simp only [insertMark, if_pos (And.intro hki hk),
          if_pos (And.intro (Nat.lt_trans hlt hki) hj), ih]
      · have hstay : ¬(k < e.2 ∧ k ≠ 0) := fun h => hki h.1
        by_cases hji : j < e.2 ∧ j ≠ 0
        · simp only [insertMark, if_neg hstay, if_pos (And.intro hlt hj), if_pos hji]
        · simp only [insertMark, if_neg hstay, if_pos (And.intro hlt hj), if_neg hji, if_neg hnot]

/-- Marks of different classes other than zero do not see each other. -/
theorem insertMark_comm {j k : Nat} (hne : j ≠ k) (hj : j ≠ 0) (hk : k ≠ 0) (c d : Char)
    (acc : List Mark) :
    insertMark d j (insertMark c k acc) = insertMark c k (insertMark d j acc) := by
  rcases Nat.lt_or_gt_of_ne hne with hlt | hlt
  · exact insertMark_comm_of_lt hlt hj c d acc
  · exact (insertMark_comm_of_lt hlt hk d c acc).symm

theorem insertMarks_insertMark {c : Char} {k : Nat} (hk : k ≠ 0) {s : List Char}
    (h : ∀ m ∈ s, combiningClass m ≠ 0 ∧ combiningClass m ≠ k) (acc : List Mark) :
    insertMarks (insertMark c k acc) s = insertMark c k (insertMarks acc s) := by
  induction s generalizing acc with
  | nil => rfl
  | cons m s ih =>
      have hm := h m List.mem_cons_self
      rw [insertMarks_cons, insertMarks_cons, insertMark_comm hm.2 hm.1 hk,
        ih fun n hn => h n (List.mem_cons_of_mem m hn)]

/-! ### Composing -/

namespace Composing

/-- What the characters that were read so far have come to. -/
def text (p : Composing) : List Char := p.done ++ p.starter.toList ++ p.marks

def start : Composing := ⟨[], none, [], 0⟩

def run (p : Composing) (ms : List Mark) : Composing := ms.foldl (fun p m => p.step m.1 m.2) p

/-- The decomposition of the text, put in order, is what was read; its marks are those behind the
starter that did not join it, and do not go down in class. -/
structure Holds (p : Composing) (read : List Mark) : Prop where
  order : insertMarks [] (p.text.flatMap (decompose 4)) = read
  final : ∀ m ∈ p.marks, Final m
  classes : ∀ m ∈ p.marks, combiningClass m ≠ 0 ∧ combiningClass m ≤ p.lastClass
  last : p.marks ≠ [] → ∃ m, read.head? = some m ∧ p.lastClass ≤ m.2

theorem holds_start : Holds start [] where
  order := rfl
  final := by simp [start]
  classes := by simp [start]
  last := by simp [start]

/-- What the starter becomes if the character joins it. -/
def joined? (p : Composing) (c : Char) (k : Nat) : Option Char :=
  p.starter.bind fun a =>
    if p.marks.isEmpty ∨ (p.lastClass < k ∧ p.lastClass ≠ 0) then composePair? a c else none

/-- A character that joins nothing is the next starter or a mark. -/
def add (p : Composing) (c : Char) (k : Nat) : Composing :=
  if k = 0 then { done := p.text, starter := some c, marks := [], lastClass := 0 }
  else { p with marks := p.marks ++ [c], lastClass := k }

theorem step_eq (p : Composing) (c : Char) (k : Nat) :
    p.step c k = (p.joined? c k).elim (p.add c k) fun d => { p with starter := some d } := by
  obtain ⟨done, starter, marks, lastClass⟩ := p
  cases starter with
  | none => rfl
  | some a =>
      rw [step, joined?, Option.bind_some]
      simp only
      split
      · next hjoined => rw [hjoined, Option.elim_some]
      · next hjoined =>
          rw [hjoined, Option.elim_none]
          rfl

theorem text_add (p : Composing) (c : Char) (k : Nat) : (p.add c k).text = p.text ++ [c] := by
  rw [add]
  split <;> simp [text]

theorem decompose_flatMap_final {s : List Char} (h : ∀ c ∈ s, Final c) :
    s.flatMap (decompose 4) = s := by
  induction s with
  | nil => rfl
  | cons c s ih =>
      rw [List.flatMap_cons, decompose_of_final (h c List.mem_cons_self),
        ih fun d hd => h d (List.mem_cons_of_mem c hd)]
      rfl

section step

variable {p : Composing} {read : List Mark} {c : Char} (h : Holds p read) (hc : Final c)
  (hread : (mark c :: read).IsChain Behind)

include h hc hread

theorem Holds.append {q : Composing} (htext : q.text = p.text ++ [c]) :
    insertMarks [] (q.text.flatMap (decompose 4)) = mark c :: read := by
  have hinsert : insertMarks read [c] = insertMark c (combiningClass c) read := rfl
  rw [htext, List.flatMap_append, insertMarks_append, h.order, List.flatMap_singleton,
    decompose_of_final hc, hinsert]
  exact insertMark_of_isChain hread

theorem Holds.compose {a d : Char} (hstarter : p.starter = some a)
    (hpair : composePair? a c = some d)
    (hnear : p.marks = [] ∨ p.lastClass < combiningClass c ∧ p.lastClass ≠ 0) :
    insertMarks [] (({ p with starter := some d } : Composing).text.flatMap (decompose 4)) =
      mark c :: read := by
  have hmarks := decompose_flatMap_final h.final
  have hbefore : p.text.flatMap (decompose 4) =
      (p.done.flatMap (decompose 4) ++ decompose 4 a) ++ p.marks := by
    simp [text, hstarter, hmarks]
  have hafter : ({ p with starter := some d } : Composing).text.flatMap (decompose 4) =
      (p.done.flatMap (decompose 4) ++ decompose 4 a) ++ c :: p.marks := by
    simp [text, hmarks, decompose_composePair hpair hc]
  have horder := h.order
  have hinsert (acc : List Mark) : insertMarks acc (c :: p.marks) =
      insertMarks (insertMark c (combiningClass c) acc) p.marks := rfl
  rw [hbefore, insertMarks_append] at horder
  rw [hafter, insertMarks_append, hinsert]
  refine Eq.trans ?_ (insertMark_of_isChain hread)
  rcases hnear with hnil | ⟨hlt, -⟩
  · rw [hnil] at horder ⊢
    rw [← horder]
    rfl
  · rw [← horder]
    refine insertMarks_insertMark (by omega) (fun m hm => ?_) _
    have hclass := h.classes m hm
    exact ⟨hclass.1, by omega⟩

theorem Holds.add : Holds (p.add c (combiningClass c)) (mark c :: read) := by
  have horder := h.append hc hread (p.text_add c (combiningClass c))
  by_cases hk : combiningClass c = 0
  · rw [Composing.add, if_pos hk] at horder ⊢
    exact ⟨horder, by simp, by simp, by simp⟩
  · rw [Composing.add, if_neg hk] at horder ⊢
    refine ⟨horder, ?_, ?_, fun _ => ⟨mark c, rfl, ?_⟩⟩
    · intro m hm
      rcases List.mem_append.mp hm with hm | hm
      · exact h.final m hm
      · exact List.mem_singleton.mp hm ▸ hc
    · intro m hm
      rcases List.mem_append.mp hm with hm | hm
      · -- The marks before it are not above the last one, and that is not above this one.
        obtain ⟨e, he, hle⟩ := h.last (List.ne_nil_of_mem hm)
        have hclass := h.classes m hm
        have hbehind : Behind (mark c) e := by
          cases read with
          | nil => cases he
          | cons e' read =>
              obtain rfl : e' = e := by simpa using he
              exact (List.isChain_cons_cons.mp hread).1
        rw [Behind, mark_snd] at hbehind
        refine ⟨hclass.1, ?_⟩
        simp only
        omega
      · rw [List.mem_singleton.mp hm]
        refine ⟨hk, ?_⟩
        simp only [le_refl]
    · rw [mark_snd]

/-- A step keeps what holds, if its character cannot be decomposed and is in order. -/
theorem Holds.step : Holds (p.step c (combiningClass c)) (mark c :: read) := by
  rw [step_eq]
  cases hjoined : p.joined? c (combiningClass c) with
  | none =>
      rw [Option.elim_none]
      exact h.add hc hread
  | some d =>
      obtain ⟨a, hstarter, hpair⟩ := Option.bind_eq_some_iff.mp hjoined
      rw [Option.elim_some]
      split at hpair
      · next hnear =>
          have hnear := hnear.imp_left List.isEmpty_iff.mp
          refine ⟨h.compose hc hread hstarter hpair hnear, h.final, h.classes, ?_⟩
          intro hne
          rcases hnear with hnil | ⟨hlt, -⟩
          · exact absurd hnil hne
          · refine ⟨mark c, rfl, ?_⟩
            rw [mark_snd]
            exact Nat.le_of_lt hlt
      · cases hpair

end step

theorem Holds.run {p : Composing} {read : List Mark} (h : Holds p read) {s : List Char}
    (hfinal : ∀ c ∈ s, Final c) (hchain : ((s.map mark).reverse ++ read).IsChain Behind) :
    Holds (p.run (s.map mark)) ((s.map mark).reverse ++ read) := by
  induction s generalizing p read with
  | nil => exact h
  | cons c s ih =>
      have hread : ((c :: s).map mark).reverse ++ read =
          (s.map mark).reverse ++ mark c :: read := by simp
      have hrun : p.run ((c :: s).map mark) = (p.step c (combiningClass c)).run (s.map mark) := by
        rw [List.map_cons, Composing.run, List.foldl_cons, mark_fst, mark_snd, ← Composing.run]
      rw [hread] at hchain ⊢
      rw [hrun]
      refine ih (h.step (hfinal c List.mem_cons_self) hchain.right_of_append)
        (fun d hd => ?_) hchain
      exact hfinal d (List.mem_cons_of_mem c hd)

end Composing

open Composing (start run)

theorem compose_eq (s : List Char) :
    compose s = (start.run (insertMarks [] (s.flatMap (decompose 4))).reverse).text := by
  rw [compose, ordered_eq, Composing.text, run]
  rfl

theorem insertMarks_eq_map (s : List Char) :
    (insertMarks [] s).reverse = ((insertMarks [] s).reverse.map Prod.fst).map mark := by
  rw [List.map_map]
  symm
  refine (List.map_congr_left fun m hm => ?_).trans (List.map_id _)
  rcases mem_insertMarks.mp (List.mem_reverse.mp hm) with ⟨c, -, rfl⟩ | hm
  · rw [Function.comp_apply, mark_fst, id]
  · cases hm

/-- What a text is composed to has the decomposition of the text. -/
theorem order_compose (s : List Char) :
    insertMarks [] ((compose s).flatMap (decompose 4)) =
      insertMarks [] (s.flatMap (decompose 4)) := by
  have hmap := insertMarks_eq_map (s.flatMap (decompose 4))
  have hholds := Composing.holds_start.run
    (s := (insertMarks [] (s.flatMap (decompose 4))).reverse.map Prod.fst) (fun c hc => ?_) (by
      rw [← hmap, List.reverse_reverse, List.append_nil]
      exact isChain_insertMarks .nil _)
  · rw [← hmap, List.reverse_reverse, List.append_nil] at hholds
    rw [compose_eq]
    exact hholds.order
  · obtain ⟨m, hm, rfl⟩ := List.mem_map.mp hc
    rcases mem_insertMarks.mp (List.mem_reverse.mp hm) with ⟨d, hd, rfl⟩ | hm
    · obtain ⟨e, -, hd⟩ := List.mem_flatMap.mp hd
      exact final_of_mem_decompose hd
    · cases hm

/-- What was composed is its own composition. -/
theorem compose_compose (s : List Char) : compose (compose s) = compose s := by
  rw [compose_eq (compose s), order_compose, ← compose_eq]

/-! ### Dots -/

/-- Nothing passes a character of class zero. -/
theorem insertMarks_barrier (acc behind : List Mark) (b : Char) (s : List Char) :
    insertMarks (acc ++ (b, 0) :: behind) s = insertMarks acc s ++ (b, 0) :: behind := by
  have hinsert (c : Char) (k : Nat) (acc : List Mark) :
      insertMark c k (acc ++ (b, 0) :: behind) = insertMark c k acc ++ (b, 0) :: behind := by
    induction acc with
    | nil =>
        have hstay : ¬(k < 0 ∧ k ≠ 0) := by omega
        simp only [List.nil_append, insertMark, if_neg hstay, List.singleton_append]
    | cons e acc ih =>
        rw [List.cons_append, insertMark, insertMark, ih]
        split <;> rfl
  induction s generalizing acc with
  | nil => rfl
  | cons c s ih =>
      rw [insertMarks_cons, insertMarks_cons, hinsert, ih]

namespace Composing

/-- What was composed behind a text and a dot. -/
def behind (before : List Char) (p : Composing) : Composing :=
  match p.starter with
  | none => { p with done := before, starter := some '.' }
  | some _ => { p with done := before ++ '.' :: p.done }

/-- Text that is done has a starter behind it. -/
def Begun (p : Composing) : Prop := p.starter = none → p.done = []

theorem text_behind {p : Composing} (h : p.Begun) (before : List Char) :
    (p.behind before).text = before ++ '.' :: p.text := by
  obtain ⟨done, starter, marks, lastClass⟩ := p
  cases starter with
  | none =>
      obtain rfl : done = [] := h rfl
      simp [behind, text]
  | some a => simp [behind, text]

theorem joined?_behind (p : Composing) (before : List Char) (c : Char) (k : Nat) :
    (p.behind before).joined? c k = p.joined? c k := by
  obtain ⟨done, starter, marks, lastClass⟩ := p
  cases starter with
  | none => simp [behind, joined?, composePair?_dot]
  | some a => rfl

theorem add_behind {p : Composing} (h : p.Begun) (before : List Char) (c : Char) (k : Nat) :
    (p.behind before).add c k = (p.add c k).behind before ∧ (p.add c k).Begun := by
  rw [add, add, text_behind h]
  by_cases hk : k = 0
  · rw [if_pos hk, if_pos hk]
    exact ⟨rfl, fun hnone => by cases hnone⟩
  · obtain ⟨done, starter, marks, lastClass⟩ := p
    rw [if_neg hk, if_neg hk]
    cases starter with
    | none => exact ⟨rfl, fun _ => h rfl⟩
    | some a => exact ⟨rfl, fun hnone => by cases hnone⟩

/-- A dot joins nothing, so that behind it everything goes on as at the start. -/
theorem step_behind {p : Composing} (h : p.Begun) (before : List Char) (c : Char) (k : Nat) :
    (p.behind before).step c k = (p.step c k).behind before ∧ (p.step c k).Begun := by
  rw [step_eq, step_eq, joined?_behind]
  cases hjoined : p.joined? c k with
  | none => exact add_behind h before c k
  | some d =>
      obtain ⟨a, hstarter, -⟩ := Option.bind_eq_some_iff.mp hjoined
      obtain ⟨done, starter, marks, lastClass⟩ := p
      obtain rfl : starter = some a := hstarter
      exact ⟨rfl, fun hnone => by cases hnone⟩

theorem run_behind {p : Composing} (h : p.Begun) (before : List Char) (ms : List Mark) :
    ((p.behind before).run ms).text = before ++ '.' :: (p.run ms).text := by
  induction ms generalizing p with
  | nil => exact text_behind h before
  | cons m ms ih =>
      obtain ⟨hstep, hbegun⟩ := step_behind h before m.1 m.2
      have hrun (p : Composing) : p.run (m :: ms) = (p.step m.1 m.2).run ms := rfl
      rw [hrun, hrun, hstep, ih hbegun]

theorem step_plain {c : Char} (h : c.toNat < 0x80) (p : Composing) (k : Nat) :
    p.step c k = p.add c k := by
  have hnone : p.joined? c k = none := by
    rw [joined?, Option.bind_eq_none_iff]
    intro a _
    rw [composePair?_plain h, ite_self]
  rw [step_eq, hnone, Option.elim_none]

theorem step_dot (p : Composing) : p.step '.' 0 = start.behind p.text :=
  step_plain (by decide) p 0

end Composing

/-- A dot parts what is composed before it from what is composed behind it. -/
theorem compose_append_dot (s t : List Char) :
    compose (s ++ '.' :: t) = compose s ++ '.' :: compose t := by
  have hdot : combiningClass '.' = 0 := combiningClass_plain (by decide)
  have hmarks : insertMarks [] ((s ++ '.' :: t).flatMap (decompose 4)) =
      insertMarks [] (t.flatMap (decompose 4)) ++
        ('.', 0) :: insertMarks [] (s.flatMap (decompose 4)) := by
    have hbarrier := insertMarks_barrier []
      (insertMarks [] (s.flatMap (decompose 4))) '.' (t.flatMap (decompose 4))
    rw [List.flatMap_append, List.flatMap_cons, decompose_of_final (final_of_plain (by decide)),
      List.singleton_append, insertMarks_append, insertMarks_cons, hdot,
      insertMark_zero]
    exact hbarrier
  have hrun (p : Composing) (ms ms' : List Mark) : p.run (ms ++ ms') = (p.run ms).run ms' :=
    List.foldl_append
  have hcons (p : Composing) (ms : List Mark) :
      p.run (('.', 0) :: ms) = (p.step '.' 0).run ms := rfl
  rw [compose_eq, hmarks, List.reverse_append, List.reverse_cons, List.append_assoc,
    List.singleton_append, hrun, hcons, Composing.step_dot,
    Composing.run_behind (fun _ => rfl), ← compose_eq, ← compose_eq]

theorem dot_not_mem_compose {s : List Char} (h : '.' ∉ s) : '.' ∉ compose s := by
  intro hdot
  have hdecomposed : '.' ∈ (compose s).flatMap (decompose 4) := by
    refine List.mem_flatMap.mpr ⟨'.', hdot, ?_⟩
    rw [decompose_of_final (final_of_plain (by decide))]
    exact List.mem_cons_self
  have hmark : mark '.' ∈ insertMarks [] (s.flatMap (decompose 4)) := by
    rw [← order_compose]
    exact mem_insertMarks.mpr (.inl ⟨'.', hdecomposed, rfl⟩)
  rcases mem_insertMarks.mp hmark with ⟨c, hc, heq⟩ | hnil
  · obtain ⟨d, hd, hc⟩ := List.mem_flatMap.mp hc
    have hfirst : '.' = c := congrArg Prod.fst heq
    exact h (dot_of_mem_decompose (hfirst ▸ hc) ▸ hd)
  · cases hnil

theorem compose_joinWith {pieces : List (List Char)} (hne : pieces ≠ []) :
    compose (Text.joinWith ['.'] pieces) = Text.joinWith ['.'] (pieces.map compose) := by
  induction pieces with
  | nil => exact absurd rfl hne
  | cons p rest ih =>
      cases rest with
      | nil => rfl
      | cons q rest =>
          have hrest : q :: rest ≠ [] := List.cons_ne_nil q rest
          have hmap : (q :: rest).map compose ≠ [] := List.cons_ne_nil _ _
          rw [List.map_cons, Text.joinWith_cons hrest, Text.joinWith_cons hmap,
            List.singleton_append, List.singleton_append, compose_append_dot, ih hrest]

/-- The pieces between the dots of what was composed are their own composition. -/
theorem compose_of_mem_splitOn {s p : List Char} (h : p ∈ Text.splitOn '.' (compose s)) :
    compose p = p := by
  have hne : Text.splitOn '.' (compose s) ≠ [] := Text.splitWhere_ne_nil _ _
  have hdots : ∀ q ∈ Text.splitOn '.' (compose s), '.' ∉ q := by
    intro q hq hdot
    exact absurd (Text.mem_of_mem_splitWhere hq hdot).2 (by decide)
  have hjoin : Text.joinWith ['.'] ((Text.splitOn '.' (compose s)).map compose) = compose s := by
    rw [← compose_joinWith hne, Text.joinWith_splitOn, compose_compose]
  have hcomposed : ∀ q ∈ (Text.splitOn '.' (compose s)).map compose, '.' ∉ q := by
    intro q hq
    obtain ⟨r, hr, rfl⟩ := List.mem_map.mp hq
    exact dot_not_mem_compose (hdots r hr)
  have hpieces := Text.splitOn_joinWith (by simpa using hne) hcomposed
  rw [hjoin] at hpieces
  have hmap : (Text.splitOn '.' (compose s)).map id =
      (Text.splitOn '.' (compose s)).map compose := by
    rw [List.map_id]
    exact hpieces
  exact (List.map_inj_left.mp hmap p h).symm

/-! ### Plain text -/

theorem insertMarks_plain {s : List Char} (h : ∀ c ∈ s, c.toNat < 0x80) (acc : List Mark) :
    insertMarks acc s = (s.map (·, 0)).reverse ++ acc := by
  induction s generalizing acc with
  | nil => rfl
  | cons c s ih =>
      rw [insertMarks_cons, combiningClass_plain (h c List.mem_cons_self), insertMark_zero,
        ih fun d hd => h d (List.mem_cons_of_mem c hd)]
      simp

theorem Composing.text_run_plain {s : List Char} (h : ∀ c ∈ s, c.toNat < 0x80) (p : Composing) :
    (p.run (s.map (·, 0))).text = p.text ++ s := by
  induction s generalizing p with
  | nil => simp [Composing.run]
  | cons c s ih =>
      have hrun : p.run ((c :: s).map (·, 0)) = (p.step c 0).run (s.map (·, 0)) := rfl
      rw [hrun, ih fun d hd => h d (List.mem_cons_of_mem c hd),
        Composing.step_plain (h c List.mem_cons_self), Composing.text_add, List.append_assoc]
      rfl

/-- Plain text is its own composition. -/
theorem compose_plain {s : List Char} (h : ∀ c ∈ s, c.toNat < 0x80) : compose s = s := by
  have hfinal : s.flatMap (decompose 4) = s :=
    Composing.decompose_flatMap_final fun c hc => final_of_plain (Nat.lt_trans (h c hc) (by decide))
  rw [compose_eq, hfinal, insertMarks_plain h, List.append_nil, List.reverse_reverse,
    Composing.text_run_plain h]
  rfl

end LoginGateway.Idna
