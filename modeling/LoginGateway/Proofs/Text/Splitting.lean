import LoginGateway.Text.Split
import Mathlib.Data.List.DropRight
import Mathlib.Data.List.TakeWhile

/-!
Pieces that do not contain a separator are found again where they were joined at it, and a spelling
that treats character by character, and leaves separators alone, may be applied before or after a
text is cut.
-/

namespace LoginGateway.Text

variable {sep : Char → Bool}

theorem splitWhere_eq_cons (sep : Char → Bool) (s : List Char) :
    splitWhere sep s = (splitWhere sep s).headD [] :: (splitWhere sep s).tail := by
  cases h : splitWhere sep s with
  | nil => exact absurd h (splitWhere_ne_nil sep s)
  | cons piece pieces => rfl

theorem splitWhere_cons_of_sep {c : Char} (hc : sep c = true) (s : List Char) :
    splitWhere sep (c :: s) = [] :: splitWhere sep s := by
  rw [splitWhere, if_pos hc]

theorem splitWhere_cons_of_not_sep {c : Char} (hc : sep c = false) (s : List Char) :
    splitWhere sep (c :: s) = (c :: (splitWhere sep s).headD []) :: (splitWhere sep s).tail := by
  rw [splitWhere, if_neg (by simp [hc])]
  cases h : splitWhere sep s with
  | nil => rfl
  | cons piece pieces => rfl

/-- What stands before the first separator lengthens the first piece. -/
theorem splitWhere_append {before : List Char} (h : ∀ c ∈ before, sep c = false) (s : List Char) :
    splitWhere sep (before ++ s) =
      (before ++ (splitWhere sep s).headD []) :: (splitWhere sep s).tail := by
  induction before with
  | nil => exact splitWhere_eq_cons sep s
  | cons c rest ih =>
      rw [List.cons_append, splitWhere_cons_of_not_sep (h c List.mem_cons_self),
        ih fun d hd => h d (List.mem_cons_of_mem c hd)]
      rfl

theorem splitWhere_of_no_sep {s : List Char} (h : ∀ c ∈ s, sep c = false) :
    splitWhere sep s = [s] := by
  simpa [splitWhere] using splitWhere_append h []

/-- The texts before and behind a separator are cut apart. -/
theorem splitWhere_append_cons {c : Char} (hc : sep c = true) (s t : List Char) :
    splitWhere sep (s ++ c :: t) = splitWhere sep s ++ splitWhere sep t := by
  induction s with
  | nil => exact splitWhere_cons_of_sep hc t
  | cons d rest ih =>
      rw [List.cons_append]
      cases hd : sep d with
      | true => rw [splitWhere_cons_of_sep hd, splitWhere_cons_of_sep hd, ih, List.cons_append]
      | false =>
          rw [splitWhere_cons_of_not_sep hd, splitWhere_cons_of_not_sep hd, ih,
            splitWhere_eq_cons sep rest]
          rfl

/-- A separator at the end leaves an empty piece behind it. -/
theorem splitWhere_concat_of_sep {c : Char} (hc : sep c = true) (s : List Char) :
    splitWhere sep (s ++ [c]) = splitWhere sep s ++ [[]] :=
  splitWhere_append_cons hc s []

/-- Any other character at the end lengthens the last piece. -/
theorem splitWhere_concat_of_not_sep {c : Char} (hc : sep c = false) (s : List Char) :
    ∃ pieces piece, splitWhere sep s = pieces ++ [piece] ∧
      splitWhere sep (s ++ [c]) = pieces ++ [piece ++ [c]] := by
  induction s with
  | nil => exact ⟨[], [], rfl, splitWhere_of_no_sep (by simpa using hc)⟩
  | cons d rest ih =>
      obtain ⟨pieces, piece, hrest, hsplit⟩ := ih
      rw [List.cons_append]
      cases hd : sep d with
      | true =>
          refine ⟨[] :: pieces, piece, ?_, ?_⟩
          · rw [splitWhere_cons_of_sep hd, hrest, List.cons_append]
          · rw [splitWhere_cons_of_sep hd, hsplit, List.cons_append]
      | false =>
          rw [splitWhere_cons_of_not_sep hd, splitWhere_cons_of_not_sep hd, hrest, hsplit]
          cases pieces with
          | nil => exact ⟨[], d :: piece, rfl, rfl⟩
          | cons first pieces => exact ⟨(d :: first) :: pieces, piece, rfl, rfl⟩

theorem splitOn_joinWith {sep : Char} {pieces : List (List Char)} (hne : pieces ≠ [])
    (h : ∀ p ∈ pieces, sep ∉ p) : splitOn sep (joinWith [sep] pieces) = pieces := by
  have hplain : ∀ p ∈ pieces, ∀ c ∈ p, (c == sep) = false := by
    intro p hp c hc
    exact beq_eq_false_iff_ne.mpr fun heq => h p hp (heq ▸ hc)
  induction pieces with
  | nil => exact absurd rfl hne
  | cons p rest ih =>
      have hp := hplain p List.mem_cons_self
      cases rest with
      | nil => exact splitWhere_of_no_sep hp
      | cons next rest =>
          have htail := ih (by simp) (fun q hq => h q (List.mem_cons_of_mem p hq))
            (fun q hq => hplain q (List.mem_cons_of_mem p hq))
          simp only [splitOn] at htail
          rw [splitOn, joinWith, List.append_assoc, splitWhere_append hp, List.singleton_append,
            splitWhere_cons_of_sep (by simp), htail]
          · simp
          · simp

theorem mem_of_mem_splitWhere {s p : List Char} (hp : p ∈ splitWhere sep s) {c : Char}
    (hc : c ∈ p) : c ∈ s ∧ sep c = false := by
  induction s generalizing p with
  | nil =>
      obtain rfl : p = [] := by simpa [splitWhere] using hp
      cases hc
  | cons d rest ih =>
      cases hd : sep d with
      | true =>
          rw [splitWhere_cons_of_sep hd] at hp
          rcases List.mem_cons.mp hp with rfl | hp
          · cases hc
          · exact ⟨List.mem_cons_of_mem d (ih hp hc).1, (ih hp hc).2⟩
      | false =>
          rw [splitWhere_cons_of_not_sep hd] at hp
          rcases List.mem_cons.mp hp with rfl | hp
          · rcases List.mem_cons.mp hc with rfl | hc
            · exact ⟨List.mem_cons_self, hd⟩
            · have hhead : (splitWhere sep rest).headD [] ∈ splitWhere sep rest := by
                rw [splitWhere_eq_cons]
                exact List.mem_cons_self
              exact ⟨List.mem_cons_of_mem d (ih hhead hc).1, (ih hhead hc).2⟩
          · have htail : p ∈ splitWhere sep rest := List.mem_of_mem_tail hp
            exact ⟨List.mem_cons_of_mem d (ih htail hc).1, (ih htail hc).2⟩

theorem joinWith_cons {glue : List Char} {pieces : List (List Char)} (hne : pieces ≠ [])
    (p : List Char) : joinWith glue (p :: pieces) = p ++ (glue ++ joinWith glue pieces) := by
  cases pieces with
  | nil => exact absurd rfl hne
  | cons q pieces =>
      rw [joinWith, List.append_assoc]
      simp

theorem mem_joinWith {glue : List Char} {pieces : List (List Char)} {c : Char}
    (h : c ∈ joinWith glue pieces) : c ∈ glue ∨ ∃ p ∈ pieces, c ∈ p := by
  induction pieces with
  | nil => cases h
  | cons p rest ih =>
      cases rest with
      | nil => exact .inr ⟨p, List.mem_cons_self, h⟩
      | cons next rest =>
          rw [joinWith, List.mem_append, List.mem_append] at h
          · rcases h with (h | h) | h
            · exact .inr ⟨p, List.mem_cons_self, h⟩
            · exact .inl h
            · rcases ih h with h | ⟨q, hq, h⟩
              · exact .inl h
              · exact .inr ⟨q, List.mem_cons_of_mem p hq, h⟩
          · simp

/-- A spelling that keeps separators and makes no new ones changes each piece by itself. -/
theorem splitWhere_flatMap {spell : Char → List Char} (hkept : ∀ c, sep c = true → spell c = [c])
    (hnew : ∀ c, sep c = false → ∀ d ∈ spell c, sep d = false) (s : List Char) :
    splitWhere sep (s.flatMap spell) = (splitWhere sep s).map (·.flatMap spell) := by
  induction s with
  | nil => simp [splitWhere]
  | cons c rest ih =>
      rw [List.flatMap_cons]
      cases hc : sep c with
      | true =>
          rw [hkept c hc, List.singleton_append, splitWhere_cons_of_sep hc,
            splitWhere_cons_of_sep hc, ih]
          rfl
      | false =>
          rw [splitWhere_append (hnew c hc), ih, splitWhere_cons_of_not_sep hc,
            splitWhere_eq_cons sep rest]
          simp

/-- A run of marked characters ends where the first unmarked one stands. -/
theorem span_append {p : Char → Bool} {s rest : List Char} (hs : ∀ c ∈ s, p c = true)
    (hrest : ∀ c ∈ rest.head?, p c = false) :
    (s ++ rest).takeWhile p = s ∧ (s ++ rest).dropWhile p = rest := by
  rw [List.takeWhile_append_of_pos hs, List.dropWhile_append_of_pos hs]
  cases rest with
  | nil => simp
  | cons c rest =>
      have hc : ¬p c = true := by simp [hrest c rfl]
      simp [List.takeWhile_cons_of_neg hc, List.dropWhile_cons_of_neg hc]

/-- A character that ends the run where it stands changes nothing when it comes last. -/
theorem span_concat {p : Char → Bool} {c : Char} (hc : p c = false) (s : List Char) :
    (s ++ [c]).takeWhile p = s.takeWhile p ∧ (s ++ [c]).dropWhile p = s.dropWhile p ++ [c] := by
  induction s with
  | nil => simp [hc]
  | cons d rest ih => cases hd : p d <;> simp [hd, ih]

theorem dropWhile_append_cons {p : Char → Bool} {c : Char} (hc : p c = false)
    (before after : List Char) :
    (before ++ c :: after).dropWhile p = before.dropWhile p ++ c :: after := by
  rw [← List.singleton_append, ← List.append_assoc, List.dropWhile_append,
    (span_concat hc before).2, if_neg (by simp), List.append_assoc]

theorem dropWhile_of_not_mem {sep : Char} {s : List Char} (h : sep ∉ s) :
    s.dropWhile (· != sep) = [] := by
  rw [List.dropWhile_eq_nil_iff]
  intro c hc
  simpa using fun heq : c = sep => h (heq ▸ hc)

theorem cutAt_of_not_mem {sep : Char} {s : List Char} (h : sep ∉ s) : cutAt sep s = (s, none) := by
  rw [cutAt, dropWhile_of_not_mem h]

theorem cutAt_append {sep : Char} {before : List Char} (h : sep ∉ before) (after : List Char) :
    cutAt sep (before ++ sep :: after) = (before, some after) := by
  have hall : ∀ c ∈ before, (c != sep) = true := by
    intro c hc
    simpa using fun heq : c = sep => h (heq ▸ hc)
  rw [cutAt, List.dropWhile_append_of_pos hall, List.takeWhile_append_of_pos hall]
  simp

/-- A text is cut at its first separator, or it has none. -/
theorem cutAt_eq (sep : Char) (s : List Char) :
    sep ∉ s ∧ cutAt sep s = (s, none) ∨
      ∃ before after, s = before ++ sep :: after ∧ cutAt sep s = (before, some after) := by
  by_cases hs : sep ∈ s
  · obtain ⟨before, after, rfl, hbefore⟩ := List.eq_append_cons_of_mem hs
    exact .inr ⟨before, after, rfl, cutAt_append hbefore after⟩
  · exact .inl ⟨hs, cutAt_of_not_mem hs⟩

theorem cutAt_flatMap {sep : Char} {spell : Char → List Char} (hkept : spell sep = [sep])
    (hnew : ∀ c, c ≠ sep → sep ∉ spell c) (s : List Char) :
    cutAt sep (s.flatMap spell) =
      ((cutAt sep s).1.flatMap spell, (cutAt sep s).2.map (·.flatMap spell)) := by
  have hfree {t : List Char} (ht : sep ∉ t) : sep ∉ t.flatMap spell := by
    simp only [List.mem_flatMap, not_exists, not_and]
    exact fun c hc => hnew c fun heq => ht (heq ▸ hc)
  by_cases hs : sep ∈ s
  · obtain ⟨before, after, rfl, hbefore⟩ := List.eq_append_cons_of_mem hs
    rw [List.flatMap_append, List.flatMap_cons, hkept, List.singleton_append,
      cutAt_append (hfree hbefore), cutAt_append hbefore]
    rfl
  · rw [cutAt_of_not_mem (hfree hs), cutAt_of_not_mem hs]
    rfl

theorem cutBefore?_of_not_mem {d : Char} {mark s : List Char} (hd : d ∈ mark) (h : d ∉ s) :
    cutBefore? mark s = none := by
  induction s with
  | nil => exact if_neg (by simpa using List.ne_nil_of_mem hd)
  | cons c rest ih =>
      have hfront : mark.isPrefixOf (c :: rest) = false := by
        rw [← Bool.not_eq_true, List.isPrefixOf_iff_prefix]
        exact fun hfront => h (hfront.subset hd)
      rw [cutBefore?, if_neg (by simp [hfront]), ih (List.not_mem_of_not_mem_cons h)]
      rfl

theorem cutBefore?_append {d : Char} {mark before : List Char} (h : d ∉ before)
    (after : List Char) :
    cutBefore? (d :: mark) (before ++ (d :: mark ++ after)) = some (before, after) := by
  induction before with
  | nil =>
      have hfront : (d :: mark).isPrefixOf (d :: mark ++ after) = true :=
        List.isPrefixOf_iff_prefix.mpr (List.prefix_append _ _)
      rw [List.nil_append, List.cons_append, cutBefore?, ← List.cons_append, if_pos hfront,
        List.drop_left]
  | cons c rest ih =>
      obtain ⟨hc, hrest⟩ := List.ne_and_not_mem_of_not_mem_cons h
      rw [List.cons_append, cutBefore?, if_neg (by simp [hc]), ih hrest]
      rfl

theorem behind?_append (mark : String) (rest : List Char) :
    behind? mark (mark.toList ++ rest) = some rest := by
  rw [behind?, if_pos (List.isPrefixOf_iff_prefix.mpr (List.prefix_append _ _)),
    ← String.length_toList, List.drop_left]

theorem behind?_of_head? {mark : String} {c d : Char} (hd : mark.toList.head? = some d)
    (h : c ≠ d) (rest : List Char) : behind? mark (c :: rest) = none := by
  obtain ⟨tail, htail⟩ := List.head?_eq_some_iff.mp hd
  rw [behind?, htail, if_neg]
  simpa using fun heq : d = c => absurd heq.symm h

theorem cutAtLast?_of_not_mem {sep : Char} {s : List Char} (h : sep ∉ s) :
    cutAtLast? sep s = none := by
  rw [cutAtLast?, dropWhile_of_not_mem (mt List.mem_reverse.mp h)]

theorem cutAtLast?_append {sep : Char} {before after : List Char} (h : sep ∉ after) :
    cutAtLast? sep (before ++ sep :: after) = some (before, after) := by
  have hall : ∀ c ∈ after.reverse, (c != sep) = true := by
    intro c hc
    simpa using fun heq : c = sep => h (heq ▸ List.mem_reverse.mp hc)
  rw [cutAtLast?, List.reverse_append, List.reverse_cons, List.append_assoc, List.singleton_append,
    List.dropWhile_append_of_pos hall, List.takeWhile_append_of_pos hall]
  simp

theorem eq_of_cutAtLast? {sep : Char} {s before after : List Char}
    (h : cutAtLast? sep s = some (before, after)) : s = before ++ sep :: after := by
  by_cases hs : sep ∈ s.reverse
  · obtain ⟨back, front, hreverse, hback⟩ := List.eq_append_cons_of_mem hs
    have hs : s = front.reverse ++ sep :: back.reverse := by
      rw [← List.reverse_reverse s, hreverse]
      simp
    rw [hs, cutAtLast?_append (by simpa using hback)] at h
    cases h
    exact hs
  · rw [cutAtLast?_of_not_mem (mt List.mem_reverse.mpr hs)] at h
    cases h

theorem trimWhere_of_ends {p : Char → Bool} {c : Char} {s back : List Char} (hc : p c = false)
    (hne : back ≠ []) (hback : ∀ d ∈ back, p d = false) :
    trimWhere p (c :: s ++ back) = c :: s ++ back := by
  -- From behind, the text begins with the last character of `back`.
  obtain ⟨d, front, hfront⟩ := List.exists_cons_of_ne_nil (mt List.reverse_eq_nil_iff.mp hne)
  have hd : p d = false := hback d (List.mem_reverse.mp (hfront ▸ List.mem_cons_self))
  rw [trimWhere, List.cons_append, List.dropWhile_cons_of_neg (by simp [hc]),
    ← List.cons_append, List.reverse_append, hfront, List.cons_append,
    List.dropWhile_cons_of_neg (by simp [hd]), ← List.cons_append, ← hfront, ← List.reverse_append,
    List.reverse_reverse]

theorem dropWhile_of_none {p : Char → Bool} {s : List Char} (h : ∀ c ∈ s, p c = false) :
    s.dropWhile p = s := by
  rw [List.dropWhile_eq_self_iff]
  intro hlength
  simpa using h _ (List.getElem_mem hlength)

theorem trimWhere_of_none {p : Char → Bool} {s : List Char} (h : ∀ c ∈ s, p c = false) :
    trimWhere p s = s := by
  rw [trimWhere, dropWhile_of_none h, dropWhile_of_none fun c hc => h c (List.mem_reverse.mp hc),
    List.reverse_reverse]

theorem trimWhere_append {p : Char → Bool} {c : Char} (hc : p c = false) {after : List Char}
    (hafter : ∀ d ∈ after, p d = true) (before : List Char) :
    trimWhere p (before ++ c :: after) = before.dropWhile p ++ [c] := by
  have hall : ∀ d ∈ after.reverse, p d = true := fun d hd => hafter d (List.mem_reverse.mp hd)
  rw [trimWhere, dropWhile_append_cons hc, List.reverse_append, List.reverse_cons, List.append_assoc,
    List.dropWhile_append_of_pos hall, List.singleton_append,
    List.dropWhile_cons_of_neg (by simp [hc]), List.reverse_cons, List.reverse_reverse]

/-! ### The end of a text -/

theorem dropEndWhile_eq_rdropWhile (p : Char → Bool) (s : List Char) :
    dropEndWhile p s = s.rdropWhile p := rfl

theorem dropEndWhile_append_replicate (c : Char) (s : List Char) (k : Nat) :
    dropEndWhile (· == c) (s ++ List.replicate k c) = dropEndWhile (· == c) s := by
  rw [dropEndWhile_eq_rdropWhile, dropEndWhile_eq_rdropWhile]
  induction k with
  | zero => rw [List.replicate_zero, List.append_nil]
  | succ k ih =>
      rw [List.replicate_succ', ← List.append_assoc, List.rdropWhile_concat_pos _ _ _ (by simp), ih]

theorem dropEndWhile_concat_of_ne {c d : Char} (h : d ≠ c) (s : List Char) :
    dropEndWhile (· == c) (s ++ [d]) = s ++ [d] :=
  List.rdropWhile_concat_neg _ _ _ (by simpa using h)

end LoginGateway.Text
