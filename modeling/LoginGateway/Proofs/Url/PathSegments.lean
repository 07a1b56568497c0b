import LoginGateway.Proofs.Text.Splitting
import LoginGateway.Proofs.Url.FormPairs
import LoginGateway.Url.Path
import Mathlib.Data.List.Induction

/-!
Paths as they are held. The segments of a path that was read are settled: they have no slash, stand
for no dots, and every character that must be escaped is. Reading settled segments from their text
gives them back, so a path does not change any more. Main statements: `settled_of_mem_read` and
`read_renderSegments`.
-/

namespace LoginGateway

namespace Percent

/-- The character stands for itself. -/
def Kept (escaped : EscapeSet) (c : Char) : Prop := isAscii c = true ∧ escaped c = false

theorem encodeChar_of_kept {escaped : EscapeSet} {c : Char} (h : Kept escaped c) :
    encodeChar escaped c = [c] := by
  rw [encodeChar, h.1, h.2]
  rfl

theorem encode_of_kept {escaped : EscapeSet} {s : List Char} (h : ∀ c ∈ s, Kept escaped c) :
    encode escaped s = s := by
  induction s with
  | nil => rfl
  | cons c rest ih =>
      have htail := ih fun d hd => h d (List.mem_cons_of_mem c hd)
      rw [encode] at htail ⊢
      rw [List.flatMap_cons, encodeChar_of_kept (h c List.mem_cons_self), htail]
      rfl

theorem mem_encodeByte {b : UInt8} {c : Char} (h : c ∈ encodeByte b) :
    c = '%' ∨ c.isAlphanum = true := by
  have hb : b.toNat < 256 := b.toNat_lt_size
  simp only [encodeByte, List.mem_cons, List.not_mem_nil, or_false] at h
  rcases h with rfl | rfl | rfl
  · exact .inl rfl
  · exact .inr (Form.isAlphanum_hexDigit (by omega))
  · exact .inr (Form.isAlphanum_hexDigit (by omega))

/-- What stands in an encoded text: characters that stand for themselves, and escapes. -/
theorem mem_encode {escaped : EscapeSet} {s : List Char} {d : Char} (h : d ∈ encode escaped s) :
    (d ∈ s ∧ Kept escaped d) ∨ d = '%' ∨ d.isAlphanum = true := by
  rw [encode, List.mem_flatMap] at h
  obtain ⟨c, hc, hd⟩ := h
  rw [encodeChar] at hd
  split at hd
  · next hkept =>
      obtain rfl := List.mem_singleton.mp hd
      rw [Bool.and_eq_true, Bool.not_eq_true'] at hkept
      exact .inl ⟨hc, hkept⟩
  · obtain ⟨b, -, hb⟩ := List.mem_flatMap.mp hd
    exact .inr (mem_encodeByte hb)

end Percent

namespace Path

open Percent (Kept pathSet)

/-- A segment as a path holds it. -/
structure Settled (segment : List Char) : Prop where
  kept : ∀ c ∈ segment, Kept pathSet c
  noSlash : ∀ c ∈ segment, isSlash true c = false
  notDouble : isDoubleDot segment = false
  notSingle : isSingleDot segment = false

theorem settled_nil : Settled [] where
  kept := by simp
  noSlash := by simp
  notDouble := by decide
  notSingle := by decide

/-! ### Dots -/

/-- The only escape in the text is that of a dot. -/
def EscapesDots (s : List Char) : Prop :=
  ∀ before x y after, s = before ++ '%' :: x :: y :: after → x = '2' ∧ y = 'e'

theorem escapesDots_of_mem {name : String}
    (h : name ∈ [".", "%2e"] ++ ["..", "%2e.", ".%2e", "%2e%2e"]) : EscapesDots name.toList := by
  intro before x y after heq
  simp only [List.cons_append, List.nil_append, List.mem_cons, List.not_mem_nil, or_false] at h
  rcases h with rfl | rfl | rfl | rfl | rfl | rfl <;>
    simp [List.cons_eq_append_iff] at heq <;> grind

theorem toLower_hexDigit_eq {n : Nat} (h : n < 16) :
    ((Percent.hexDigit n).toLower = '2' → n = 2) ∧
      ((Percent.hexDigit n).toLower = 'e' → n = 14) := by
  revert n
  decide

theorem head_encodeChar_ne_dot {c : Char} (h : ¬Kept pathSet c) :
    ∃ b bs, Utf8.encodeChar c = b :: bs ∧ b.toNat ≠ 0x2E := by
  obtain ⟨b, bs, hbytes⟩ := List.exists_cons_of_ne_nil (Utf8.encodeChar_ne_nil c)
  refine ⟨b, bs, hbytes, ?_⟩
  rintro hb
  by_cases hascii : c.toNat < 0x80
  · rw [Utf8.encodeChar, if_pos hascii, List.cons.injEq] at hbytes
    rw [← hbytes.1, Utf8.toNat_ofNat_of_lt (by omega)] at hb
    have hdot : c = '.' := by rw [← Char.ofNat_toNat c, hb]
    subst hdot
    exact h ⟨by decide, by decide⟩
  · have hle : 0x80 ≤ b.toNat :=
      Utf8.le_of_mem_encodeChar (Nat.le_of_not_lt hascii) (hbytes ▸ List.mem_cons_self)
    omega

/-- A text that spells dots after encoding was not changed by it. -/
theorem encode_eq_of_escapesDots {s : List Char}
    (h : EscapesDots ((Percent.encode pathSet s).map Char.toLower)) :
    Percent.encode pathSet s = s := by
  refine Percent.encode_of_kept ?_
  intro c hc
  by_contra hnot
  obtain ⟨before, after, rfl⟩ := List.append_of_mem hc
  obtain ⟨b, bs, hbytes, hb⟩ := head_encodeChar_ne_dot hnot
  have hencode : Percent.encodeChar pathSet c =
      Percent.encodeByte b ++ bs.flatMap Percent.encodeByte := by
    rw [Percent.encodeChar, if_neg, hbytes, List.flatMap_cons]
    simpa [Kept] using hnot
  have hlt : b.toNat < 256 := b.toNat_lt_size
  obtain ⟨hhigh, hlow⟩ := h ((Percent.encode pathSet before).map Char.toLower)
    (Percent.hexDigit (b.toNat / 16)).toLower (Percent.hexDigit (b.toNat % 16)).toLower
    ((bs.flatMap Percent.encodeByte ++ Percent.encode pathSet after).map Char.toLower) (by
      rw [Percent.encode, List.flatMap_append, List.flatMap_cons, hencode, Percent.encodeByte]
      simp [Percent.encode])
  have hhigh := (toLower_hexDigit_eq (show b.toNat / 16 < 16 by omega)).1 hhigh
  have hlow := (toLower_hexDigit_eq (show b.toNat % 16 < 16 by omega)).2 hlow
  omega

theorem isSingleDot_of_encode {s : List Char} (h : isSingleDot (Percent.encode pathSet s) = true) :
    isSingleDot s = true := by
  obtain ⟨name, hname, heq⟩ := List.any_eq_true.mp h
  have hdots : EscapesDots ((Percent.encode pathSet s).map Char.toLower) :=
    beq_iff_eq.mp heq ▸ escapesDots_of_mem (List.mem_append_left _ hname)
  rwa [encode_eq_of_escapesDots hdots] at h

theorem isDoubleDot_of_encode {s : List Char} (h : isDoubleDot (Percent.encode pathSet s) = true) :
    isDoubleDot s = true := by
  obtain ⟨name, hname, heq⟩ := List.any_eq_true.mp h
  have hdots : EscapesDots ((Percent.encode pathSet s).map Char.toLower) :=
    beq_iff_eq.mp heq ▸ escapesDots_of_mem (List.mem_append_right _ hname)
  rwa [encode_eq_of_escapesDots hdots] at h

/-! ### Reading -/

theorem not_slash_of_isAlphanum {c : Char} (h : c = '%' ∨ c.isAlphanum = true) :
    isSlash true c = false := by
  rw [isSlash, Bool.or_eq_false_iff]
  constructor
  · rw [beq_eq_false_iff_ne]
    rintro rfl
    exact absurd h (by decide)
  · rw [Bool.true_and, beq_eq_false_iff_ne]
    rintro rfl
    exact absurd h (by decide)

theorem kept_of_isAlphanum {c : Char} (h : c = '%' ∨ c.isAlphanum = true) : Kept pathSet c := by
  rcases h with rfl | h
  · exact ⟨by decide, by decide⟩
  · have hrange := Text.isAlphanum_iff.mp h
    refine ⟨decide_eq_true (by omega), ?_⟩
    by_contra hescaped
    simp only [pathSet, Percent.fragmentSet, Percent.controls, Bool.or_eq_true, decide_eq_true_eq,
      beq_iff_eq, List.contains_iff_mem, Bool.not_eq_false] at hescaped
    rcases hescaped with ((hlow | hdelete) | hmem) | hmem
    · omega
    · omega
    · simp at hmem
      rcases hmem with rfl | rfl | rfl | rfl | rfl <;> exact absurd h (by decide)
    · simp at hmem
      rcases hmem with rfl | rfl | rfl | rfl <;> exact absurd h (by decide)

theorem settled_encode {piece : List Char} (hslash : ∀ c ∈ piece, isSlash true c = false)
    (hdouble : isDoubleDot piece = false) (hsingle : isSingleDot piece = false) :
    Settled (Percent.encode pathSet piece) where
  kept := by
    intro c hc
    rcases Percent.mem_encode hc with ⟨-, hkept⟩ | hescape
    · exact hkept
    · exact kept_of_isAlphanum hescape
  noSlash := by
    intro c hc
    rcases Percent.mem_encode hc with ⟨hmem, -⟩ | hescape
    · exact hslash c hmem
    · exact not_slash_of_isAlphanum hescape
  notDouble := by
    by_contra hdots
    rw [Bool.not_eq_false] at hdots
    rw [isDoubleDot_of_encode hdots] at hdouble
    cases hdouble
  notSingle := by
    by_contra hdots
    rw [Bool.not_eq_false] at hdots
    rw [isSingleDot_of_encode hdots] at hsingle
    cases hsingle

theorem Settled.encode_eq {segment : List Char} (h : Settled segment) :
    Percent.encode pathSet segment = segment :=
  Percent.encode_of_kept h.kept

theorem add_of_settled {piece : List Char} (h : Settled piece) (before : List (List Char))
    (isLast : Bool) : add false before piece isLast = before ++ [piece] := by
  rw [add, h.notDouble, h.notSingle, plainSegment, h.encode_eq]
  rfl

theorem addAll_of_settled {pieces : List (List Char)} (h : ∀ p ∈ pieces, Settled p)
    (before : List (List Char)) : addAll false before pieces = before ++ pieces := by
  induction pieces generalizing before with
  | nil => rw [addAll, List.append_nil]
  | cons p rest ih =>
      have hp := h p List.mem_cons_self
      cases rest with
      | nil => rw [addAll, add_of_settled hp]
      | cons next rest =>
          rw [addAll, add_of_settled hp, ih fun q hq => h q (List.mem_cons_of_mem p hq),
            List.append_assoc]
          rfl

theorem settled_of_mem_add {before : List (List Char)} {piece : List Char} {isLast : Bool}
    (hbefore : ∀ s ∈ before, Settled s) (hslash : ∀ c ∈ piece, isSlash true c = false) :
    ∀ s ∈ add false before piece isLast, Settled s := by
  have hend : ∀ s ∈ emptyIf isLast, Settled s := by
    intro s hs
    cases isLast with
    | false => cases hs
    | true =>
        obtain rfl := List.mem_singleton.mp hs
        exact settled_nil
  intro s hs
  rw [add] at hs
  split at hs
  · rcases List.mem_append.mp hs with hs | hs
    · exact hbefore s ((List.dropLast_subset _ hs))
    · exact hend s hs
  · next hdouble =>
      split at hs
      · rcases List.mem_append.mp hs with hs | hs
        · exact hbefore s hs
        · exact hend s hs
      · next hsingle =>
          rcases List.mem_append.mp hs with hs | hs
          · exact hbefore s hs
          · obtain rfl := List.mem_singleton.mp hs
            exact settled_encode hslash (Bool.not_eq_true _ ▸ hdouble)
              (Bool.not_eq_true _ ▸ hsingle)

theorem settled_of_mem_addAll {pieces before : List (List Char)}
    (hbefore : ∀ s ∈ before, Settled s)
    (hslash : ∀ p ∈ pieces, ∀ c ∈ p, isSlash true c = false) :
    ∀ s ∈ addAll false before pieces, Settled s := by
  induction pieces generalizing before with
  | nil => exact hbefore
  | cons p rest ih =>
      have hadd (isLast : Bool) : ∀ s ∈ add false before p isLast, Settled s :=
        settled_of_mem_add hbefore (hslash p List.mem_cons_self)
      cases rest with
      | nil => exact hadd true
      | cons next rest => exact ih (hadd false) fun q hq => hslash q (List.mem_cons_of_mem p hq)

theorem addAll_ne_nil {pieces : List (List Char)} (h : pieces ≠ []) (before : List (List Char)) :
    addAll false before pieces ≠ [] := by
  induction pieces generalizing before with
  | nil => exact absurd rfl h
  | cons p rest ih =>
      cases rest with
      | nil =>
          rw [addAll, add]
          split
          · simp [emptyIf]
          · split <;> simp [emptyIf]
      | cons next rest => exact ih (by simp) _

theorem read_web (text : List Char) :
    Path.read .web text =
      addAll false [] (Text.splitWhere (isSlash true) (dropSlash true text)) := by
  rw [Path.read, if_neg (by simp [SchemeKind.isSpecial])]
  rfl

theorem settled_of_mem_read {text segment : List Char} (h : segment ∈ Path.read .web text) :
    Settled segment := by
  rw [read_web] at h
  refine settled_of_mem_addAll (by simp) ?_ segment h
  intro p hp c hc
  exact (Text.mem_of_mem_splitWhere hp hc).2

theorem read_ne_nil (text : List Char) : Path.read .web text ≠ [] := by
  rw [read_web]
  exact addAll_ne_nil (Text.splitWhere_ne_nil _ _) []

theorem splitWhere_renderSegments {segments : List (List Char)}
    (h : ∀ p ∈ segments, ∀ c ∈ p, isSlash true c = false) :
    Text.splitWhere (isSlash true) (renderSegments segments) = [] :: segments := by
  induction segments with
  | nil => rfl
  | cons p rest ih =>
      have hwritten : renderSegments (p :: rest) = '/' :: (p ++ renderSegments rest) := rfl
      rw [hwritten, Text.splitWhere_cons_of_sep (by decide),
        Text.splitWhere_append (h p List.mem_cons_self),
        ih fun q hq => h q (List.mem_cons_of_mem p hq)]
      simp

/-- Settled segments are read back from their text. -/
theorem read_renderSegments {segments : List (List Char)} (hne : segments ≠ [])
    (h : ∀ p ∈ segments, Settled p) : Path.read .web (renderSegments segments) = segments := by
  obtain ⟨p, rest, rfl⟩ := List.exists_cons_of_ne_nil hne
  have hsplit := splitWhere_renderSegments fun q hq => (h q hq).noSlash
  have hwritten : renderSegments (p :: rest) = '/' :: (p ++ renderSegments rest) := rfl
  rw [hwritten, Text.splitWhere_cons_of_sep (by decide), List.cons_inj_right] at hsplit
  have hdrop : dropSlash true (renderSegments (p :: rest)) = p ++ renderSegments rest := rfl
  rw [read_web, hdrop, hsplit, addAll_of_settled h, List.nil_append]

/-! ### Slashes at the end -/

/-- The segments without the empty ones at the end. -/
def withoutEmptyEnd (segments : List (List Char)) : List (List Char) :=
  segments.rdropWhile List.isEmpty

theorem mem_of_mem_withoutEmptyEnd {segments : List (List Char)} {p : List Char}
    (h : p ∈ withoutEmptyEnd segments) : p ∈ segments :=
  (List.rdropWhile_prefix _ _).subset h

theorem renderSegments_append (segments more : List (List Char)) :
    renderSegments (segments ++ more) = renderSegments segments ++ renderSegments more :=
  List.flatMap_append

/-- The slashes at the end of a text that ends with a path are those of its empty segments. -/
theorem dropEndWhile_renderSegments {front : List Char} (hfront : ∀ c ∈ front.getLast?, c ≠ '/')
    {segments : List (List Char)} (h : ∀ p ∈ segments, ∀ c ∈ p, isSlash true c = false) :
    Text.dropEndWhile (· == '/') (front ++ renderSegments segments) =
      front ++ renderSegments (withoutEmptyEnd segments) := by
  induction segments using List.reverseRecOn with
  | nil =>
      have hnone : renderSegments [] = [] := rfl
      rw [show withoutEmptyEnd [] = [] from rfl, hnone, List.append_nil]
      cases front using List.reverseRecOn with
      | nil => rfl
      | append_singleton front c =>
          exact Text.dropEndWhile_concat_of_ne (hfront c (by simp)) front
  | append_singleton segments p ih =>
      have hwritten : renderSegments (segments ++ [p]) = renderSegments segments ++ '/' :: p := by
        rw [renderSegments_append, show renderSegments [p] = '/' :: p from List.append_nil _]
      rw [hwritten, ← List.append_assoc]
      cases p using List.reverseRecOn with
      | nil =>
          have hkept : withoutEmptyEnd (segments ++ [[]]) = withoutEmptyEnd segments :=
            List.rdropWhile_concat_pos _ _ _ rfl
          rw [hkept, ← ih fun q hq => h q (List.mem_append_left _ hq)]
          exact Text.dropEndWhile_append_replicate '/' _ 1
      | append_singleton p c =>
          have hkept : withoutEmptyEnd (segments ++ [p ++ [c]]) = segments ++ [p ++ [c]] :=
            List.rdropWhile_concat_neg _ _ _ (by simp)
          have hc : c ≠ '/' := by
            rintro rfl
            exact absurd (h (p ++ ['/']) (by simp) '/' (by simp)) (by decide)
          have hlast : front ++ renderSegments segments ++ '/' :: (p ++ [c]) =
              front ++ renderSegments segments ++ '/' :: p ++ [c] := by simp
          rw [hkept, hwritten, hlast, Text.dropEndWhile_concat_of_ne hc, ← hlast, List.append_assoc]

end Path

end LoginGateway
