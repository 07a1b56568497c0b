/-!
Cutting a text at its separators. A cut text, joined again, is the text; `splitOn` always has at
least one piece.
-/

namespace LoginGateway.Text

/-- The pieces between the characters that `sep` marks. -/
def splitWhere (sep : Char → Bool) : List Char → List (List Char)
  | [] => [[]]
  | c :: rest =>
    if sep c then [] :: splitWhere sep rest
    else
      match splitWhere sep rest with
      | [] => [[c]]
      | piece :: pieces => (c :: piece) :: pieces

def splitOn (sep : Char) : List Char → List (List Char) := splitWhere (· == sep)

def joinWith (sep : List Char) : List (List Char) → List Char
  | [] => []
  | [piece] => piece
  | piece :: pieces => piece ++ sep ++ joinWith sep pieces

/-- The text before the first `sep`, and the text after it if there is one. -/
def cutAt (sep : Char) (s : List Char) : List Char × Option (List Char) :=
  match s.dropWhile (· != sep) with
  | [] => (s, none)
  | _ :: after => (s.takeWhile (· != sep), some after)

/-- The text before the first occurrence of `mark`, and the text after it. -/
def cutBefore? (mark : List Char) : List Char → Option (List Char × List Char)
  | [] => if mark.isEmpty then some ([], []) else none
  | c :: rest =>
    if mark.isPrefixOf (c :: rest) then some ([], (c :: rest).drop mark.length)
    else (cutBefore? mark rest).map fun p => (c :: p.1, p.2)

/-- The text behind `mark`, if it stands at the front. -/
def behind? (mark : String) (s : List Char) : Option (List Char) :=
  if mark.toList.isPrefixOf s then some (s.drop mark.length) else none

/-- The text before the last `sep` and the text after it. -/
def cutAtLast? (sep : Char) (s : List Char) : Option (List Char × List Char) :=
  match s.reverse.dropWhile (· != sep) with
  | [] => none
  | _ :: before => some (before.reverse, (s.reverse.takeWhile (· != sep)).reverse)

/-- Drops the marked characters at both ends. -/
def trimWhere (p : Char → Bool) (s : List Char) : List Char :=
  ((s.dropWhile p).reverse.dropWhile p).reverse

def dropEndWhile (p : Char → Bool) (s : List Char) : List Char :=
  (s.reverse.dropWhile p).reverse

theorem length_dropWhile_le (p : Char → Bool) (s : List Char) :
    (s.dropWhile p).length ≤ s.length := by
  induction s with
  | nil => simp
  | cons c rest ih =>
      simp only [List.dropWhile_cons]
      split
      · exact Nat.le_succ_of_le ih
      · exact Nat.le_refl _

theorem length_lt_of_cutAt {sep : Char} {s before after : List Char}
    (h : cutAt sep s = (before, some after)) : after.length < s.length := by
  have hle := length_dropWhile_le (· != sep) s
  unfold cutAt at h
  split at h
  · simp at h
  · next hd =>
      rw [hd] at hle
      simp only [Prod.mk.injEq, Option.some.injEq] at h
      obtain ⟨-, rfl⟩ := h
      exact hle

theorem splitWhere_ne_nil (sep : Char → Bool) (s : List Char) : splitWhere sep s ≠ [] := by
  cases s with
  | nil => simp [splitWhere]
  | cons c rest =>
      simp only [splitWhere]
      split
      · simp
      · split <;> simp

theorem joinWith_splitOn (sep : Char) (s : List Char) : joinWith [sep] (splitOn sep s) = s := by
  induction s with
  | nil => rfl
  | cons c rest ih =>
      have hne := splitWhere_ne_nil (· == sep) rest
      simp only [splitOn] at ih
      simp only [splitOn, splitWhere]
      split
      · next hc =>
          cases hp : splitWhere (· == sep) rest with
          | nil => exact absurd hp hne
          | cons piece pieces =>
              rw [hp] at ih
              rw [joinWith, ih] <;> simp_all
      · cases hp : splitWhere (· == sep) rest with
        | nil => exact absurd hp hne
        | cons piece pieces =>
            rw [hp] at ih
            cases pieces with
            | nil => simpa [joinWith] using ih
            | cons next pieces => simpa [joinWith] using ih

end LoginGateway.Text
