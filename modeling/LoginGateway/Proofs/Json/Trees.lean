import LoginGateway.Proofs.Json.NumberRange
import Mathlib.Data.List.Forall2

/-!
Documents as they are spelled. A tree keeps its numbers and strings as literals; it stands for a
document unless it is nested too deep, one of its numbers overflows, or one of its strings has half
of a surrogate pair. Main statements: `value?_isSome_iff` and `get?_value`.
-/

namespace LoginGateway.Json

/-- Members keep their order, and a name may occur more than once. -/
inductive Tree
  | null
  | bool (value : Bool)
  | number (literal : Literal)
  | string (pieces : List Piece)
  | array (items : List Tree)
  | object (members : List (List Piece × Tree))

namespace Tree

mutual

/-- What the tree stands for, if it is nested at most so deep. -/
def value? : Nat → Tree → Option Json
  | _, null => some .null
  | _, bool b => some (.bool b)
  | _, number l => l.value?
  | _, string pieces => (Piece.text? pieces).map .string
  | 0, array _ => none
  | 0, object _ => none
  | depth + 1, array items => (itemValues? depth items).map .array
  | depth + 1, object members => (memberValues? depth members).map .object
termination_by structural _ t => t

def itemValues? (depth : Nat) : List Tree → Option (List Json)
  | [] => some []
  | t :: items => (value? depth t).bind fun j => (itemValues? depth items).map (j :: ·)
termination_by structural items => items

def memberValues? (depth : Nat) : List (List Piece × Tree) → Option (List (List Char × Json))
  | [] => some []
  | m :: members => (memberValue? depth m).bind fun p => (memberValues? depth members).map (p :: ·)
termination_by structural members => members

def memberValue? (depth : Nat) : List Piece × Tree → Option (List Char × Json)
  | (name, t) => (Piece.text? name).bind fun name => (value? depth t).map (name, ·)
termination_by structural m => m

end

end Tree

/-- The limits of the reader: nesting, the doubles of numbers, and whole surrogate pairs. -/
inductive Readable : Nat → Tree → Prop
  | null {depth : Nat} : Readable depth .null
  | bool {depth : Nat} (value : Bool) : Readable depth (.bool value)
  | number {depth : Nat} {l : Literal} : l.numeral.isTooLarge = false →
      Readable depth (.number l)
  | string {depth : Nat} {pieces : List Piece} : (Piece.text? pieces).isSome = true →
      Readable depth (.string pieces)
  | array {depth : Nat} {items : List Tree} : (∀ t ∈ items, Readable depth t) →
      Readable (depth + 1) (.array items)
  | object {depth : Nat} {members : List (List Piece × Tree)} :
      (∀ m ∈ members, (Piece.text? m.1).isSome = true) → (∀ m ∈ members, Readable depth m.2) →
      Readable (depth + 1) (.object members)

namespace Tree

mutual

/-- A tree stands for something exactly if it is within the limits. -/
theorem value?_isSome_iff (depth : Nat) (t : Tree) :
    (value? depth t).isSome = true ↔ Readable depth t := by
  match t, depth with
  | null, _ => exact iff_of_true rfl .null
  | bool value, _ => exact iff_of_true rfl (.bool value)
  | number l, _ =>
      rw [value?, l.value?_isSome_iff]
      exact ⟨.number, fun | .number h => h⟩
  | string pieces, _ =>
      rw [value?, Option.isSome_map]
      exact ⟨.string, fun | .string h => h⟩
  | array items, 0 => exact iff_of_false (by simp [value?]) nofun
  | object members, 0 => exact iff_of_false (by simp [value?]) nofun
  | array items, depth + 1 =>
      rw [value?, Option.isSome_map, itemValues?_isSome_iff depth items]
      exact ⟨.array, fun | .array h => h⟩
  | object members, depth + 1 =>
      rw [value?, Option.isSome_map, memberValues?_isSome_iff depth members]
      exact ⟨fun h => .object (fun m hm => (h m hm).1) fun m hm => (h m hm).2,
        fun | .object hnames hvalues => fun m hm => ⟨hnames m hm, hvalues m hm⟩⟩
termination_by structural t

theorem itemValues?_isSome_iff (depth : Nat) (items : List Tree) :
    (itemValues? depth items).isSome = true ↔ ∀ t ∈ items, Readable depth t := by
  match items with
  | [] => exact iff_of_true rfl (by simp)
  | t :: items =>
      rw [itemValues?, List.forall_mem_cons, ← value?_isSome_iff depth t,
        ← itemValues?_isSome_iff depth items]
      cases value? depth t <;> cases itemValues? depth items <;> simp
termination_by structural items

theorem memberValues?_isSome_iff (depth : Nat) (members : List (List Piece × Tree)) :
    (memberValues? depth members).isSome = true ↔
      ∀ m ∈ members, (Piece.text? m.1).isSome = true ∧ Readable depth m.2 := by
  match members with
  | [] => exact iff_of_true rfl (by simp)
  | (name, t) :: members =>
      rw [memberValues?, memberValue?, List.forall_mem_cons, ← value?_isSome_iff depth t,
        ← memberValues?_isSome_iff depth members]
      cases Piece.text? name <;> cases value? depth t <;> cases memberValues? depth members <;> simp
termination_by structural members

end

/-! ### Members -/

theorem readable_of_mem {depth : Nat} {members : List (List Piece × Tree)}
    (h : Readable (depth + 1) (.object members)) {m : List Piece × Tree} (hm : m ∈ members) :
    (Piece.text? m.1).isSome = true ∧ Readable depth m.2 := by
  cases h with
  | object hnames hvalues => exact ⟨hnames m hm, hvalues m hm⟩

/-- The value of the last member of the name, whichever way the name is spelled. -/
def lastNamed (members : List (List Piece × Tree)) (name : List Char) : Option Tree :=
  (members.reverse.find? fun m => Piece.text? m.1 == some name).map (·.2)

theorem memberValue?_eq_some {depth : Nat} {m : List Piece × Tree} {p : List Char × Json}
    (h : memberValue? depth m = some p) :
    Piece.text? m.1 = some p.1 ∧ value? depth m.2 = some p.2 := by
  obtain ⟨name, t⟩ := m
  rw [memberValue?, Option.bind_eq_some_iff] at h
  obtain ⟨text, htext, h⟩ := h
  obtain ⟨j, hj, rfl⟩ := Option.map_eq_some_iff.mp h
  exact ⟨htext, hj⟩

theorem forall₂_memberValues {depth : Nat} {members : List (List Piece × Tree)}
    {values : List (List Char × Json)} (h : memberValues? depth members = some values) :
    List.Forall₂ (fun m p => memberValue? depth m = some p) members values := by
  induction members generalizing values with
  | nil =>
      obtain rfl := Option.some.inj h
      exact .nil
  | cons m members ih =>
      rw [memberValues?, Option.bind_eq_some_iff] at h
      obtain ⟨p, hp, h⟩ := h
      obtain ⟨more, hmore, rfl⟩ := Option.map_eq_some_iff.mp h
      exact .cons hp (ih hmore)

theorem find?_named {depth : Nat} {members : List (List Piece × Tree)}
    {values : List (List Char × Json)} (name : List Char)
    (h : List.Forall₂ (fun m p => memberValue? depth m = some p) members values) :
    (values.find? (·.1 == name)).map (·.2) =
      ((members.find? fun m => Piece.text? m.1 == some name).map (·.2)).bind (value? depth) := by
  induction h with
  | nil => rfl
  | @cons m p members values hp _ ih =>
      obtain ⟨hname, hvalue⟩ := memberValue?_eq_some hp
      have hsame : (Piece.text? m.1 == some name) = (p.1 == name) := by simp [hname]
      rw [List.find?_cons, List.find?_cons, hsame]
      cases p.1 == name with
      | true => simp [hvalue]
      | false => exact ih

/-- A look-up in an object finds what the last member of the name stands for. -/
theorem get?_value {depth : Nat} {members : List (List Piece × Tree)} {j : Json}
    (h : value? depth (.object members) = some j) (name : List Char) :
    j.get? name = (lastNamed members name).bind (value? (depth - 1)) := by
  cases depth with
  | zero => simp [value?] at h
  | succ depth =>
      rw [value?] at h
      obtain ⟨values, hvalues, rfl⟩ := Option.map_eq_some_iff.mp h
      exact find?_named name (List.forall₂_reverse_iff.mpr (forall₂_memberValues hvalues))

theorem isObject_value {depth : Nat} {members : List (List Piece × Tree)} {j : Json}
    (h : value? depth (.object members) = some j) : j.isObject = true := by
  cases depth with
  | zero => simp [value?] at h
  | succ depth =>
      rw [value?] at h
      obtain ⟨values, -, rfl⟩ := Option.map_eq_some_iff.mp h
      rfl

/-- Only the literal of an integer stands for one. -/
theorem value?_eq_integer_iff (depth : Nat) (t : Tree) (n : Int) :
    value? depth t = some (.integer n) ↔
      ∃ l, t = .number l ∧ l.IsInteger n ∧ -2 ^ 63 ≤ n ∧ n < 2 ^ 64 := by
  cases t with
  | number l =>
      simp [value?, l.value?_eq_some_iff, l.integer?_eq_some_iff]
  | array items => cases depth <;> simp [value?]
  | object members => cases depth <;> simp [value?]
  | null => simp [value?]
  | bool value => simp [value?]
  | string pieces => simp [value?]

def text? : Tree → Option (List Char)
  | string pieces => Piece.text? pieces
  | _ => none

/-- Only a string stands for a text. -/
theorem value?_eq_string_iff (depth : Nat) (t : Tree) (text : List Char) :
    value? depth t = some (.string text) ↔ t.text? = some text := by
  cases t with
  | number l => simp [value?, text?, l.value?_eq_some_iff]
  | array items => cases depth <;> simp [value?, text?]
  | object members => cases depth <;> simp [value?, text?]
  | null => simp [value?, text?]
  | bool value => simp [value?, text?]
  | string pieces => simp [value?, text?]

theorem value?_bind_text? (depth : Nat) (t : Tree) : (value? depth t).bind Json.text? = t.text? := by
  ext text
  rw [← value?_eq_string_iff depth t text, Option.bind_eq_some_iff]
  constructor
  · rintro ⟨j, hj, htext⟩
    cases j <;> simp_all [Json.text?]
  · exact fun h => ⟨_, h, rfl⟩

end Tree

end LoginGateway.Json
