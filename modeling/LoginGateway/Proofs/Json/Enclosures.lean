import LoginGateway.Json.Enclosure
import LoginGateway.Proofs.Json.Grammar

/-!
Enclosures. A text is longer than every text in its document, so enclosures are opened one by one
until none is left, and the count of levels is never what ends it. A document in which no object
begins with the reserved name stands for itself. Main statements: `read?_eq`, `read?_of_spells` and
`read?_of_reserved`.
-/

namespace LoginGateway.Json

/-! ### The texts in a document -/

/-- All texts in the document have fewer characters. -/
inductive Within (n : Nat) : Json → Prop
  | null : Within n .null
  | bool (b : Bool) : Within n (.bool b)
  | integer (value : Int) : Within n (.integer value)
  | decimal (written : List Char) : Within n (.decimal written)
  | string {text : List Char} : text.length < n → Within n (.string text)
  | array {items : List Json} : (∀ j ∈ items, Within n j) → Within n (.array items)
  | object {members : List (List Char × Json)} : (∀ m ∈ members, Within n m.2) →
      Within n (.object members)

theorem Within.mono {n m : Nat} {j : Json} (h : Within n j) (hle : n ≤ m) : Within m j := by
  induction h with
  | null => exact .null
  | bool b => exact .bool b
  | integer value => exact .integer value
  | decimal written => exact .decimal written
  | string hlength => exact .string (hlength.trans_le hle)
  | array _ ih => exact .array ih
  | object _ ih => exact .object ih

/-- What is read off the front of a text leaves a text that is not longer, and has a property that
depends on how long the text was. -/
def Bounded {α : Type} (item : List Char → Option (α × List Char)) (p : Nat → α → Prop) : Prop :=
  ∀ s a rest, item s = some (a, rest) → rest.length ≤ s.length ∧ p s.length a

theorem length_skipBlanks_le (s : List Char) : (skipBlanks s).length ≤ s.length :=
  (List.dropWhile_suffix _).length_le

theorem length_dropDigits_le (s : List Char) : (s.dropWhile Char.isDigit).length ≤ s.length :=
  (List.dropWhile_suffix _).length_le

theorem length_readFraction {s rest : List Char} {f : Option (List Char)}
    (h : readFraction s = some (f, rest)) : rest.length ≤ s.length := by
  unfold readFraction at h
  split at h
  · next more =>
      simp only [Option.ite_none_left_eq_some, Option.some.injEq, Prod.mk.injEq] at h
      obtain ⟨-, -, rfl⟩ := h
      exact (length_dropDigits_le more).trans (Nat.le_succ _)
  · cases h
    exact le_rfl

theorem length_readSign_le (s : List Char) : (readSign s).2.length ≤ s.length := by
  unfold readSign
  split <;> simp

theorem length_readExponent {s rest : List Char} {e : Option Int}
    (h : readExponent s = some (e, rest)) : rest.length ≤ s.length := by
  unfold readExponent at h
  split at h
  · cases h
    exact le_rfl
  · next c more =>
      split at h
      · simp only [Option.ite_none_left_eq_some, Option.some.injEq, Prod.mk.injEq] at h
        obtain ⟨-, -, rfl⟩ := h
        exact ((length_dropDigits_le _).trans (length_readSign_le more)).trans (Nat.le_succ _)
      · cases h
        exact le_rfl

theorem length_readNumeral {s rest : List Char} {n : Numeral}
    (h : readNumeral s = some (n, rest)) : rest.length ≤ s.length := by
  have hunsigned : (if s.head? == some '-' then s.tail else s).length ≤ s.length := by
    split <;> simp
  simp only [readNumeral, Option.bind_eq_bind] at h
  generalize (if s.head? == some '-' then s.tail else s) = unsigned at h hunsigned
  split at h
  · cases h
  · obtain ⟨⟨fraction, behind⟩, hfraction, h⟩ := Option.bind_eq_some_iff.mp h
    obtain ⟨⟨exponent, behind'⟩, hexponent, h⟩ := Option.bind_eq_some_iff.mp h
    cases h
    exact (length_readExponent hexponent).trans
      ((length_readFraction hfraction).trans ((length_dropDigits_le _).trans hunsigned))

theorem readNumber_bounded : Bounded readNumber Within := by
  intro s j rest h
  rw [readNumber] at h
  obtain ⟨⟨n, behind⟩, hnumeral, h⟩ := Option.bind_eq_some_iff.mp h
  have hlength := length_readNumeral hnumeral
  dsimp only at h
  split at h
  · cases h
    exact ⟨hlength, .integer _⟩
  · split at h
    · cases h
    · cases h
      exact ⟨hlength, .decimal _⟩

/-- A character in front of a text that was read. -/
theorem length_readText_cons {x : Option Char} {s more text rest : List Char}
    (ih : ∀ {text rest}, readText more = some (text, rest) → text.length + rest.length < more.length)
    (hmore : more.length < s.length)
    (h : (do
      let x ← x
      let (text, rest) ← readText more
      some (x :: text, rest)) = some (text, rest)) : text.length + rest.length < s.length := by
  obtain ⟨c, -, h⟩ := Option.bind_eq_some_iff.mp h
  obtain ⟨⟨text', rest'⟩, hread, h⟩ := Option.bind_eq_some_iff.mp h
  cases h
  have hlength := ih hread
  rw [List.length_cons]
  omega

theorem length_readText {s text rest : List Char} (h : readText s = some (text, rest)) :
    text.length + rest.length < s.length := by
  fun_induction readText s generalizing text rest with
  | case1 =>
      cases h
      simp
  | case2 | case7 | case9 => cases h
  | case3 _ _ _ _ _ _ _ _ _ _ _ _ ih =>
      exact length_readText_cons ih (by simp only [List.length_cons]; omega) h
  | case4 _ _ _ _ _ _ _ _ _ _ _ _ ih => exact length_readText_cons ih (by simp) h
  | case5 _ _ _ _ _ _ ih => exact length_readText_cons ih (by simp only [List.length_cons]; omega) h
  | case6 _ _ _ _ ih => exact length_readText_cons ih (by simp only [List.length_cons]; omega) h
  | case8 c _ _ _ _ _ _ ih => exact length_readText_cons (x := some c) ih (by simp) h

theorem readScalar_bounded : Bounded readScalar Within := by
  intro s j rest h
  unfold readScalar at h
  split at h
  · cases h
    exact ⟨by simp only [List.length_cons]; omega, .null⟩
  · cases h
    exact ⟨by simp only [List.length_cons]; omega, .bool _⟩
  · cases h
    exact ⟨by simp only [List.length_cons]; omega, .bool _⟩
  · obtain ⟨⟨text, behind⟩, htext, h⟩ := Option.map_eq_some_iff.mp h
    cases h
    have hlength := length_readText htext
    simp only [List.length_cons]
    exact ⟨by omega, .string (by omega)⟩
  · exact readNumber_bounded _ _ _ h

section rows

variable {α : Type} {item : List Char → Option (α × List Char)} {p : Nat → α → Prop}

theorem readItems_bounded (hitem : Bounded item p) (hmono : ∀ n m a, n ≤ m → p n a → p m a)
    (close : Char) (most : Nat) :
    Bounded (readItems item close most) fun n items => ∀ a ∈ items, p n a := by
  induction most with
  | zero =>
      intro s items rest h
      cases h
  | succ most ih =>
      intro s items rest h
      rw [readItems] at h
      obtain ⟨⟨a, behind⟩, ha, h⟩ := Option.bind_eq_some_iff.mp h
      obtain ⟨hlength, hp⟩ := hitem _ _ _ ha
      have hskip := length_skipBlanks_le behind
      dsimp only at h
      split at h
      · next more hmore =>
          obtain ⟨⟨items', rest'⟩, hitems, h⟩ := Option.bind_eq_some_iff.mp h
          dsimp only at h
          cases h
          obtain ⟨hlength', hp'⟩ := ih _ _ _ hitems
          rw [hmore, List.length_cons] at hskip
          refine ⟨by omega, List.forall_mem_cons.mpr ⟨hp, fun b hb => ?_⟩⟩
          exact hmono _ _ b (by omega) (hp' b hb)
      · next c more _ hmore =>
          rw [Option.ite_none_right_eq_some] at h
          obtain ⟨-, h⟩ := h
          cases h
          rw [hmore, List.length_cons] at hskip
          exact ⟨by omega, List.forall_mem_cons.mpr ⟨hp, List.forall_mem_nil _⟩⟩
      · cases h

theorem readParts_bounded (hitem : Bounded item p) (hmono : ∀ n m a, n ≤ m → p n a → p m a)
    (close : Char) : Bounded (readParts item close) fun n items => ∀ a ∈ items, p n a := by
  intro s items rest h
  have hskip := length_skipBlanks_le s
  unfold readParts at h
  split at h
  · next c more hmore =>
      split at h
      · cases h
        rw [hmore, List.length_cons] at hskip
        exact ⟨by omega, nofun⟩
      · exact readItems_bounded hitem hmono close _ _ _ _ h
  · cases h

end rows

theorem readMember_bounded {value : List Char → Option (Json × List Char)}
    (hvalue : Bounded value Within) :
    Bounded (readMember value) fun n m => Within n m.2 := by
  intro s m rest h
  have hskip := length_skipBlanks_le s
  unfold readMember at h
  split at h
  · next more hmore =>
      obtain ⟨⟨name, behind⟩, hname, h⟩ := Option.bind_eq_some_iff.mp h
      have hlength := length_readText hname
      have hskip' := length_skipBlanks_le behind
      dsimp only at h
      split at h
      · next more' hmore' =>
          obtain ⟨⟨j, rest'⟩, hj, h⟩ := Option.bind_eq_some_iff.mp h
          dsimp only at h
          cases h
          obtain ⟨hlength', hwithin⟩ := hvalue _ _ _ hj
          rw [hmore, List.length_cons] at hskip
          rw [hmore', List.length_cons] at hskip'
          exact ⟨by omega, hwithin.mono (by omega)⟩
      · cases h
  · cases h

theorem readValue_bounded (depth : Nat) : Bounded (readValue depth) Within := by
  induction depth with
  | zero =>
      intro s j rest h
      have hskip := length_skipBlanks_le s
      obtain ⟨hlength, hwithin⟩ := readScalar_bounded _ _ _ h
      exact ⟨hlength.trans hskip, hwithin.mono hskip⟩
  | succ depth ih =>
      intro s j rest h
      have hskip := length_skipBlanks_le s
      rw [readValue] at h
      split at h
      · next more hmore =>
          obtain ⟨⟨items, behind⟩, hitems, h⟩ := Option.map_eq_some_iff.mp h
          dsimp only at h
          cases h
          obtain ⟨hlength, hwithin⟩ :=
            readParts_bounded ih (fun _ _ _ hle hj => Within.mono hj hle) ']' _ _ _ hitems
          rw [hmore, List.length_cons] at hskip
          exact ⟨by omega, .array fun j hj => (hwithin j hj).mono (by omega)⟩
      · next more hmore =>
          obtain ⟨⟨members, behind⟩, hmembers, h⟩ := Option.map_eq_some_iff.mp h
          dsimp only at h
          cases h
          obtain ⟨hlength, hwithin⟩ := readParts_bounded (readMember_bounded ih)
            (fun _ _ _ hle hm => Within.mono hm hle) '\x7d' _ _ _ hmembers
          rw [hmore, List.length_cons] at hskip
          exact ⟨by omega, .object fun m hm => (hwithin m hm).mono (by omega)⟩
      · obtain ⟨hlength, hwithin⟩ := readScalar_bounded _ _ _ h
        exact ⟨hlength.trans hskip, hwithin.mono hskip⟩

/-- A text is longer than every text in the document that it writes. -/
theorem within_of_parse? {s : List Char} {j : Json} (h : parse? s = some j) :
    Within s.length j := by
  rw [parse?] at h
  split at h
  · next hread =>
      rw [Option.ite_none_right_eq_some] at h
      obtain ⟨-, h⟩ := h
      cases h
      exact (readValue_bounded maxDepth _ _ _ hread).2
  · cases h

/-! ### Levels -/

section levels

variable {read read' : List Char → Option Json}

theorem openedItems?_congr {items : List Json}
    (h : ∀ j ∈ items, opened? read j = opened? read' j) :
    openedItems? read items = openedItems? read' items := by
  induction items with
  | nil => rfl
  | cons j items ih =>
      obtain ⟨hj, hitems⟩ := List.forall_mem_cons.mp h
      rw [openedItems?, openedItems?, hj, ih hitems]

theorem openedMembers?_congr {members : List (List Char × Json)}
    (h : ∀ m ∈ members, opened? read m.2 = opened? read' m.2) :
    openedMembers? read members = openedMembers? read' members := by
  induction members with
  | nil => rfl
  | cons m members ih =>
      obtain ⟨hm, hmembers⟩ := List.forall_mem_cons.mp h
      rw [openedMembers?, openedMembers?, openedMember?, openedMember?, hm, ih hmembers]

theorem mem_of_enclosed? {members : List (List Char × Json)} {text : List Char}
    (h : enclosed? members = some text) : ∃ name, members = [(name, .string text)] := by
  unfold enclosed? at h
  split at h
  · next name _ =>
      cases h
      exact ⟨name, rfl⟩
  · cases h

/-- Only the texts in the document are ever read. -/
theorem opened?_congr {n : Nat} {j : Json} (h : Within n j)
    (hread : ∀ text : List Char, text.length < n → read text = read' text) :
    opened? read j = opened? read' j := by
  induction h with
  | null | bool | integer | decimal | string => rfl
  | array _ ih => rw [opened?, opened?, openedItems?_congr ih]
  | @object members hmembers ih =>
      rw [opened?, opened?, openedMembers?_congr ih]
      split
      · refine Option.bind_congr fun text htext => hread text ?_
        obtain ⟨name, rfl⟩ := mem_of_enclosed? htext
        cases hmembers _ List.mem_cons_self with
        | string hlength => exact hlength
      · rfl

/-- More levels than the text has characters are all the same. -/
theorem readWithin_congr {levels levels' : Nat} {s : List Char} (h : s.length < levels)
    (h' : s.length < levels') : readWithin levels s = readWithin levels' s := by
  induction levels generalizing levels' s with
  | zero => cases h
  | succ levels ih =>
      cases levels' with
      | zero => cases h'
      | succ levels' =>
          rw [readWithin, readWithin]
          refine Option.bind_congr fun j hj => opened?_congr (within_of_parse? hj) fun text ht => ?_
          exact ih (by omega) (by omega)

end levels

/-- A text stands for the document that it writes, with what its enclosures stand for. -/
theorem read?_eq (s : List Char) : read? s = (parse? s).bind (opened? read?) := by
  rw [read?, readWithin]
  refine Option.bind_congr fun j hj => opened?_congr (within_of_parse? hj) fun text htext => ?_
  exact readWithin_congr htext (Nat.lt_succ_self _)

/-! ### Documents without enclosures -/

/-- No object in the tree begins with the reserved name. -/
inductive Unreserved : Tree → Prop
  | null : Unreserved .null
  | bool (value : Bool) : Unreserved (.bool value)
  | number (l : Literal) : Unreserved (.number l)
  | string (pieces : List Piece) : Unreserved (.string pieces)
  | array {items : List Tree} : (∀ t ∈ items, Unreserved t) → Unreserved (.array items)
  | object {members : List (List Piece × Tree)} :
      (∀ m ∈ members.head?, Piece.text? m.1 ≠ some reservedName) →
      (∀ m ∈ members, Unreserved m.2) → Unreserved (.object members)

section opened

variable {read : List Char → Option Json}

theorem openedItems?_values {depth : Nat} {items : List Tree} {values : List Json}
    (h : Tree.itemValues? depth items = some values)
    (hitems : ∀ t ∈ items, ∀ j, t.value? depth = some j → opened? read j = some j) :
    openedItems? read values = some values := by
  induction items generalizing values with
  | nil =>
      obtain rfl := Option.some.inj h
      rfl
  | cons t items ih =>
      obtain ⟨ht, hitems⟩ := List.forall_mem_cons.mp hitems
      rw [Tree.itemValues?, Option.bind_eq_some_iff] at h
      obtain ⟨j, hj, h⟩ := h
      obtain ⟨more, hmore, rfl⟩ := Option.map_eq_some_iff.mp h
      rw [openedItems?, ht j hj, ih hmore hitems]
      rfl

theorem openedMembers?_values {depth : Nat} {members : List (List Piece × Tree)}
    {values : List (List Char × Json)} (h : Tree.memberValues? depth members = some values)
    (hmembers : ∀ m ∈ members, ∀ j, m.2.value? depth = some j → opened? read j = some j) :
    openedMembers? read values = some values := by
  induction members generalizing values with
  | nil =>
      obtain rfl := Option.some.inj h
      rfl
  | cons m members ih =>
      obtain ⟨hm, hmembers⟩ := List.forall_mem_cons.mp hmembers
      rw [Tree.memberValues?, Option.bind_eq_some_iff] at h
      obtain ⟨p, hp, h⟩ := h
      obtain ⟨more, hmore, rfl⟩ := Option.map_eq_some_iff.mp h
      obtain ⟨-, hvalue⟩ := Tree.memberValue?_eq_some hp
      rw [openedMembers?, openedMember?, hm p.2 hvalue, ih hmore hmembers]
      rfl

/-- The values of members begin with the same name as the members. -/
theorem head?_memberValues {depth : Nat} {members : List (List Piece × Tree)}
    {values : List (List Char × Json)} (h : Tree.memberValues? depth members = some values) :
    ∀ p ∈ values.head?, ∃ m ∈ members.head?, Piece.text? m.1 = some p.1 := by
  cases members with
  | nil =>
      obtain rfl := Option.some.inj h
      nofun
  | cons m members =>
      rw [Tree.memberValues?, Option.bind_eq_some_iff] at h
      obtain ⟨p, hp, h⟩ := h
      obtain ⟨more, -, rfl⟩ := Option.map_eq_some_iff.mp h
      rintro _ ⟨⟩
      exact ⟨m, rfl, (Tree.memberValue?_eq_some hp).1⟩

/-- What a tree without enclosures stands for has none. -/
theorem opened?_value {t : Tree} (h : Unreserved t) {depth : Nat} {j : Json}
    (hvalue : t.value? depth = some j) : opened? read j = some j := by
  induction h generalizing depth j with
  | null | bool =>
      rw [Tree.value?] at hvalue
      cases hvalue
      rfl
  | number l =>
      rw [Tree.value?, l.value?_eq_some_iff] at hvalue
      obtain ⟨_, -, rfl⟩ | ⟨-, -, rfl⟩ := hvalue <;> rfl
  | string pieces =>
      rw [Tree.value?] at hvalue
      obtain ⟨_, -, rfl⟩ := Option.map_eq_some_iff.mp hvalue
      rfl
  | array _ ih =>
      cases depth with
      | zero => simp [Tree.value?] at hvalue
      | succ depth =>
          rw [Tree.value?] at hvalue
          obtain ⟨values, hvalues, rfl⟩ := Option.map_eq_some_iff.mp hvalue
          rw [opened?, openedItems?_values hvalues fun t ht j hj => ih t ht hj]
          rfl
  | object hhead _ ih =>
      cases depth with
      | zero => simp [Tree.value?] at hvalue
      | succ depth =>
          rw [Tree.value?] at hvalue
          obtain ⟨values, hvalues, rfl⟩ := Option.map_eq_some_iff.mp hvalue
          have hplain : isEnclosure values = false := by
            rw [isEnclosure, Option.any_eq_false]
            intro p hp
            obtain ⟨m, hm, hname⟩ := head?_memberValues hvalues p hp
            have hne := hhead m hm
            rw [hname] at hne
            simpa using hne
          rw [opened?, hplain, openedMembers?_values hvalues fun m hm j hj => ih m hm hj]
          rfl

end opened

theorem read?_of_spells {t : Tree} {text : List Char} (h : SpellsElement t text)
    (hplain : Unreserved t) : read? text = t.value? maxDepth := by
  rw [read?_eq, parse?_of_spells h]
  cases hvalue : t.value? maxDepth with
  | none => rfl
  | some j => exact opened?_value hplain hvalue

/-- An object that begins with the reserved name stands for the document that its text writes, and
for nothing if it has no text or anything else. -/
theorem read?_of_reserved {name : List Piece} {t : Tree} {members : List (List Piece × Tree)}
    {text : List Char} (h : SpellsElement (.object ((name, t) :: members)) text)
    (hname : Piece.text? name = some reservedName) :
    read? text = if members.isEmpty then t.text?.bind read? else none := by
  have hopened (j : Json) (values : List (List Char × Json)) :
      opened? read? (.object ((reservedName, j) :: values)) =
        (enclosed? ((reservedName, j) :: values)).bind read? := by
    rw [opened?]
    exact if_pos (by simp [isEnclosure])
  rw [read?_eq, parse?_of_spells h, show maxDepth = 126 + 1 from rfl, Tree.value?,
    Tree.memberValues?, Tree.memberValue?, hname, Option.bind_some]
  cases members with
  | nil =>
      have henclosed (j : Json) : enclosed? [(reservedName, j)] = j.text? := by
        cases j <;> rfl
      rw [List.isEmpty_nil, if_pos rfl, ← Tree.value?_bind_text? 126 t]
      cases t.value? 126 with
      | none => rfl
      | some j => exact (hopened j []).trans (by rw [henclosed]; rfl)
  | cons m members =>
      have henclosed (j : Json) (p : List Char × Json) (values : List (List Char × Json)) :
          enclosed? ((reservedName, j) :: p :: values) = none := by
        cases j <;> rfl
      rw [List.isEmpty_cons, if_neg (by decide)]
      cases t.value? 126 with
      | none => rfl
      | some j =>
          rw [Tree.memberValues?]
          cases Tree.memberValue? 126 m with
          | none => rfl
          | some p =>
              cases Tree.memberValues? 126 members with
              | none => rfl
              | some values => exact (hopened j (p :: values)).trans (by rw [henclosed]; rfl)

end LoginGateway.Json
