import LoginGateway.Proofs.Json.Trees

/-!
The grammar of JSON. A text may spell a tree with blanks around every value and every name. The reader
follows the grammar rule by rule: of a text that spells a tree it makes what the tree stands for, and
fails if the tree stands for nothing. Main statement: `parse?_of_spells`.
-/

namespace LoginGateway.Json

def Blank (s : List Char) : Prop := ∀ c ∈ s, isBlank c = true

mutual

/-- The text spells the tree, from its first character to its last. -/
inductive Spells : Tree → List Char → Prop
  | null : Spells .null "null".toList
  | bool (value : Bool) : Spells (.bool value) (if value then "true" else "false").toList
  | number (l : Literal) : Spells (.number l) l.write
  | string (pieces : List Piece) : Spells (.string pieces) (quoted pieces)
  | emptyArray {inner : List Char} : Blank inner → Spells (.array []) ('[' :: (inner ++ [']']))
  | array {items : List Tree} {inner : List Char} : SpellsItems items inner →
      Spells (.array items) ('[' :: (inner ++ [']']))
  | emptyObject {inner : List Char} : Blank inner →
      Spells (.object []) ('\x7b' :: (inner ++ ['\x7d']))
  | object {members : List (List Piece × Tree)} {inner : List Char} : SpellsMembers members inner →
      Spells (.object members) ('\x7b' :: (inner ++ ['\x7d']))

/-- The same with blanks around it. -/
inductive SpellsElement : Tree → List Char → Prop
  | padded {t : Tree} {before text after : List Char} : Blank before → Spells t text → Blank after →
      SpellsElement t (before ++ text ++ after)

inductive SpellsItems : List Tree → List Char → Prop
  | one {t : Tree} {text : List Char} : SpellsElement t text → SpellsItems [t] text
  | cons {t : Tree} {text : List Char} {items : List Tree} {more : List Char} :
      SpellsElement t text → SpellsItems items more → SpellsItems (t :: items) (text ++ ',' :: more)

inductive SpellsMember : List Piece × Tree → List Char → Prop
  | named {name : List Piece} {t : Tree} {before between text : List Char} : Blank before →
      Blank between → SpellsElement t text →
      SpellsMember (name, t) (before ++ quoted name ++ between ++ ':' :: text)

inductive SpellsMembers : List (List Piece × Tree) → List Char → Prop
  | one {m : List Piece × Tree} {text : List Char} : SpellsMember m text → SpellsMembers [m] text
  | cons {m : List Piece × Tree} {text : List Char} {members : List (List Piece × Tree)}
      {more : List Char} : SpellsMember m text → SpellsMembers members more →
      SpellsMembers (m :: members) (text ++ ',' :: more)

end

theorem blank_nil : Blank [] := nofun

theorem Spells.element {t : Tree} {text : List Char} (h : Spells t text) : SpellsElement t text := by
  simpa using SpellsElement.padded blank_nil h blank_nil

namespace Tree

mutual

/-- A text of the tree without blanks. -/
def write : Tree → List Char
  | null => "null".toList
  | bool value => (if value then "true" else "false").toList
  | number l => l.write
  | string pieces => quoted pieces
  | array items => '[' :: (writeItems items ++ [']'])
  | object members => '\x7b' :: (writeMembers members ++ ['\x7d'])

def writeItems : List Tree → List Char
  | [] => []
  | [t] => write t
  | t :: next :: items => write t ++ ',' :: writeItems (next :: items)

def writeMember : List Piece × Tree → List Char
  | (name, t) => quoted name ++ ':' :: write t

def writeMembers : List (List Piece × Tree) → List Char
  | [] => []
  | [m] => writeMember m
  | m :: next :: members => writeMember m ++ ',' :: writeMembers (next :: members)

end

mutual

/-- Every tree is spelled by some text. -/
theorem spells_write (t : Tree) : Spells t t.write := by
  match t with
  | null => exact .null
  | bool value => exact .bool value
  | number l => exact .number l
  | string pieces => exact .string pieces
  | array [] => exact .emptyArray blank_nil
  | object [] => exact .emptyObject blank_nil
  | array (t :: items) => exact .array (spellsItems_write (t :: items) (by simp))
  | object (m :: members) => exact .object (spellsMembers_write (m :: members) (by simp))
termination_by structural t

theorem spellsItems_write (items : List Tree) (h : items ≠ []) :
    SpellsItems items (writeItems items) := by
  match items with
  | [] => exact absurd rfl h
  | [t] => exact .one (spells_write t).element
  | t :: next :: items =>
      exact .cons (spells_write t).element (spellsItems_write (next :: items) (by simp))
termination_by structural items

theorem spellsMember_write (m : List Piece × Tree) : SpellsMember m (writeMember m) := by
  match m with
  | (name, t) =>
      simpa [writeMember] using SpellsMember.named blank_nil blank_nil (spells_write t).element
termination_by structural m

theorem spellsMembers_write (members : List (List Piece × Tree)) (h : members ≠ []) :
    SpellsMembers members (writeMembers members) := by
  match members with
  | [] => exact absurd rfl h
  | [m] => exact .one (spellsMember_write m)
  | m :: next :: members =>
      exact .cons (spellsMember_write m) (spellsMembers_write (next :: members) (by simp))
termination_by structural members

end

end Tree

/-! ### Blanks and commas -/

/-- A bracket that ends an array or an object. -/
def IsClose (c : Char) : Prop := c = ']' ∨ c = '\x7d'

/-- What may stand behind a value. -/
def Follows (rest : List Char) : Prop :=
  ∀ c ∈ rest.head?, isBlank c = true ∨ c = ',' ∨ IsClose c

/-- Behind its blanks, the text begins with something else than the closing bracket. -/
def Begins (close : Char) (text : List Char) : Prop :=
  ∃ before c tail, text = before ++ c :: tail ∧ Blank before ∧ isBlank c = false ∧ c ≠ close

theorem skipBlanks_append {before : List Char} (h : Blank before) (s : List Char) :
    skipBlanks (before ++ s) = skipBlanks s := List.dropWhile_append_of_pos h

theorem Blank.follows {after rest : List Char} (h : Blank after) (hrest : Follows rest) :
    Follows (after ++ rest) := by
  cases after with
  | nil => exact hrest
  | cons c after =>
      rintro c ⟨⟩
      exact .inl (h _ List.mem_cons_self)

theorem follows_comma (rest : List Char) : Follows (',' :: rest) := by
  rintro c ⟨⟩
  exact .inr (.inl rfl)

theorem IsClose.follows {close : Char} (h : IsClose close) (rest : List Char) :
    Follows (close :: rest) := by
  rintro c ⟨⟩
  exact .inr (.inr h)

theorem IsClose.isBlank_eq {close : Char} (h : IsClose close) : isBlank close = false := by
  rcases h with rfl | rfl <;> decide

theorem Follows.endsNumber {rest : List Char} (h : Follows rest) : EndsNumber rest := by
  intro c hc
  have hblank : ∀ c, isBlank c = true → c = ' ' ∨ c = '\n' ∨ c = '\t' ∨ c = '\r' := by
    simp [isBlank, or_assoc]
  have hcases : c = ' ' ∨ c = '\n' ∨ c = '\t' ∨ c = '\r' ∨ c = ',' ∨ c = ']' ∨ c = '\x7d' := by
    rcases h c hc with hc | hc
    · rcases hblank c hc with h | h | h | h <;> simp [h]
    · rcases hc with h | h | h <;> simp [h]
  rcases hcases with rfl | rfl | rfl | rfl | rfl | rfl | rfl <;> decide

/-! ### Rows -/

section rows

variable {α : Type} {item : List Char → Option (α × List Char)} {close : Char}
  {text more : List Char} {value : Option α} {values : Option (List α)}

/-- Of the text, the reader of an item makes this value, if it is one, and leaves blanks at most. -/
def ReadsItem (item : List Char → Option (α × List Char)) (value : Option α) (text : List Char) :
    Prop :=
  ∀ rest, Follows rest → ∃ after, Blank after ∧
    item (text ++ rest) = value.map fun a => (a, after ++ rest)

/-- The text is a row of items up to the closing bracket. It has more characters than commas. -/
def ReadsRow (item : List Char → Option (α × List Char)) (close : Char) (values : Option (List α))
    (text : List Char) : Prop :=
  ∀ most rest, text.length < most →
    readItems item close most (text ++ close :: rest) = values.map fun items => (items, rest)

/-- The same, and there may be no item. -/
def ReadsParts (item : List Char → Option (α × List Char)) (close : Char) (values : Option (List α))
    (text : List Char) : Prop :=
  ∀ rest, readParts item close (text ++ close :: rest) = values.map fun items => (items, rest)

theorem ReadsItem.one (h : ReadsItem item value text) (hclose : IsClose close) :
    ReadsRow item close (value.bind fun a => some [a]) text := by
  intro most rest hmost
  obtain ⟨most, rfl⟩ := Nat.exists_eq_add_of_le' (Nat.one_le_of_lt hmost)
  obtain ⟨after, hafter, hread⟩ := h (close :: rest) (hclose.follows rest)
  rw [readItems, hread]
  cases value with
  | none => rfl
  | some a =>
      simp only [Option.map_some, Option.bind_eq_bind, Option.bind_some, skipBlanks_append hafter,
        skipBlanks_of_head hclose.isBlank_eq]
      rcases hclose with rfl | rfl <;> rfl

theorem ReadsItem.cons (h : ReadsItem item value text) (hmore : ReadsRow item close values more) :
    ReadsRow item close (value.bind fun a => values.map (a :: ·)) (text ++ ',' :: more) := by
  intro most rest hmost
  obtain ⟨most, rfl⟩ := Nat.exists_eq_add_of_le' (Nat.one_le_of_lt hmost)
  have hlength : more.length < most := by
    simp only [List.length_append, List.length_cons] at hmost
    omega
  obtain ⟨after, hafter, hread⟩ := h (',' :: (more ++ close :: rest)) (follows_comma _)
  rw [List.append_assoc, List.cons_append, readItems, hread]
  cases value with
  | none => rfl
  | some a =>
      simp only [Option.map_some, Option.bind_eq_bind, Option.bind_some, skipBlanks_append hafter,
        skipBlanks_of_head (show isBlank ',' = false by decide), hmore most rest hlength]
      cases values <;> rfl

theorem readsParts_of_blank (hclose : IsClose close) (hinner : Blank text) :
    ReadsParts item close (some []) text := by
  intro rest
  rw [readParts, skipBlanks_append hinner, skipBlanks_of_head hclose.isBlank_eq]
  exact if_pos rfl

theorem ReadsRow.parts (h : ReadsRow item close values text) (hbegins : Begins close text) :
    ReadsParts item close values text := by
  intro rest
  obtain ⟨before, c, tail, htext, hbefore, hc, hne⟩ := hbegins
  have hlength : text.length < (text ++ close :: rest).length := by simp
  have hskip : skipBlanks (text ++ close :: rest) = c :: (tail ++ close :: rest) := by
    rw [htext, List.append_assoc, List.cons_append, skipBlanks_append hbefore,
      skipBlanks_of_head hc]
  rw [readParts, h _ rest hlength, hskip]
  exact if_neg hne

end rows

/-! ### Values -/

theorem readValue_scalar {c : Char} {before tail : List Char} (hbefore : Blank before)
    (hc : isBlank c = false) (harray : c ≠ '[') (hobject : c ≠ '\x7b') (depth : Nat) :
    readValue depth (before ++ c :: tail) = readScalar (c :: tail) := by
  cases depth with
  | zero => rw [readValue, skipBlanks_append hbefore, skipBlanks_of_head hc]
  | succ depth =>
      rw [readValue, skipBlanks_append hbefore, skipBlanks_of_head hc]
      split
      · simp_all
      · simp_all
      · rfl

theorem readScalar_quoted (pieces : List Piece) (rest : List Char) :
    readScalar (quoted pieces ++ rest) =
      ((Piece.text? pieces).map Json.string).map fun j => (j, rest) := by
  rw [quoted, List.cons_append, List.append_assoc, readScalar, List.singleton_append,
    readText_write, Option.map_map, Option.map_map]
  rfl

/-- A literal begins with a digit or a minus sign. -/
theorem Literal.exists_cons (l : Literal) :
    ∃ c tail, l.write = c :: tail ∧ (c == '-' || c.isDigit) = true := by
  obtain ⟨c, tail, htext, hc⟩ := l.whole.exists_cons
  rw [Literal.write]
  cases l.negative with
  | true => exact ⟨'-', _, rfl, rfl⟩
  | false => exact ⟨c, _, by rw [htext]; rfl, by simp [hc]⟩

theorem ne_of_number {c d : Char} (hc : (c == '-' || c.isDigit) = true)
    (hd : (d == '-' || d.isDigit) = false) : c ≠ d := by
  rintro rfl
  simp [hc] at hd

theorem isBlank_of_number {c : Char} (hc : (c == '-' || c.isDigit) = true) : isBlank c = false := by
  simp only [isBlank, Bool.or_eq_false_iff, beq_eq_false_iff_ne]
  exact ⟨⟨⟨ne_of_number hc rfl, ne_of_number hc rfl⟩, ne_of_number hc rfl⟩, ne_of_number hc rfl⟩

theorem readScalar_of_number {c : Char} (hc : (c == '-' || c.isDigit) = true) (tail : List Char) :
    readScalar (c :: tail) = readNumber (c :: tail) := by
  have hn : c ≠ 'n' := ne_of_number hc rfl
  have ht : c ≠ 't' := ne_of_number hc rfl
  have hf : c ≠ 'f' := ne_of_number hc rfl
  have hq : c ≠ '"' := ne_of_number hc rfl
  rw [readScalar]
  all_goals simp_all

section brackets

variable {before : List Char} (hbefore : Blank before) (tail : List Char)
include hbefore

theorem readValue_array (depth : Nat) : readValue (depth + 1) (before ++ '[' :: tail) =
    (readParts (readValue depth) ']' tail).map fun p => (array p.1, p.2) := by
  rw [readValue, skipBlanks_append hbefore, skipBlanks_of_head (by decide)]
  rfl

theorem readValue_object (depth : Nat) : readValue (depth + 1) (before ++ '\x7b' :: tail) =
    (readParts (readMember (readValue depth)) '\x7d' tail).map fun p => (object p.1, p.2) := by
  rw [readValue, skipBlanks_append hbefore, skipBlanks_of_head (by decide)]
  rfl

theorem readValue_array_zero : readValue 0 (before ++ '[' :: tail) = none := by
  rw [readValue, skipBlanks_append hbefore, skipBlanks_of_head (by decide)]
  rfl

theorem readValue_object_zero : readValue 0 (before ++ '\x7b' :: tail) = none := by
  rw [readValue, skipBlanks_append hbefore, skipBlanks_of_head (by decide)]
  rfl

end brackets

theorem Spells.head {t : Tree} {text : List Char} (h : Spells t text) :
    ∃ c tail, text = c :: tail ∧ isBlank c = false ∧ c ≠ ']' ∧ c ≠ '\x7d' := by
  cases h with
  | null => exact ⟨'n', _, rfl, by decide⟩
  | bool value =>
      cases value with
      | true => exact ⟨'t', _, rfl, by decide⟩
      | false => exact ⟨'f', _, rfl, by decide⟩
  | number l =>
      obtain ⟨c, tail, hwrite, hc⟩ := l.exists_cons
      exact ⟨c, tail, hwrite, isBlank_of_number hc, ne_of_number hc rfl, ne_of_number hc rfl⟩
  | string pieces => exact ⟨'"', _, rfl, by decide⟩
  | emptyArray => exact ⟨'[', _, rfl, by decide⟩
  | array => exact ⟨'[', _, rfl, by decide⟩
  | emptyObject => exact ⟨'\x7b', _, rfl, by decide⟩
  | object => exact ⟨'\x7b', _, rfl, by decide⟩

theorem Begins.append {close : Char} {text : List Char} (h : Begins close text)
    (more : List Char) : Begins close (text ++ more) := by
  obtain ⟨before, c, tail, rfl, hrest⟩ := h
  exact ⟨before, c, tail ++ more, by simp, hrest⟩

theorem SpellsElement.begins {t : Tree} {text : List Char} (h : SpellsElement t text) :
    Begins ']' text := by
  cases h with
  | @padded _ before _ after hbefore ht _ =>
      obtain ⟨c, tail, rfl, hc, hbracket, -⟩ := ht.head
      exact ⟨before, c, tail ++ after, by simp, hbefore, hc, hbracket⟩

theorem SpellsItems.begins {items : List Tree} {text : List Char} (h : SpellsItems items text) :
    Begins ']' text := by
  cases h with
  | one ht => exact ht.begins
  | cons ht _ => exact ht.begins.append _

theorem SpellsMember.begins {m : List Piece × Tree} {text : List Char} (h : SpellsMember m text) :
    Begins '\x7d' text := by
  cases h with
  | @named name _ before between text hbefore _ _ =>
      exact ⟨before, '"', name.flatMap Piece.write ++ ['"'] ++ between ++ ':' :: text,
        by simp [quoted], hbefore, by decide, by decide⟩

theorem SpellsMembers.begins {members : List (List Piece × Tree)} {text : List Char}
    (h : SpellsMembers members text) : Begins '\x7d' text := by
  cases h with
  | one hm => exact hm.begins
  | cons hm _ => exact hm.begins.append _

/-! ### Reading, rule by rule -/

/-- The reader finds in the text what the tree stands for, behind blanks and before anything that may
follow a value. -/
def Reads (t : Tree) (text : List Char) : Prop :=
  ∀ (depth : Nat) (before rest : List Char), Blank before → Follows rest →
    readValue depth (before ++ (text ++ rest)) = (t.value? depth).map fun j => (j, rest)

section rules

variable {t : Tree} {items : List Tree} {name : List Piece} {members : List (List Piece × Tree)}
  {before between inner text after : List Char}

theorem reads_null : Reads .null "null".toList := by
  intro depth before rest hbefore _
  rw [Tree.value?]
  exact readValue_scalar hbefore (by decide) (by decide) (by decide) depth

theorem reads_bool (value : Bool) :
    Reads (.bool value) (if value then "true" else "false").toList := by
  intro depth before rest hbefore _
  rw [Tree.value?]
  cases value with
  | true => exact readValue_scalar hbefore (by decide) (by decide) (by decide) depth
  | false => exact readValue_scalar hbefore (by decide) (by decide) (by decide) depth

theorem reads_number (l : Literal) : Reads (.number l) l.write := by
  intro depth before rest hbefore hrest
  obtain ⟨c, tail, hwrite, hc⟩ := l.exists_cons
  rw [Tree.value?, ← readNumber_write l hrest.endsNumber, hwrite, List.cons_append,
    readValue_scalar hbefore (isBlank_of_number hc) (ne_of_number hc rfl) (ne_of_number hc rfl),
    readScalar_of_number hc]

theorem reads_string (pieces : List Piece) : Reads (.string pieces) (quoted pieces) := by
  intro depth before rest hbefore _
  rw [Tree.value?, ← readScalar_quoted]
  exact readValue_scalar hbefore (by decide) (by decide) (by decide) depth

theorem reads_array
    (hread : ∀ depth, ReadsParts (readValue depth) ']' (Tree.itemValues? depth items) inner) :
    Reads (.array items) ('[' :: (inner ++ [']'])) := by
  intro depth before rest hbefore _
  rw [List.cons_append, List.append_assoc, List.singleton_append]
  cases depth with
  | zero => exact readValue_array_zero hbefore _
  | succ depth =>
      rw [readValue_array hbefore, hread depth rest, Tree.value?, Option.map_map, Option.map_map]
      rfl

theorem reads_object (hread : ∀ depth, ReadsParts (readMember (readValue depth)) '\x7d'
      (Tree.memberValues? depth members) inner) :
    Reads (.object members) ('\x7b' :: (inner ++ ['\x7d'])) := by
  intro depth before rest hbefore _
  rw [List.cons_append, List.append_assoc, List.singleton_append]
  cases depth with
  | zero => exact readValue_object_zero hbefore _
  | succ depth =>
      rw [readValue_object hbefore, hread depth rest, Tree.value?, Option.map_map, Option.map_map]
      rfl

theorem Reads.padded (hbefore : Blank before) (h : Reads t text) (hafter : Blank after)
    (depth : Nat) : ReadsItem (readValue depth) (t.value? depth) (before ++ text ++ after) := by
  intro rest hrest
  refine ⟨after, hafter, ?_⟩
  rw [List.append_assoc, List.append_assoc]
  exact h depth before (after ++ rest) hbefore (hafter.follows hrest)

theorem readsItem_named {depth : Nat} (hbefore : Blank before) (hbetween : Blank between)
    (h : ReadsItem (readValue depth) (t.value? depth) text) :
    ReadsItem (readMember (readValue depth)) (Tree.memberValue? depth (name, t))
      (before ++ quoted name ++ between ++ ':' :: text) := by
  intro rest hrest
  obtain ⟨after, hafter, hread⟩ := h rest hrest
  have hwritten : before ++ quoted name ++ between ++ ':' :: text ++ rest =
      before ++ '"' :: (name.flatMap Piece.write ++ '"' :: (between ++ ':' :: (text ++ rest))) := by
    simp [quoted]
  refine ⟨after, hafter, ?_⟩
  rw [hwritten, readMember, skipBlanks_append hbefore, skipBlanks_of_head (by decide),
    Tree.memberValue?]
  simp only [readText_write]
  cases Piece.text? name with
  | none => rfl
  | some name =>
      simp only [Option.map_some, Option.bind_eq_bind, Option.bind_some, skipBlanks_append hbetween,
        skipBlanks_of_head (show isBlank ':' = false by decide), hread]
      cases Tree.value? depth t <;> rfl

end rules

/-- The reader takes the text of a value off the front. -/
theorem Spells.reads {t : Tree} {text : List Char} (h : Spells t text) : Reads t text :=
  @Spells.rec (fun t text _ => Reads t text)
    (fun t text _ => ∀ depth, ReadsItem (readValue depth) (t.value? depth) text)
    (fun items text _ => ∀ depth,
      ReadsRow (readValue depth) ']' (Tree.itemValues? depth items) text)
    (fun m text _ => ∀ depth,
      ReadsItem (readMember (readValue depth)) (Tree.memberValue? depth m) text)
    (fun members text _ => ∀ depth,
      ReadsRow (readMember (readValue depth)) '\x7d' (Tree.memberValues? depth members) text)
    reads_null reads_bool reads_number reads_string
    (fun hinner => reads_array fun _ => readsParts_of_blank (.inl rfl) hinner)
    (fun h hread => reads_array fun depth => (hread depth).parts h.begins)
    (fun hinner => reads_object fun _ => readsParts_of_blank (.inr rfl) hinner)
    (fun h hread => reads_object fun depth => (hread depth).parts h.begins)
    (fun hbefore _ hafter hread => hread.padded hbefore hafter)
    (fun _ hread depth => (hread depth).one (.inl rfl))
    (fun _ _ hread hmore depth => (hread depth).cons (hmore depth))
    (fun hbefore hbetween _ hread depth => readsItem_named hbefore hbetween (hread depth))
    (fun _ hread depth => (hread depth).one (.inr rfl))
    (fun _ _ hread hmore depth => (hread depth).cons (hmore depth)) t text h

/-- A text that spells a tree is read as what the tree stands for. -/
theorem parse?_of_spells {t : Tree} {text : List Char} (h : SpellsElement t text) :
    parse? text = t.value? maxDepth := by
  cases h with
  | @padded _ before text after hbefore ht hafter =>
      have hrest : Follows after := by
        have hend : Follows [] := by rintro c ⟨⟩
        simpa using hafter.follows hend
      have hempty : skipBlanks after = [] := by
        have hskip := skipBlanks_append hafter []
        rw [List.append_nil] at hskip
        exact hskip
      rw [parse?, List.append_assoc, ht.reads maxDepth before after hbefore hrest]
      cases t.value? maxDepth with
      | none => rfl
      | some j => simp [hempty]

end LoginGateway.Json
