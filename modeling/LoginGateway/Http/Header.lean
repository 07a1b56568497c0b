import LoginGateway.Text.Utf8

/-!
Header fields of a message, in the order in which they were added. A field's name is in lower case;
several fields may share one. Main laws: setting a field leaves exactly one of its name, and no
other field moves.
-/

namespace LoginGateway.Http

/-- The characters of methods and header names. -/
def isTokenChar (c : Char) : Bool := c.isAlphanum || "!#$%&'*+-.^_\x60|~".toList.contains c

def isToken (s : String) : Bool := !s.isEmpty && s.toList.all isTokenChar

def isHeaderName (s : String) : Bool := isToken s && s.utf8ByteSize < 65536

/-- Every character but the controls; a tab is allowed. -/
def isValueChar (c : Char) : Bool := c == '\t' || (0x20 ≤ c.toNat && c.toNat != 0x7F)

def isHeaderValue (s : String) : Bool := s.toList.all isValueChar

/-- A value that can be read as plain text. -/
def isVisible (s : String) : Bool := s.toList.all fun c => isValueChar c && c.toNat < 0x80

structure Headers where
  fields : List (String × String) := []
deriving DecidableEq, Repr

namespace Headers

def get? (hs : Headers) (name : String) : Option String :=
  (hs.fields.find? (·.1 == name)).map (·.2)

def values (hs : Headers) (name : String) : List String :=
  (hs.fields.filter (·.1 == name)).map (·.2)

def contains (hs : Headers) (name : String) : Bool := hs.fields.any (·.1 == name)

def add (hs : Headers) (name value : String) : Headers := ⟨hs.fields ++ [(name, value)]⟩

def remove (hs : Headers) (name : String) : Headers := ⟨hs.fields.filter (·.1 != name)⟩

/-- The value takes the place of all that the name had. -/
def set (hs : Headers) (name value : String) : Headers := (hs.remove name).add name value

/-- Sets the field unless the name is there. -/
def setDefault (hs : Headers) (name value : String) : Headers :=
  if hs.contains name then hs else hs.add name value

/-- Each name of `more` loses what it had and takes the values of `more`. -/
def override (hs more : Headers) : Headers :=
  ⟨hs.fields.filter (!more.contains ·.1) ++ more.fields⟩

/-- By name; fields of one name keep their order. -/
def sorted (hs : Headers) : Headers := ⟨hs.fields.mergeSort fun a b => a.1 ≤ b.1⟩

@[simp] theorem values_empty (name : String) : ({} : Headers).values name = [] := rfl

@[simp] theorem values_add (hs : Headers) (name value other : String) :
    (hs.add name value).values other =
      hs.values other ++ if name = other then [value] else [] := by
  by_cases h : name = other <;> simp [add, values, h]

@[simp] theorem values_remove (hs : Headers) (name other : String) :
    (hs.remove name).values other = if name = other then [] else hs.values other := by
  by_cases h : name = other
  · subst h
    simp [remove, values, List.filter_filter]
  · simp only [remove, values, h, if_false, List.filter_filter]
    congr 1
    apply List.filter_congr
    intro p _
    by_cases hp : p.1 = other <;> simp [hp, Ne.symm h]

@[simp] theorem values_set (hs : Headers) (name value other : String) :
    (hs.set name value).values other = if name = other then [value] else hs.values other := by
  by_cases h : name = other <;> simp [set, h]

@[simp] theorem remove_set (hs : Headers) (name value : String) :
    (hs.set name value).remove name = hs.remove name := by
  simp [set, add, remove, List.filter_append, List.filter_filter]

theorem contains_eq_false_iff (hs : Headers) (name : String) :
    hs.contains name = false ↔ hs.values name = [] := by
  simp [contains, values]

@[simp] theorem values_setDefault (hs : Headers) (name value other : String) :
    (hs.setDefault name value).values other =
      hs.values other ++ if name = other ∧ hs.values other = [] then [value] else [] := by
  by_cases h : name = other
  · subst h
    by_cases hname : hs.contains name = false
    · have hnone := (contains_eq_false_iff hs name).mp hname
      simp [setDefault, hname, hnone]
    · have hsome := mt (contains_eq_false_iff hs name).mpr hname
      simp [setDefault, hname, hsome]
  · simp only [setDefault, h, false_and, if_false, List.append_nil]
    split <;> simp [h]

@[simp] theorem values_override (hs more : Headers) (name : String) :
    (hs.override more).values name =
      if more.contains name then more.values name else hs.values name := by
  have hkept : hs.fields.filter (fun p => p.1 == name && !more.contains p.1) =
      if more.contains name then [] else hs.fields.filter (·.1 == name) := by
    cases hmore : more.contains name with
    | true =>
        rw [if_pos rfl, List.filter_eq_nil_iff]
        intro p _
        by_cases hp : p.1 = name <;> simp [hp, hmore]
    | false =>
        rw [if_neg Bool.false_ne_true]
        apply List.filter_congr
        intro p _
        by_cases hp : p.1 = name <;> simp [hp, hmore]
  rw [override, values, List.filter_append, List.map_append, List.filter_filter, hkept]
  cases hmore : more.contains name with
  | true => rfl
  | false =>
      have hnone := (contains_eq_false_iff more name).mp hmore
      rw [values] at hnone
      rw [hnone, List.append_nil]
      rfl

end Headers

end LoginGateway.Http
