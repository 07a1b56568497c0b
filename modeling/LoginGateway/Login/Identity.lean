import LoginGateway.Json.Printer
import LoginGateway.Text.Quoted

/-!
Who logged in: a name that no other user has, and properties by name. Properties stand in the order
of their names, each once, so two collections of properties are equal exactly if they hold the same.
-/

namespace LoginGateway.Login

/-- A collection of properties has no order of its own. That of the names stands for any in which the
properties may be written out, so a text made of them is one of several that say the same. -/
structure Properties where
  entries : List (String × String) := []
  ordered : entries.Pairwise (fun a b => a.1 < b.1) := by exact List.Pairwise.nil

instance : DecidableEq Properties := fun a b =>
  if h : a.entries = b.entries then isTrue (by cases a; cases b; simp_all)
  else isFalse (fun e => h (congrArg Properties.entries e))

namespace Properties

/-- A property takes the place of one of the same name. -/
def insertEntry (name value : String) : List (String × String) → List (String × String)
  | [] => [(name, value)]
  | p :: rest =>
    if name < p.1 then (name, value) :: p :: rest
    else if name = p.1 then (name, value) :: rest
    else p :: insertEntry name value rest

theorem mem_insertEntry {name value : String} {entries : List (String × String)}
    {p : String × String} (h : p ∈ insertEntry name value entries) :
    p = (name, value) ∨ p ∈ entries := by
  induction entries with
  | nil => simpa [insertEntry] using h
  | cons q rest ih =>
      simp only [insertEntry] at h
      split at h
      · simpa using h
      · split at h
        · rcases List.mem_cons.mp h with h | h
          · exact .inl h
          · exact .inr (List.mem_cons_of_mem _ h)
        · rcases List.mem_cons.mp h with h | h
          · exact .inr (h ▸ List.mem_cons_self)
          · rcases ih h with h | h
            · exact .inl h
            · exact .inr (List.mem_cons_of_mem _ h)

theorem pairwise_insertEntry (name value : String) {entries : List (String × String)}
    (h : entries.Pairwise (fun a b => a.1 < b.1)) :
    (insertEntry name value entries).Pairwise (fun a b => a.1 < b.1) := by
  induction entries with
  | nil => simp [insertEntry]
  | cons p rest ih =>
      rw [List.pairwise_cons] at h
      simp only [insertEntry]
      split
      · next hlt =>
          refine List.pairwise_cons.mpr ⟨?_, List.pairwise_cons.mpr h⟩
          intro q hq
          rcases List.mem_cons.mp hq with rfl | hq
          · exact hlt
          · exact String.lt_trans hlt (h.1 q hq)
      · next hnlt =>
          split
          · next heq => exact List.pairwise_cons.mpr ⟨fun q hq => heq ▸ h.1 q hq, h.2⟩
          · next hne =>
              refine List.pairwise_cons.mpr ⟨?_, ih h.2⟩
              intro q hq
              rcases mem_insertEntry hq with rfl | hq
              · exact Std.lt_of_le_of_ne hnlt (Ne.symm hne)
              · exact h.1 q hq

def insert (ps : Properties) (name value : String) : Properties :=
  ⟨insertEntry name value ps.entries, pairwise_insertEntry name value ps.ordered⟩

/-- Of two properties with one name the later one counts. -/
def ofList (entries : List (String × String)) : Properties :=
  entries.foldl (fun ps p => ps.insert p.1 p.2) {}

def get? (ps : Properties) (name : String) : Option String := ps.entries.lookup name

def names (ps : Properties) : List String := ps.entries.map (·.1)

end Properties

structure Identity where
  urn : String
  properties : Properties
deriving DecidableEq

namespace Identity

def property? (i : Identity) (name : String) : Option String := i.properties.get? name

def toJson (i : Identity) : Json :=
  .object [
    ("urn".toList, .string i.urn.toList),
    ("properties".toList, .object (i.properties.entries.map fun p =>
      (p.1.toList, .string p.2.toList)))]

def describe (i : Identity) : String :=
  let entries := i.properties.entries.map fun p => Text.quoted p.1 ++ ": " ++ Text.quoted p.2
  "Identity \x7b urn: " ++ Text.quoted i.urn ++ ", properties: \x7b" ++ ", ".intercalate entries ++
    "\x7d \x7d"

end Identity

end LoginGateway.Login
