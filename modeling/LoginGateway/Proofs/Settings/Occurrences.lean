import LoginGateway.Proofs.Text.Splitting
import LoginGateway.Settings.CommandLine

/-!
What a command line may say. It is a row of occurrences of settings, each with its value, in any of
the spellings of a setting; two lone hyphens may stand at the end. Reading from left to right accepts
exactly the rows whose values can all be had, and finds their occurrences in their order. Main
statement: `readAll_eq_ok_iff`.
-/

namespace LoginGateway.Settings

theorem bind_eq_ok_iff {ε α β : Type} {x : Except ε α} {f : α → Except ε β} {b : β} :
    x >>= f = .ok b ↔ ∃ a, x = .ok a ∧ f a = .ok b := by
  cases x with
  | error e => simp [bind, Except.bind]
  | ok a => simp [bind, Except.bind]

/-! ### Names -/

namespace Key

theorem ofLabel?_eq_some_iff {s : List Char} {key : Key} :
    ofLabel? s = some key ↔ s = key.label.toList := by
  constructor
  · intro h
    have hlabel := List.find?_some (p := fun key : Key => key.label.toList == s) h
    exact (eq_of_beq hlabel).symm
  · rintro rfl
    cases key <;> decide

theorem ofLetter?_eq_some_iff {c : Char} {key : Key} :
    ofLetter? c = some key ↔ key.letter? = some c := by
  constructor
  · intro h
    have hletter := List.find?_some (p := fun key : Key => key.letter? == some c) h
    exact eq_of_beq hletter
  · intro h
    cases key <;> cases h <;> decide

theorem equals_not_mem_label (key : Key) : '=' ∉ key.label.toList := by
  cases key <;> decide

theorem letter?_ne_hyphen (key : Key) : key.letter? ≠ some '-' := by
  cases key <;> decide

end Key

namespace CommandLine

/-! ### Spellings -/

/-- A text that is a value where it stands in an argument of its own: a lone hyphen is one, anything
else behind a hyphen is not. -/
def IsWord (s : String) : Prop := ∀ c rest, s.toList ≠ '-' :: c :: rest

/-- The argument names a setting, whose value is the next argument. -/
inductive Names (key : Key) : String → Prop
  | label : Names key ("--" ++ key.label)
  | letter {c : Char} : key.letter? = some c → Names key (String.ofList ['-', c])

/-- The argument names a setting and brings its value. -/
inductive Brings (key : Key) (value : String) : String → Prop
  | label : Brings key value ("--" ++ key.label ++ "=" ++ value)
  | letter {c : Char} : key.letter? = some c → value ≠ "" → value.toList.head? ≠ some '=' →
      Brings key value (String.ofList ('-' :: c :: value.toList))
  | letterEquals {c : Char} : key.letter? = some c →
      Brings key value (String.ofList ('-' :: c :: '=' :: value.toList))

/-- The settings that the arguments name, each with its value, in their order. -/
inductive Occurrences : List String → List (Key × String) → Prop
  | empty : Occurrences [] []
  | closed : Occurrences ["--"] []
  | apart {key : Key} {name value : String} {rest : List String} {found : List (Key × String)} :
      Names key name → IsWord value → Occurrences rest found →
      Occurrences (name :: value :: rest) ((key, value) :: found)
  | joined {key : Key} {value argument : String} {rest : List String}
      {found : List (Key × String)} :
      Brings key value argument → Occurrences rest found →
      Occurrences (argument :: rest) ((key, value) :: found)

/-- A value that a setting can have. -/
def Valid (key : Key) (value : String) : Prop := check key value = .ok ()

/-! ### One argument -/

section argument

variable {env : Environment} {given : List (Key × String)} {r : Reading}

theorem accept_eq_ok_iff {key : Key} {value : String} {opened : Option (Key × Option String)} :
    Reading.accept ⟨given, opened⟩ key value = .ok r ↔
      Valid key value ∧ r = ⟨given ++ [(key, value)], opened⟩ := by
  rw [Reading.accept, bind_eq_ok_iff, Valid]
  constructor
  · rintro ⟨⟨⟩, hcheck, hr⟩
    exact ⟨hcheck, (Except.ok.inj hr).symm⟩
  · rintro ⟨hcheck, rfl⟩
    exact ⟨(), hcheck, rfl⟩

theorem answer_ne_ok (s : Reading) (told : Rejection) : s.answer told ≠ .ok r := by
  rw [Reading.answer, ne_eq, bind_eq_ok_iff]
  simp

theorem option_eq_ok_iff {key : Key} {attached : Option (List Char)} :
    Reading.option ⟨given, none⟩ key attached = .ok r ↔
      attached = none ∧ r = ⟨given, some (key, none)⟩ ∨
        ∃ value, attached = some value ∧ Valid key (String.ofList value) ∧
          r = ⟨given ++ [(key, String.ofList value)], none⟩ := by
  rw [Reading.option, Reading.settle, bind_eq_ok_iff]
  cases attached with
  | none => simp [eq_comm]
  | some value => simp [accept_eq_ok_iff]

theorem readLabel_eq_ok_iff {q : Reading} {s : List Char} :
    readLabel env q s = .ok r ↔ ∃ key attached,
      Text.cutAt '=' s = (key.label.toList, attached) ∧ q.option key attached = .ok r := by
  rw [readLabel]
  rcases Text.cutAt '=' s with ⟨name, attached⟩
  cases hkey : Key.ofLabel? name with
  | some key =>
      simp only [hkey]
      obtain rfl := Key.ofLabel?_eq_some_iff.mp hkey
      refine ⟨fun h => ⟨key, attached, rfl, h⟩, ?_⟩
      rintro ⟨key', attached', heq, h⟩
      obtain ⟨hlabel, rfl⟩ := Prod.mk.inj heq
      rw [hlabel, Key.ofLabel?_eq_some_iff.mpr rfl, Option.some.injEq] at hkey
      rwa [hkey] at h
  | none =>
      refine iff_of_false ?_ ?_
      · simp only [hkey]
        split
        · cases attached with
          | none => exact answer_ne_ok q _
          | some value => simp
        · split
          · cases attached with
            | none => exact answer_ne_ok q _
            | some value => simp
          · simp
      · rintro ⟨key, attached', heq, -⟩
        obtain ⟨hlabel, -⟩ := Prod.mk.inj heq
        rw [hlabel, Key.ofLabel?_eq_some_iff.mpr rfl] at hkey
        cases hkey

theorem readLetter_eq_ok_iff {q : Reading} {c : Char} {rest : List Char} :
    readLetter env q c rest = .ok r ↔ ∃ key, key.letter? = some c ∧
      q.option key (attachedValue rest) = .ok r := by
  rw [readLetter]
  cases hkey : Key.ofLetter? c with
  | some key =>
      have hletter := Key.ofLetter?_eq_some_iff.mp hkey
      refine ⟨fun h => ⟨key, hletter, h⟩, ?_⟩
      rintro ⟨key', hletter', h⟩
      rw [Key.ofLetter?_eq_some_iff.mpr hletter', Option.some.injEq] at hkey
      rwa [hkey] at h
  | none =>
      refine iff_of_false ?_ ?_
      · simp only
        split
        · exact answer_ne_ok q _
        · split
          · exact answer_ne_ok q _
          · simp
      · rintro ⟨key, hletter, -⟩
        rw [Key.ofLetter?_eq_some_iff.mpr hletter] at hkey
        cases hkey

/-- No setting has a hyphen for its letter. -/
theorem readArgument_letter {key : Key} {c : Char} (hletter : key.letter? = some c)
    (q : Reading) (rest : List Char) :
    readArgument env q ('-' :: c :: rest) = readLetter env q c rest := by
  have hc : c ≠ '-' := by
    rintro rfl
    exact key.letter?_ne_hyphen hletter
  rw [readArgument.eq_def]
  split
  · next heq => exact absurd (List.cons.inj (List.cons.inj heq).2).1 hc
  · next heq =>
      obtain ⟨-, htail⟩ := List.cons.inj heq
      obtain ⟨rfl, rfl⟩ := List.cons.inj htail
      rfl
  · next hletter' => exact absurd rfl (hletter' c rest)

/-- Without a sign of equality a label names its setting; with one it brings the value behind it. -/
theorem exists_of_readLabel {q : Reading} {s : List Char} (h : readLabel env q s = .ok r) :
    (∃ key, Names key (String.ofList ('-' :: '-' :: s)) ∧ q.option key none = .ok r) ∨
      ∃ key value, Brings key value (String.ofList ('-' :: '-' :: s)) ∧
        q.option key (some value.toList) = .ok r := by
  obtain ⟨key, attached, hcut, hoption⟩ := readLabel_eq_ok_iff.mp h
  rcases Text.cutAt_eq '=' s with ⟨-, hwhole⟩ | ⟨before, after, hs, hsplit⟩
  · obtain ⟨hlabel, rfl⟩ := Prod.mk.inj (hwhole.symm.trans hcut)
    have hname : String.ofList ('-' :: '-' :: s) = "--" ++ key.label :=
      String.toList_injective (by simp [hlabel])
    exact .inl ⟨key, hname ▸ .label, hoption⟩
  · obtain ⟨hlabel, rfl⟩ := Prod.mk.inj (hsplit.symm.trans hcut)
    have hname : String.ofList ('-' :: '-' :: s) = "--" ++ key.label ++ "=" ++ String.ofList after :=
      String.toList_injective (by simp [hs, hlabel])
    refine .inr ⟨key, String.ofList after, hname ▸ .label, ?_⟩
    rwa [String.toList_ofList]

/-- A letter alone names its setting; what stands behind it is the value. -/
theorem exists_of_readLetter {q : Reading} {c : Char} {rest : List Char}
    (h : readLetter env q c rest = .ok r) :
    (∃ key, Names key (String.ofList ('-' :: c :: rest)) ∧ q.option key none = .ok r) ∨
      ∃ key value, Brings key value (String.ofList ('-' :: c :: rest)) ∧
        q.option key (some value.toList) = .ok r := by
  obtain ⟨key, hletter, hoption⟩ := readLetter_eq_ok_iff.mp h
  rw [attachedValue.eq_def] at hoption
  split at hoption
  · exact .inl ⟨key, .letter hletter, hoption⟩
  · next value =>
      have hletters : (String.ofList value).toList = value := String.toList_ofList
      have hbrings : Brings key (String.ofList value) _ := .letterEquals hletter
      rw [hletters] at hbrings
      exact .inr ⟨key, String.ofList value, hbrings, by rwa [hletters]⟩
  · next hne hequals =>
      have hletters : (String.ofList rest).toList = rest := String.toList_ofList
      have hbrings : Brings key (String.ofList rest) _ := .letter hletter ?_ ?_
      · rw [hletters] at hbrings
        exact .inr ⟨key, String.ofList rest, hbrings, by rwa [hletters]⟩
      · intro hempty
        rw [hempty] at hletters
        exact hne hletters.symm
      · rw [hletters, ne_eq, List.head?_eq_some_iff]
        rintro ⟨value, rfl⟩
        exact hequals value rfl

theorem IsWord.readArgument_eq {s : String} (h : IsWord s) (q : Reading) :
    readArgument env q s.toList = q.word s.toList := by
  rw [readArgument.eq_def]
  split
  · next hs => exact absurd hs (h _ _)
  · next hs => exact absurd hs (h _ _)
  · rfl

theorem attachedValue_of_ne {value : String} (hne : value ≠ "")
    (hequals : value.toList.head? ≠ some '=') : attachedValue value.toList = some value.toList := by
  rw [attachedValue.eq_def]
  split
  · next hempty => exact absurd (String.toList_eq_nil_iff.mp hempty) hne
  · next hvalue =>
      rw [hvalue] at hequals
      exact absurd rfl hequals
  · rfl

theorem Names.readArgument_eq {key : Key} {s : String} (h : Names key s) {q : Reading}
    (hoption : q.option key none = .ok r) : readArgument env q s.toList = .ok r := by
  cases h with
  | label =>
      have hs : ("--" ++ key.label).toList = '-' :: '-' :: key.label.toList := by simp
      rw [hs, readArgument, readLabel_eq_ok_iff]
      exact ⟨key, none, Text.cutAt_of_not_mem key.equals_not_mem_label, hoption⟩
  | letter hletter =>
      rw [String.toList_ofList, readArgument_letter hletter, readLetter_eq_ok_iff]
      exact ⟨key, hletter, hoption⟩

theorem Brings.readArgument_eq {key : Key} {value s : String} (h : Brings key value s) {q : Reading}
    (hoption : q.option key (some value.toList) = .ok r) :
    readArgument env q s.toList = .ok r := by
  cases h with
  | label =>
      have hs : ("--" ++ key.label ++ "=" ++ value).toList =
          '-' :: '-' :: (key.label.toList ++ '=' :: value.toList) := by simp
      rw [hs, readArgument, readLabel_eq_ok_iff]
      exact ⟨key, some value.toList, Text.cutAt_append key.equals_not_mem_label _, hoption⟩
  | letter hletter hne hequals =>
      rw [String.toList_ofList, readArgument_letter hletter, readLetter_eq_ok_iff]
      exact ⟨key, hletter, by rwa [attachedValue_of_ne hne hequals]⟩
  | letterEquals hletter =>
      rw [String.toList_ofList, readArgument_letter hletter, readLetter_eq_ok_iff]
      exact ⟨key, hletter, hoption⟩

/-- An argument is a word, or it names a setting, or it brings the value of one. -/
theorem readArgument_eq_ok_iff {q : Reading} {s : String} :
    readArgument env q s.toList = .ok r ↔
      IsWord s ∧ q.word s.toList = .ok r ∨
      (∃ key, Names key s ∧ q.option key none = .ok r) ∨
      ∃ key value, Brings key value s ∧ q.option key (some value.toList) = .ok r := by
  constructor
  · intro h
    rw [readArgument.eq_def] at h
    split at h
    · next hs =>
        have hletters := exists_of_readLabel h
        rw [← hs, String.ofList_toList] at hletters
        exact .inr hletters
    · next hs =>
        have hletters := exists_of_readLetter h
        rw [← hs, String.ofList_toList] at hletters
        exact .inr hletters
    · next hlabel hletter => exact .inl ⟨fun c rest hs => hletter c rest hs, h⟩
  · rintro (⟨hword, h⟩ | ⟨key, hnames, h⟩ | ⟨key, value, hbrings, h⟩)
    · rwa [hword.readArgument_eq]
    · exact hnames.readArgument_eq h
    · exact hbrings.readArgument_eq h

end argument

/-! ### The whole line -/

section line

variable {env : Environment} {given : List (Key × String)} {key : Key} {value : String}
  {r : Reading}

/-- Behind two lone hyphens nothing may stand. -/
theorem readAll_hyphens {q : Reading} {rest : List String} :
    readAll env q ("--" :: rest) = .ok r ↔ rest = [] ∧ q.settle = .ok r := by
  cases rest with
  | nil => simp [readAll]
  | cons next rest => simp [readAll]

theorem readAll_cons {q : Reading} {s : String} (hs : s ≠ "--") (rest : List String) :
    readAll env q (s :: rest) = .ok r ↔
      ∃ next, readArgument env q s.toList = .ok next ∧ readAll env next rest = .ok r := by
  rw [readAll.eq_def]
  split
  · next heq => cases heq
  · next heq => exact absurd (List.cons.inj heq).1 hs
  · next heq => exact absurd (List.cons.inj heq).1 hs
  · next heq =>
      obtain ⟨rfl, rfl⟩ := List.cons.inj heq
      exact bind_eq_ok_iff

theorem not_isWord_hyphens : ¬IsWord "--" := fun h => h '-' [] rfl

/-- An open option takes the next argument, which must be a word. -/
theorem readAll_open {arguments : List String} :
    readAll env ⟨given, some (key, none)⟩ arguments = .ok r ↔
      ∃ value rest, arguments = value :: rest ∧ IsWord value ∧
        readAll env ⟨given, some (key, some value)⟩ rest = .ok r := by
  have hsettle : Reading.settle ⟨given, some (key, none)⟩ = .error (.missingValue key) := rfl
  have hoption (key' : Key) (attached : Option (List Char)) (next : Reading) :
      Reading.option ⟨given, some (key, none)⟩ key' attached ≠ .ok next := by
    rw [Reading.option, ne_eq, bind_eq_ok_iff, hsettle]
    simp
  cases arguments with
  | nil => simp [readAll, hsettle]
  | cons s rest =>
      by_cases hs : s = "--"
      · subst hs
        simp only [readAll_hyphens, hsettle]
        simp [not_isWord_hyphens]
      · rw [readAll_cons hs]
        simp only [readArgument_eq_ok_iff, hoption, and_false, exists_false, or_false]
        simp [Reading.word, and_assoc]

/-- An option whose value has come is checked when the line goes on. -/
theorem readAll_complete {arguments : List String} :
    readAll env ⟨given, some (key, some value)⟩ arguments = .ok r ↔
      Valid key value ∧ readAll env ⟨given ++ [(key, value)], none⟩ arguments = .ok r := by
  have hsettle (next : Reading) : Reading.settle ⟨given, some (key, some value)⟩ = .ok next ↔
      Valid key value ∧ Reading.settle ⟨given ++ [(key, value)], none⟩ = .ok next := by
    rw [Reading.settle, accept_eq_ok_iff, Reading.settle]
    simp [eq_comm]
  have hoption (key' : Key) (attached : Option (List Char)) (next : Reading) :
      Reading.option ⟨given, some (key, some value)⟩ key' attached = .ok next ↔
        Valid key value ∧
          Reading.option ⟨given ++ [(key, value)], none⟩ key' attached = .ok next := by
    simp only [Reading.option, bind_eq_ok_iff, hsettle, and_assoc, exists_and_left]
  cases arguments with
  | nil => simp only [readAll, hsettle]
  | cons s rest =>
      by_cases hs : s = "--"
      · subst hs
        simp only [readAll_hyphens, hsettle]
        tauto
      · rw [readAll_cons hs, readAll_cons hs]
        simp only [readArgument_eq_ok_iff, hoption, Reading.word, reduceCtorEq, and_false, false_or]
        by_cases hvalid : Valid key value <;> simp [hvalid]

/-- An argument that comes when no option is open begins an occurrence. -/
theorem readAll_settled_cons {s : String} (hs : s ≠ "--") (rest : List String) :
    readAll env ⟨given, none⟩ (s :: rest) = .ok r ↔
      (∃ key value more, Names key s ∧ rest = value :: more ∧ IsWord value ∧ Valid key value ∧
        readAll env ⟨given ++ [(key, value)], none⟩ more = .ok r) ∨
      ∃ key value, Brings key value s ∧ Valid key value ∧
        readAll env ⟨given ++ [(key, value)], none⟩ rest = .ok r := by
  have hword (text : List Char) (next : Reading) : Reading.word ⟨given, none⟩ text ≠ .ok next := by
    simp [Reading.word]
  rw [readAll_cons hs]
  simp only [readArgument_eq_ok_iff, hword, and_false, false_or, option_eq_ok_iff]
  constructor
  · rintro ⟨next, ⟨key, hnames, hnext⟩ | ⟨key, value, hbrings, hnext⟩, hread⟩
    · obtain ⟨-, rfl⟩ | ⟨value, hvalue, -⟩ := hnext
      · obtain ⟨value, more, hrest, hisWord, hread⟩ := readAll_open.mp hread
        obtain ⟨hvalid, hread⟩ := readAll_complete.mp hread
        exact .inl ⟨key, value, more, hnames, hrest, hisWord, hvalid, hread⟩
      · cases hvalue
    · obtain ⟨hnone, -⟩ | ⟨written, hwritten, hvalid, rfl⟩ := hnext
      · cases hnone
      · obtain rfl := Option.some.inj hwritten
        rw [String.ofList_toList] at hvalid hread
        exact .inr ⟨key, value, hbrings, hvalid, hread⟩
  · rintro (⟨key, value, more, hnames, hrest, hisWord, hvalid, hread⟩ |
      ⟨key, value, hbrings, hvalid, hread⟩)
    · have hcomplete := readAll_complete.mpr ⟨hvalid, hread⟩
      exact ⟨_, .inl ⟨key, hnames, .inl ⟨trivial, rfl⟩⟩,
        readAll_open.mpr ⟨value, more, hrest, hisWord, hcomplete⟩⟩
    · refine ⟨_, .inr ⟨key, value, hbrings, .inr ⟨_, rfl, ?_, rfl⟩⟩, ?_⟩
      · rwa [String.ofList_toList]
      · rwa [String.ofList_toList]

theorem Names.ne_hyphens {s : String} (h : Names key s) : s ≠ "--" := by
  intro hs
  have hletters := congrArg String.toList hs
  cases h with
  | label =>
      rw [String.toList_append] at hletters
      exact absurd (List.append_right_eq_self.mp hletters) (by cases key <;> decide)
  | letter hletter =>
      rw [String.toList_ofList] at hletters
      obtain ⟨rfl, -⟩ := List.cons.inj (List.cons.inj hletters).2
      exact key.letter?_ne_hyphen hletter

theorem Brings.ne_hyphens {s : String} (h : Brings key value s) : s ≠ "--" := by
  intro hs
  have hletters := congrArg String.toList hs
  cases h with
  | label =>
      simp only [String.toList_append, List.append_assoc] at hletters
      have hlabel := List.append_right_eq_self.mp hletters
      simp at hlabel
  | letter hletter =>
      rw [String.toList_ofList] at hletters
      obtain ⟨rfl, -⟩ := List.cons.inj (List.cons.inj hletters).2
      exact key.letter?_ne_hyphen hletter
  | letterEquals hletter =>
      rw [String.toList_ofList] at hletters
      obtain ⟨rfl, -⟩ := List.cons.inj (List.cons.inj hletters).2
      exact key.letter?_ne_hyphen hletter

/-- A row of occurrences with possible values is read. -/
theorem Occurrences.readAll_eq {arguments : List String} {found : List (Key × String)}
    (h : Occurrences arguments found) (hvalid : ∀ o ∈ found, Valid o.1 o.2) :
    readAll env ⟨given, none⟩ arguments = .ok ⟨given ++ found, none⟩ := by
  induction h generalizing given with
  | empty => simp [readAll, Reading.settle]
  | closed => simp [readAll, Reading.settle]
  | @apart key name value rest found hnames hword _ ih =>
      obtain ⟨hhead, htail⟩ := List.forall_mem_cons.mp hvalid
      refine (readAll_settled_cons hnames.ne_hyphens _).mpr
        (.inl ⟨key, value, rest, hnames, rfl, hword, hhead, ?_⟩)
      rw [ih htail, List.append_assoc, List.singleton_append]
  | @joined key value argument rest found hbrings _ ih =>
      obtain ⟨hhead, htail⟩ := List.forall_mem_cons.mp hvalid
      refine (readAll_settled_cons hbrings.ne_hyphens _).mpr (.inr ⟨key, value, hbrings, hhead, ?_⟩)
      rw [ih htail, List.append_assoc, List.singleton_append]

/-- Whatever is read is a row of occurrences with possible values. -/
theorem exists_occurrences {arguments : List String}
    (h : readAll env ⟨given, none⟩ arguments = .ok r) : ∃ found, Occurrences arguments found ∧
      (∀ o ∈ found, Valid o.1 o.2) ∧ r = ⟨given ++ found, none⟩ := by
  -- An occurrence takes one argument or two, so the induction is on their number.
  induction hlength : arguments.length using Nat.strongRecOn generalizing arguments given with
  | ind n ih =>
      subst hlength
      cases arguments with
      | nil =>
          simp only [readAll, Reading.settle, Except.ok.injEq] at h
          exact ⟨[], .empty, by simp, by simp [← h]⟩
      | cons s rest =>
          by_cases hs : s = "--"
          · subst hs
            obtain ⟨rfl, hsettle⟩ := readAll_hyphens.mp h
            simp only [Reading.settle, Except.ok.injEq] at hsettle
            exact ⟨[], .closed, by simp, by simp [← hsettle]⟩
          · obtain ⟨key, value, more, hnames, rfl, hword, hvalid, hread⟩ |
              ⟨key, value, hbrings, hvalid, hread⟩ := (readAll_settled_cons hs rest).mp h
            · obtain ⟨found, hfound, hall, rfl⟩ := ih _ (by simp only [List.length_cons]; omega) hread rfl
              exact ⟨(key, value) :: found, .apart hnames hword hfound,
                List.forall_mem_cons.mpr ⟨hvalid, hall⟩, by simp⟩
            · obtain ⟨found, hfound, hall, rfl⟩ := ih _ (by simp) hread rfl
              exact ⟨(key, value) :: found, .joined hbrings hfound,
                List.forall_mem_cons.mpr ⟨hvalid, hall⟩, by simp⟩

end line

/-! ### One reading -/

/-- The setting that an argument spells, with the value attached to it. -/
def spelled? : List Char → Option (Key × Option (List Char))
  | '-' :: '-' :: s =>
    match Text.cutAt '=' s with
    | (label, attached) => (Key.ofLabel? label).map (·, attached)
  | '-' :: c :: s => (Key.ofLetter? c).map (·, attachedValue s)
  | _ => none

theorem spelled?_letter {key : Key} {c : Char} (hletter : key.letter? = some c) (s : List Char) :
    spelled? ('-' :: c :: s) = some (key, attachedValue s) := by
  have hc : c ≠ '-' := by
    rintro rfl
    exact key.letter?_ne_hyphen hletter
  rw [spelled?.eq_2 _ _ fun heq => hc heq, Key.ofLetter?_eq_some_iff.mpr hletter]
  rfl

theorem Names.spelled?_eq {key : Key} {s : String} (h : Names key s) :
    spelled? s.toList = some (key, none) := by
  cases h with
  | label =>
      have hs : ("--" ++ key.label).toList = '-' :: '-' :: key.label.toList := by simp
      rw [hs, spelled?, Text.cutAt_of_not_mem key.equals_not_mem_label]
      simp only [Key.ofLabel?_eq_some_iff.mpr rfl, Option.map_some]
  | letter hletter => rw [String.toList_ofList, spelled?_letter hletter, attachedValue]

theorem Brings.spelled?_eq {key : Key} {value s : String} (h : Brings key value s) :
    spelled? s.toList = some (key, some value.toList) := by
  cases h with
  | label =>
      have hs : ("--" ++ key.label ++ "=" ++ value).toList =
          '-' :: '-' :: (key.label.toList ++ '=' :: value.toList) := by simp
      rw [hs, spelled?, Text.cutAt_append key.equals_not_mem_label]
      simp only [Key.ofLabel?_eq_some_iff.mpr rfl, Option.map_some]
  | letter hletter hne hequals =>
      rw [String.toList_ofList, spelled?_letter hletter, attachedValue_of_ne hne hequals]
  | letterEquals hletter => rw [String.toList_ofList, spelled?_letter hletter, attachedValue]

/-- A command line is a row of occurrences in one way only. -/
theorem Occurrences.unique {arguments : List String} {found found' : List (Key × String)}
    (h : Occurrences arguments found) (h' : Occurrences arguments found') : found = found' := by
  induction h generalizing found' with
  | empty =>
      cases h'
      rfl
  | closed =>
      cases h' with
      | closed => rfl
      | joined hbrings => exact absurd rfl hbrings.ne_hyphens
  | apart hnames _ _ ih =>
      cases h' with
      | apart hnames' _ hrest =>
          have hkey := hnames.spelled?_eq.symm.trans hnames'.spelled?_eq
          simp only [Option.some.injEq, Prod.mk.injEq, and_true] at hkey
          rw [hkey, ih hrest]
      | joined hbrings => exact absurd (hnames.spelled?_eq.symm.trans hbrings.spelled?_eq) (by simp)
  | joined hbrings _ ih =>
      cases h' with
      | closed => exact absurd rfl hbrings.ne_hyphens
      | apart hnames => exact absurd (hbrings.spelled?_eq.symm.trans hnames.spelled?_eq) (by simp)
      | joined hbrings' hrest =>
          have hboth := hbrings.spelled?_eq.symm.trans hbrings'.spelled?_eq
          simp only [Option.some.injEq, Prod.mk.injEq, String.toList_inj] at hboth
          rw [hboth.1, hboth.2, ih hrest]

/-- A command line is read exactly if it is a row of occurrences of settings whose values can be had,
and what is found then are these occurrences. -/
theorem readAll_eq_ok_iff (env : Environment) (arguments : List String) (r : Reading) :
    readAll env {} arguments = .ok r ↔ ∃ found, Occurrences arguments found ∧
      (∀ o ∈ found, Valid o.1 o.2) ∧ r = { given := found } := by
  constructor
  · exact exists_occurrences
  · rintro ⟨found, hfound, hvalid, rfl⟩
    exact hfound.readAll_eq hvalid

end CommandLine

end LoginGateway.Settings
