import LoginGateway.Proofs.Xml.Grammar

/-!
The declaration of a document. It states a version, then perhaps an encoding, then perhaps whether
the document stands alone. Behind a space its settings are read one by one; behind other white space
it is an instruction like any other. Neither leaves a trace. Main statement: `Declares.run_eq`.
-/

namespace LoginGateway.Xml

/-- A character of the value of a setting. -/
def isSettingChar (c : Char) : Bool := c.isAlphanum || c == '.' || c == '_' || c == '-'

/-- A setting of a declaration: white space, then the name and, in quotes, the value. -/
inductive Sets (name : String) : List Char → Prop
  | quoted {gap before after value : List Char} {quote : Char} : gap ≠ [] → Blank gap →
      Blank before → Blank after → isQuote quote = true →
      (∀ c ∈ value, isSettingChar c = true) →
      Sets name (gap ++ (name.toList ++ (before ++ '=' :: (after ++ quote :: (value ++ [quote])))))

/-- Settings of these names in this order, each of which may be absent, up to the end of the
declaration. -/
inductive SetsSome : List String → List Char → Prop
  | done {gap : List Char} : Blank gap → SetsSome [] (gap ++ ['?', '>'])
  | absent {name : String} {names : List String} {text : List Char} : SetsSome names text →
      SetsSome (name :: names) text
  | present {name : String} {names : List String} {setting text : List Char} : Sets name setting →
      SetsSome names text → SetsSome (name :: names) (setting ++ text)

inductive Declares : List Char → Prop
  | version {setting text : List Char} : Sets "version" setting →
      SetsSome ["encoding", "standalone"] text →
      Declares ("<?xml".toList ++ (setting ++ text))

/-! ### Settings -/

theorem eq_of_isQuote {c : Char} (h : isQuote c = true) : c = '"' ∨ c = '\'' := by
  simpa [isQuote] using h

theorem isPlainChar_of_isSettingChar {c : Char} (h : isSettingChar c = true) :
    isPlainChar c = true := by
  simp only [isSettingChar, isPlainChar, Bool.or_eq_true] at h ⊢
  tauto

theorem Attribute.read?_quoted {name : String} {before after value : List Char} {quote : Char}
    (hname : isPlainName name.toList = true) (hbefore : Blank before) (hafter : Blank after)
    (hquote : isQuote quote = true) (hvalue : ∀ c ∈ value, isSettingChar c = true) (s : List Char) :
    Attribute.read? (name.toList ++ (before ++ '=' :: (after ++ quote :: (value ++ quote :: s)))) =
      some (⟨⟨[], name.toList⟩, value⟩, s) := by
  have hends := hbefore.endsName (show isNameChar '=' = false by decide)
    (after ++ quote :: (value ++ quote :: s))
  have hother {d : Char} (hd : isPlainChar d = false) : ∀ c ∈ value, c ≠ d := fun c hc =>
    ne_of_isPlainChar (isPlainChar_of_isSettingChar (hvalue c hc)) hd
  have hspace : isSpace quote = false := by
    rcases eq_of_isQuote hquote with rfl | rfl <;> decide
  have hinside : ∀ c ∈ value, (c != quote && c != '<') = true := by
    intro c hc
    have hquote : c ≠ quote := by
      rcases eq_of_isQuote hquote with rfl | rfl
      · exact hother (by decide) c hc
      · exact hother (by decide) c hc
    simp [hquote, hother (show isPlainChar '<' = false by decide) c hc]
  have hclose : ∀ c ∈ (quote :: s).head?, (c != quote && c != '<') = false := by simp
  obtain ⟨htake, hdrop⟩ := Text.span_append hinside hclose
  simp only [Attribute.read?, Name.read?_append hname hends, Option.bind_eq_bind, Option.bind_some,
    skipSpaces_append hbefore (show isSpace '=' = false by decide), skipSpaces_append hafter hspace,
    htake, hdrop, hquote, beq_self_eq_true, Bool.and_self, if_true]

def ArePlainNames (names : List String) : Prop := ∀ name ∈ names, isPlainName name.toList = true

instance : DecidablePred ArePlainNames := List.decidableBAll _

/-- Behind white space, one of the names or the end of the declaration begins. -/
def Continues (names : List String) (s : List Char) : Prop :=
  ∃ gap c tail, s = gap ++ c :: tail ∧ Blank gap ∧
    (c = '?' ∨ ∃ name ∈ names, name.toList.head? = some c) ∧
    (gap = [] → ∃ rest, c :: tail = "?>".toList ++ rest)

theorem isSpace_of_head? {name : List Char} (h : isPlainName name = true) {c : Char}
    (hc : name.head? = some c) : isSpace c = false := by
  obtain ⟨d, tail, rfl, hd⟩ := exists_first h
  cases hc
  rw [← Bool.not_eq_true]
  intro hspace
  have hname := isNameChar_of_isPlainChar (isPlainChar_of_first hd)
  rw [isNameChar_of_isSpace hspace] at hname
  cases hname

theorem skipSpaces_name {name gap : List Char} (hname : isPlainName name = true) (hgap : Blank gap)
    (s : List Char) : skipSpaces (gap ++ (name ++ s)) = name ++ s := by
  obtain ⟨c, tail, rfl, -⟩ := exists_first hname
  exact skipSpaces_append hgap (isSpace_of_head? hname rfl) (tail ++ s)

theorem Continues.append {names : List String} {s : List Char} (h : Continues names s)
    (t : List Char) : Continues names (s ++ t) := by
  obtain ⟨gap, c, tail, rfl, hgap, hc, hend⟩ := h
  refine ⟨gap, c, tail ++ t, by simp, hgap, hc, fun hnil => ?_⟩
  obtain ⟨rest, hrest⟩ := hend hnil
  exact ⟨rest ++ t, by rw [← List.cons_append, hrest, List.append_assoc]⟩

theorem Continues.mono {names more : List String} {s : List Char} (h : Continues names s)
    (hmore : names ⊆ more) : Continues more s := by
  obtain ⟨gap, c, tail, hs, hgap, hc, hend⟩ := h
  refine ⟨gap, c, tail, hs, hgap, hc.imp_right ?_, hend⟩
  rintro ⟨name, hname, hhead⟩
  exact ⟨name, hmore hname, hhead⟩

/-- A name that begins like none of these does not stand here. -/
theorem Continues.behind?_eq_none {names : List String} {s : List Char} (h : Continues names s)
    (hnames : ArePlainNames names) {name : String} (hname : isPlainName name.toList = true)
    (hother : ∀ other ∈ names, name.toList.head? ≠ other.toList.head?) :
    Text.behind? name (skipSpaces s) = none := by
  obtain ⟨gap, c, tail, rfl, hgap, hc, -⟩ := h
  obtain ⟨d, rest, hd, hfirst⟩ := exists_first hname
  have hhead : name.toList.head? = some d := by rw [hd]; rfl
  have hspace : isSpace c = false := by
    rcases hc with rfl | ⟨other, hmem, hc⟩
    · decide
    · exact isSpace_of_head? (hnames other hmem) hc
  have hne : c ≠ d := by
    rcases hc with rfl | ⟨other, hmem, hc⟩
    · exact (ne_of_isPlainChar (isPlainChar_of_first hfirst) (by decide)).symm
    · rintro rfl
      exact hother other hmem (hhead.trans hc.symm)
  rw [skipSpaces_append hgap hspace]
  exact Text.behind?_of_head? hhead hne tail

theorem readDeclared_cons {names : List String} {s : List Char} (h : Continues names s)
    (name : String) (more : List String) :
    readDeclared (name :: more) s =
      if (Text.behind? name (skipSpaces s)).isSome = true then
        (Attribute.read? (skipSpaces s)).bind fun p => readDeclared more p.2
      else readDeclared more s := by
  obtain ⟨gap, c, tail, rfl, hgap, -, hend⟩ := h
  have hopen : ¬(!(gap ++ c :: tail).head?.any isSpace &&
      (Text.behind? "?>" (gap ++ c :: tail)).isNone) = true := by
    cases gap with
    | nil =>
        obtain ⟨rest, hrest⟩ := hend rfl
        rw [List.nil_append, hrest, Text.behind?_append]
        simp
    | cons d gap => simp [hgap d List.mem_cons_self]
  rw [readDeclared, if_neg hopen]
  rfl

theorem Sets.continues {name : String} {setting : List Char} (h : Sets name setting)
    (hname : isPlainName name.toList = true) : Continues [name] setting := by
  cases h with
  | @quoted gap before after value quote hne hgap hbefore hafter hquote hvalue =>
      obtain ⟨c, tail, htail, -⟩ := exists_first hname
      exact ⟨gap, c, _, by rw [htail]; rfl, hgap, .inr ⟨name, List.mem_cons_self, by simp [htail]⟩,
        fun hnil => absurd hnil hne⟩

theorem Sets.exists_cons {name : String} {setting : List Char} (h : Sets name setting) :
    ∃ c rest, setting = c :: rest ∧ isSpace c = true := by
  cases h with
  | @quoted gap _ _ _ _ hne hgap =>
      obtain ⟨c, gap, rfl⟩ := List.exists_cons_of_ne_nil hne
      exact ⟨c, _, rfl, hgap c List.mem_cons_self⟩

section setting

variable {name : String} {setting : List Char} (h : Sets name setting)
  (hname : isPlainName name.toList = true) (s : List Char)
include h hname

theorem Sets.read_eq : (Text.behind? name (skipSpaces (setting ++ s))).isSome = true ∧
    ∃ a, Attribute.read? (skipSpaces (setting ++ s)) = some (a, s) := by
  cases h with
  | @quoted gap before after value quote _ hgap hbefore hafter hquote hvalue =>
      have hskip : skipSpaces (gap ++ (name.toList ++ (before ++ '=' :: (after ++
          quote :: (value ++ [quote])))) ++ s) =
          name.toList ++ (before ++ '=' :: (after ++ quote :: (value ++ quote :: s))) := by
        simpa using
          skipSpaces_name hname hgap (before ++ '=' :: (after ++ quote :: (value ++ quote :: s)))
      rw [hskip, Text.behind?_append]
      exact ⟨rfl, _, Attribute.read?_quoted hname hbefore hafter hquote hvalue s⟩

theorem Sets.readDeclared_eq (names : List String) :
    readDeclared (name :: names) (setting ++ s) = readDeclared names s := by
  obtain ⟨hbehind, a, hread⟩ := h.read_eq hname s
  rw [readDeclared_cons ((h.continues hname).append s), if_pos hbehind, hread]
  rfl

omit s in
theorem Sets.mem : ∀ c ∈ setting, isAllowed c = true ∧ c ≠ '?' := by
  have hblank {gap : List Char} (hgap : Blank gap) : ∀ c ∈ gap, isAllowed c = true ∧ c ≠ '?' :=
    fun c hc => ⟨hgap.allowed c hc, ne_of_mem_of_not_mem hc (hgap.not_mem (by decide))⟩
  have hplain {c : Char} (hc : isPlainChar c = true) : isAllowed c = true ∧ c ≠ '?' :=
    ⟨isAllowed_of_isPlainChar hc, ne_of_isPlainChar hc (by decide)⟩
  cases h with
  | @quoted gap before after value quote _ hgap hbefore hafter hquote hvalue =>
      have hquote : isAllowed quote = true ∧ quote ≠ '?' := by
        rcases eq_of_isQuote hquote with rfl | rfl <;> decide
      simp only [List.forall_mem_append, List.forall_mem_cons]
      exact ⟨hblank hgap, fun c hc => hplain (isPlainChar_of_mem hname c hc), hblank hbefore,
        by decide, hblank hafter, hquote,
        fun c hc => hplain (isPlainChar_of_isSettingChar (hvalue c hc)), hquote, nofun⟩

end setting

namespace SetsSome

variable {names : List String} {text : List Char}

theorem continues (h : SetsSome names text) (hnames : ArePlainNames names) :
    Continues names text := by
  induction h with
  | @done gap hgap => exact ⟨gap, '?', ['>'], rfl, hgap, .inl rfl, fun _ => ⟨[], rfl⟩⟩
  | absent _ ih => exact (ih (List.forall_mem_cons.mp hnames).2).mono (List.subset_cons_self _ _)
  | present hset =>
      have hname := (List.forall_mem_cons.mp hnames).1
      exact ((hset.continues hname).append _).mono (by simp)

/-- Settings are skipped up to the end of the declaration, if their names begin differently. -/
theorem readDeclared_eq (h : SetsSome names text) (hnames : ArePlainNames names)
    (hfirst : names.Pairwise fun a b => a.toList.head? ≠ b.toList.head?) (s : List Char) :
    readDeclared names (text ++ s) = some s := by
  induction h with
  | done hgap =>
      rw [readDeclared, List.append_assoc, List.cons_append, skipSpaces_append hgap (by decide)]
      exact Text.behind?_append "?>" s
  | @absent name names text h ih =>
      obtain ⟨hname, hnames⟩ := List.forall_mem_cons.mp hnames
      obtain ⟨hother, hfirst⟩ := List.pairwise_cons.mp hfirst
      have hcontinues := (h.continues hnames).append s
      rw [readDeclared_cons hcontinues, if_neg, ih hnames hfirst]
      rw [hcontinues.behind?_eq_none hnames hname hother]
      decide
  | present hset _ ih =>
      obtain ⟨hname, hnames⟩ := List.forall_mem_cons.mp hnames
      obtain ⟨-, hfirst⟩ := List.pairwise_cons.mp hfirst
      rw [List.append_assoc, hset.readDeclared_eq hname, ih hnames hfirst]

theorem exists_body (h : SetsSome names text) (hnames : ArePlainNames names) :
    ∃ body, text = body ++ "?>".toList ∧ ∀ c ∈ body, isAllowed c = true ∧ c ≠ '?' := by
  induction h with
  | @done gap hgap =>
      exact ⟨gap, rfl, fun c hc =>
        ⟨hgap.allowed c hc, ne_of_mem_of_not_mem hc (hgap.not_mem (by decide))⟩⟩
  | absent _ ih => exact ih (List.forall_mem_cons.mp hnames).2
  | @present name names setting text hset _ ih =>
      obtain ⟨hname, hnames⟩ := List.forall_mem_cons.mp hnames
      obtain ⟨body, rfl, hbody⟩ := ih hnames
      exact ⟨setting ++ body, by rw [List.append_assoc],
        List.forall_mem_append.mpr ⟨hset.mem hname, hbody⟩⟩

end SetsSome

/-! ### Declarations -/

theorem arePlainNames_declared : ArePlainNames ["encoding", "standalone"] := by decide

theorem Declares.allowed {declaration : List Char} (h : Declares declaration) :
    Allowed declaration := by
  cases h with
  | version hset hmore =>
      obtain ⟨body, rfl, hbody⟩ := hmore.exists_body arePlainNames_declared
      refine allowed_append_iff.mpr ⟨by decide, allowed_append_iff.mpr ⟨?_, allowed_append_iff.mpr
        ⟨fun c hc => (hbody c hc).1, by decide⟩⟩⟩
      exact fun c hc => (hset.mem (by decide) c hc).1

/-- Behind a space the settings are read one by one. -/
theorem skipDeclaration_space {setting text : List Char} (hset : Sets "version" (' ' :: setting))
    (hmore : SetsSome ["encoding", "standalone"] text) (s : List Char) :
    skipDeclaration ("<?xml ".toList ++ (setting ++ (text ++ s))) = some s := by
  have hskip : skipSpaces (setting ++ (text ++ s)) = skipSpaces (' ' :: setting ++ (text ++ s)) :=
    rfl
  obtain ⟨hbehind, a, hread⟩ := hset.read_eq (by decide) (text ++ s)
  rw [skipDeclaration, Text.behind?_append]
  simp only [hskip, hread]
  rw [if_pos hbehind]
  exact hmore.readDeclared_eq arePlainNames_declared (by decide) s

/-- Other white space in place of the space makes the declaration an instruction. -/
theorem read?_instruction {c : Char} (hc : isSpace c = true) (hne : c ≠ ' ') {body : List Char}
    (hbody : ∀ c ∈ body, c ≠ '?') (s : List Char) :
    Token.read? ("<?xml".toList ++ (c :: body ++ ("?>".toList ++ s))) = some (.aside, s) := by
  have hlabel : Text.behind? "xml " ("xml".toList ++ (c :: body ++ ("?>".toList ++ s))) = none := by
    simp [Text.behind?, hne.symm]
  have hdrop : ("xml".toList ++ (c :: body ++ ("?>".toList ++ s))).dropWhile isNameChar =
      c :: body ++ ("?>".toList ++ s) := by
    refine (Text.span_append (List.all_eq_true.mp (by decide)) ?_).2
    rintro d ⟨⟩
    exact isNameChar_of_isSpace hc
  have hmark : '?' ∉ c :: body := by
    refine List.not_mem_cons_of_ne_of_not_mem ?_ fun hmem => hbody _ hmem rfl
    rintro rfl
    cases hc
  have hcut : Text.cutBefore? "?>".toList (c :: body ++ ("?>".toList ++ s)) = some (c :: body, s) :=
    Text.cutBefore?_append hmark s
  change Token.readInstruction ("xml".toList ++ (c :: body ++ ("?>".toList ++ s))) = _
  rw [Token.readInstruction, hlabel, hdrop, hcut]
  rfl

/-- A declaration leaves nothing in what has been built. -/
theorem Declares.run_eq {declaration : List Char} (h : Declares declaration) (s : List Char) :
    (skipDeclaration (declaration ++ s)).bind (Building.run {}) = Building.run {} s := by
  cases h with
  | @version setting text hset hmore =>
      obtain ⟨c, setting, rfl, hc⟩ := hset.exists_cons
      -- The reader takes for a declaration only what has a space behind its first letters.
      by_cases hspace : c = ' '
      · subst hspace
        have hskip := skipDeclaration_space hset hmore s
        have hwritten : "<?xml".toList ++ (' ' :: setting ++ text) ++ s =
            "<?xml ".toList ++ (setting ++ (text ++ s)) := by
          simp
        rw [hwritten, hskip, Option.bind_some]
      · obtain ⟨body, rfl, hbody⟩ := hmore.exists_body arePlainNames_declared
        have hmark : ∀ d ∈ setting ++ body, d ≠ '?' := List.forall_mem_append.mpr
          ⟨fun d hd => (hset.mem (by decide) d (List.mem_cons_of_mem c hd)).2,
            fun d hd => (hbody d hd).2⟩
        have hwritten : "<?xml".toList ++ (c :: setting ++ (body ++ "?>".toList)) ++ s =
            "<?xml".toList ++ (c :: (setting ++ body) ++ ("?>".toList ++ s)) := by
          simp
        have hbehind : Text.behind? "<?xml "
            ("<?xml".toList ++ (c :: (setting ++ body) ++ ("?>".toList ++ s))) = none := by
          simp [Text.behind?, Ne.symm hspace]
        rw [hwritten, skipDeclaration, hbehind, Option.bind_some,
          Building.run_read (read?_instruction hc hspace hmark s) (by simp; omega)]
        rfl

end LoginGateway.Xml
