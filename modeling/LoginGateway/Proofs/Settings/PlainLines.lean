import LoginGateway.Proofs.Settings.Layers
import LoginGateway.Proofs.Text.Numerals

/-!
Files of variables in plain writing, without quotes, dollar signs and comments. A line that is a
name, an equals sign and a value assigns the value, and a line without an equals sign is malformed.
Main statements: `assignments_written`, `assignments_written_malformed`, `assigned_written`.
-/

namespace LoginGateway.Settings.EnvironmentFile

/-! ### Single lines -/

/-- The character stands for itself, wherever in a value it stands. -/
def IsPlain (c : Char) : Prop := Text.isWhiteSpace c = false ∧ c ∉ "\\'\"#$".toList

instance (c : Char) : Decidable (IsPlain c) := inferInstanceAs (Decidable (_ ∧ _))

theorem IsPlain.ne_mark {c : Char} (h : IsPlain c) :
    c ≠ '\\' ∧ c ≠ '\'' ∧ c ≠ '"' ∧ c ≠ '#' ∧ c ≠ '$' := by
  simpa using h.2

theorem IsPlain.ne_space {c : Char} (h : IsPlain c) :
    c ≠ ' ' ∧ c ≠ '\t' ∧ c ≠ '\r' ∧ c ≠ '\n' := by
  refine ⟨?_, ?_, ?_, ?_⟩ <;> (rintro rfl; exact absurd h.1 (by decide))

theorem isPlain_of_isKeyChar {c : Char} (h : isKeyChar c = true) : IsPlain c := by
  rw [isKeyChar, Bool.or_eq_true, Bool.or_eq_true, beq_iff_eq, beq_iff_eq] at h
  rcases h with (halnum | rfl) | rfl
  · rw [Text.isAlphanum_iff] at halnum
    constructor
    · simp only [Text.isWhiteSpace, List.any_cons, List.any_nil]
      grind
    · intro hmem
      have hcode : c.toNat = 92 ∨ c.toNat = 39 ∨ c.toNat = 34 ∨ c.toNat = 35 ∨ c.toNat = 36 := by
        simpa using List.mem_map_of_mem (f := Char.toNat) hmem
      omega
  · decide
  · decide

/-- An assignment in plain writing. -/
structure Plain where
  name : List Char
  value : List Char
  start : name.head?.any isKeyStart = true
  keyed : ∀ c ∈ name, isKeyChar c = true
  plain : ∀ c ∈ value, IsPlain c

namespace Plain

variable (p : Plain)

def line : List Char := p.name ++ '=' :: p.value

def pair : String × String := (String.ofList p.name, String.ofList p.value)

theorem isPlain_of_mem_line {c : Char} (hc : c ∈ p.line) : IsPlain c := by
  rcases List.mem_append.mp hc with hc | hc
  · exact isPlain_of_isKeyChar (p.keyed c hc)
  · rcases List.mem_cons.mp hc with rfl | hc
    · decide
    · exact p.plain c hc

theorem name_ne_nil : p.name ≠ [] := by
  intro h
  simpa [h] using p.start

theorem pair_ne : "" ≠ p.pair.1 := by
  intro h
  exact p.name_ne_nil (String.ofList_injective h.symm)

end Plain

theorem skipSpace_of_plain {s : List Char} (h : ∀ c ∈ s, IsPlain c) : skipSpace s = s :=
  Text.dropWhile_of_none fun c hc => (h c hc).1

theorem trimEnd_of_plain {s : List Char} (h : ∀ c ∈ s, IsPlain c) : trimEnd s = s := by
  rw [trimEnd, Text.dropEndWhile_eq_rdropWhile, List.rdropWhile,
    Text.dropWhile_of_none fun c hc => (h c (List.mem_reverse.mp hc)).1, List.reverse_reverse]

theorem readAssignment_plain (p : Plain) : readAssignment p.line = some (p.name, p.value) := by
  have hstop : ∀ c ∈ ('=' :: p.value).head?, isKeyChar c = false := by
    rintro _ ⟨⟩
    decide
  obtain ⟨htake, hdrop⟩ := Text.span_append p.keyed hstop
  have hstart : p.line.head?.any isKeyStart = true := by
    rw [Plain.line, List.head?_append_of_ne_nil _ p.name_ne_nil]
    exact p.start
  have hbehind : skipSpace ('=' :: p.value) = '=' :: p.value :=
    List.dropWhile_cons_of_neg (by decide)
  have hkey : readKey p.line = some (p.name, '=' :: p.value) := by
    rw [readKey, if_pos hstart, Plain.line, htake, hdrop, hbehind]
  rw [readAssignment, hkey]
  simp only [Option.bind_eq_bind, Option.bind_some, behindEquals, skipSpace_of_plain p.plain]

/-- A plain value is read as it is written. Behind it a name ends that is empty, which is the name of
no variable. -/
theorem readValue_plain {env : Environment} (hnameless : env.get? "" = none) {s : List Char}
    (hs : ∀ c ∈ s, IsPlain c) (before : List Char) :
    readValue env { text := before } s = some (String.ofList (before ++ s)) := by
  induction s generalizing before with
  | nil => simp [readValue, Reading.finish, Reading.substitute, hnameless]
  | cons c rest ih =>
      have hc := hs c List.mem_cons_self
      have hstep : Reading.step env { text := before } c = some { text := before ++ [c] } := by
        simp [Reading.step, Reading.plain, Reading.put, hc.ne_mark, hc.ne_space]
      rw [readValue, if_neg (by simp), hstep, Option.bind_some,
        ih (fun d hd => hs d (List.mem_cons_of_mem _ hd)), List.append_assoc, List.singleton_append]

theorem head?_ne_of_not_mem {c : Char} {s : List Char} (h : c ∉ s) :
    (s.head? == some c) = false :=
  beq_eq_false_iff_ne.mpr fun hhead => h (List.mem_of_mem_head? hhead)

theorem not_mem_of_plain {s : List Char} (h : ∀ c ∈ s, IsPlain c) : '#' ∉ s :=
  fun hmem => absurd (h '#' hmem) (by decide)

theorem readLine_plain {env : Environment} (hnameless : env.get? "" = none) (p : Plain) :
    readLine env p.line = some (some p.pair) := by
  have hplain : ∀ c ∈ p.line, IsPlain c := fun c hc => p.isPlain_of_mem_line hc
  have hline : skipSpace (trimEnd p.line) = p.line := by
    rw [trimEnd_of_plain hplain, skipSpace_of_plain hplain]
  have hempty : p.line.isEmpty = false := by simp [Plain.line]
  have hvalue := readValue_plain hnameless p.plain []
  rw [readLine, hline, hempty, head?_ne_of_not_mem (not_mem_of_plain hplain), Bool.false_or,
    if_neg Bool.false_ne_true, readAssignment_plain]
  simp only [Option.bind_eq_bind, Option.bind_some, head?_ne_of_not_mem (not_mem_of_plain p.plain),
    Bool.false_eq_true, if_false]
  rw [hvalue]
  rfl

theorem mem_of_readKey {s key rest : List Char} (h : readKey s = some (key, rest)) {c : Char}
    (hc : c ∈ rest) : c ∈ s := by
  rw [readKey] at h
  split at h
  · cases h
    exact (List.dropWhile_sublist _).mem ((List.dropWhile_sublist _).mem hc)
  · cases h

theorem behindEquals_of_not_mem {s : List Char} (h : '=' ∉ s) : behindEquals s = none := by
  rw [behindEquals.eq_def]
  split
  · exact absurd List.mem_cons_self h
  · rfl

theorem readAssignment_of_not_mem {s : List Char} (h : '=' ∉ s) : readAssignment s = none := by
  rw [readAssignment]
  cases hkey : readKey s with
  | none => rfl
  | some p =>
      obtain ⟨key, rest⟩ := p
      have hrest : '=' ∉ rest := mt (mem_of_readKey hkey) h
      simp only [Option.bind_eq_bind, Option.bind_some, behindEquals_of_not_mem hrest]
      -- The word `export` is followed by one more name, and that by the end or an equals sign.
      cases hkey' : readKey rest with
      | none => simp only [Option.bind_none, ite_self]
      | some p' =>
          obtain ⟨key', rest'⟩ := p'
          simp only [Option.bind_some, behindEquals_of_not_mem (mt (mem_of_readKey hkey') hrest),
            Option.bind_none, ite_self]

theorem mem_of_mem_trim {s : List Char} {c : Char} (h : c ∈ skipSpace (trimEnd s)) : c ∈ s :=
  (List.rdropWhile_prefix _ _).subset ((List.dropWhile_sublist _).mem h)

theorem trim_ne_nil {s : List Char} {c : Char} (hc : c ∈ s) (hsolid : Text.isWhiteSpace c = false) :
    skipSpace (trimEnd s) ≠ [] := by
  intro h
  rw [skipSpace, List.dropWhile_eq_nil_iff] at h
  have hsplit : c ∈ s.reverse.takeWhile Text.isWhiteSpace ++
      s.reverse.dropWhile Text.isWhiteSpace := by
    rw [List.takeWhile_append_dropWhile]
    exact List.mem_reverse.mpr hc
  rcases List.mem_append.mp hsplit with hfront | hback
  · simp [List.mem_takeWhile_imp hfront] at hsolid
  · simp [h c (List.mem_reverse.mpr hback)] at hsolid

/-- A line that says something without an equals sign is malformed. -/
theorem readLine_eq_none {line : List Char} (env : Environment) (hequals : '=' ∉ line)
    (hcomment : '#' ∉ line) (hsolid : ∃ c ∈ line, Text.isWhiteSpace c = false) :
    readLine env line = none := by
  obtain ⟨c, hc, hsolid⟩ := hsolid
  rw [readLine, List.isEmpty_eq_false_iff.mpr (trim_ne_nil hc hsolid),
    head?_ne_of_not_mem (mt mem_of_mem_trim hcomment), Bool.false_or, if_neg Bool.false_ne_true,
    readAssignment_of_not_mem (mt mem_of_mem_trim hequals)]
  rfl

/-! ### Lines of a file -/

/-- The lines of a text. -/
def linesIn (text : List Char) : List (Option (List Char)) :=
  logicalLines [] .complete (physicalLines text)

/-- Nothing in the line is a quote, a backslash, a number sign or an end. -/
def Unquoted (line : List Char) : Prop := ∀ c ∈ line, c ∉ "\\'\"#\r\n".toList

theorem physicalLines_line {line : List Char} (h : '\n' ∉ line) (rest : List Char) :
    physicalLines (line ++ '\n' :: rest) = (line ++ ['\n']) :: physicalLines rest := by
  induction line with
  | nil => simp [physicalLines]
  | cons c line ih =>
      have hc : (c == '\n') = false := beq_eq_false_iff_ne.mpr (List.ne_of_not_mem_cons h).symm
      rw [List.cons_append, physicalLines, hc, ih (List.not_mem_of_not_mem_cons h)]
      rfl

/-- Outside of quotes, a line stays outside of them, and its end is an end. -/
theorem scanLine_unquoted {line : List Char} (h : Unquoted line) {state : Scan}
    (hstate : state = .complete ∨ state = .blank) :
    scanLine state (line ++ ['\n']) = (line ++ ['\n'], .complete) := by
  induction line generalizing state with
  | nil => rcases hstate with rfl | rfl <;> decide
  | cons c line ih =>
      obtain ⟨hbackslash, hsingle, hdouble, hcomment, -, -⟩ :
          c ≠ '\\' ∧ c ≠ '\'' ∧ c ≠ '"' ∧ c ≠ '#' ∧ c ≠ '\r' ∧ c ≠ '\n' := by
        simpa using h c List.mem_cons_self
      have hstart : Scan.start c = .complete := by simp [Scan.start, hbackslash, hsingle, hdouble]
      have hnext : state.step c = .complete ∨ state.step c = .blank := by
        rcases hstate with rfl | rfl
        · rw [Scan.step, hstart]
          split
          · exact .inr rfl
          · exact .inl rfl
        · rw [Scan.step, hstart, if_neg (by simpa using hcomment)]
          exact .inl rfl
      have hrest := ih (fun d hd => h d (List.mem_cons_of_mem _ hd)) hnext
      rw [List.cons_append, scanLine]
      rcases hnext with hnext | hnext <;> rw [hnext] at hrest ⊢ <;> simp [hrest]

theorem withoutLineEnd_concat {line : List Char} (h : '\r' ∉ line) :
    withoutLineEnd (line ++ ['\n']) = line := by
  have hlast : line.getLast? ≠ some '\r' := fun hlast => h (List.mem_of_getLast? hlast)
  rw [withoutLineEnd, if_pos (by simp), List.dropLast_concat, if_neg hlast]

theorem linesIn_line {line : List Char} (h : Unquoted line) (rest : List Char) :
    linesIn (line ++ '\n' :: rest) = some line :: linesIn rest := by
  have hcomment : '#' ∉ skipSpace (line ++ ['\n']) := by
    intro hmem
    rcases List.mem_append.mp ((List.dropWhile_sublist _).mem hmem) with hmem | hmem
    · exact h '#' hmem (by decide)
    · exact absurd hmem (by decide)
  rw [linesIn, physicalLines_line fun hmem => h _ hmem (by decide), logicalLines,
    if_neg (by simpa using head?_ne_of_not_mem hcomment), scanLine_unquoted h (.inl rfl)]
  simp only [List.nil_append, withoutLineEnd_concat fun hmem => h _ hmem (by decide)]
  rfl

/-! ### Files -/

variable {env : Environment}

/-- Assignments as lines of a file. -/
def written (ps : List Plain) : List Char := ps.flatMap fun p => p.line ++ ['\n']

theorem Plain.unquoted (p : Plain) : Unquoted p.line := by
  intro c hc
  have hplain := p.isPlain_of_mem_line hc
  simp [hplain.ne_mark, hplain.ne_space]

/-- A file that begins with plain assignments assigns these first, whatever comes behind them. -/
theorem assignments_written (hnameless : env.get? "" = none) (ps : List Plain) (rest : List Char) :
    assignments env (linesIn (written ps ++ rest)) = ps.map Plain.pair ++
      assignments (ps.foldl (fun env p => env.setDefault p.pair.1 p.pair.2) env)
        (linesIn rest) := by
  induction ps generalizing env with
  | nil => rfl
  | cons p ps ih =>
      have hcons : written (p :: ps) ++ rest = p.line ++ '\n' :: (written ps ++ rest) := by
        simp [written]
      have hnext : (env.setDefault p.pair.1 p.pair.2).get? "" = none := by
        rw [Environment.get?_setDefault, hnameless, Option.none_or, if_neg p.pair_ne]
      rw [hcons, linesIn_line p.unquoted, assignments, readLine_plain hnameless p]
      simp only [List.map_cons, List.foldl_cons, List.cons_append, ih hnext]

/-- What stands behind a malformed line is not looked at. -/
theorem assignments_written_malformed (hnameless : env.get? "" = none) (ps : List Plain)
    {line : List Char} (hline : Unquoted line) (hequals : '=' ∉ line)
    (hsolid : ∃ c ∈ line, Text.isWhiteSpace c = false) (rest : List Char) :
    assignments env (linesIn (written ps ++ (line ++ '\n' :: rest))) = ps.map Plain.pair := by
  have hcomment : '#' ∉ line := fun hmem => hline _ hmem (by decide)
  rw [assignments_written hnameless, linesIn_line hline, assignments,
    readLine_eq_none _ hequals hcomment hsolid, List.append_nil]

theorem skipMark_written (ps : List Plain) : skipMark (written ps) = written ps := by
  cases ps with
  | nil => rfl
  | cons p ps =>
      obtain ⟨c, name, hname⟩ := List.exists_cons_of_ne_nil p.name_ne_nil
      have hc : isKeyChar c = true := p.keyed c (hname ▸ List.mem_cons_self)
      have hwritten : written (p :: ps) = c :: (name ++ '=' :: p.value ++ ['\n'] ++ written ps) := by
        simp [written, Plain.line, hname]
      rw [hwritten, skipMark.eq_def]
      split
      · next hmark =>
          cases hmark
          exact absurd hc (by decide)
      · rfl

/-- A file of plain assignments assigns these, in their order. -/
theorem assigned_written (hnameless : env.get? "" = none) (ps : List Plain) :
    assigned env (some (String.ofList (written ps))) = ps.map Plain.pair := by
  have hlines := assignments_written hnameless ps []
  rw [List.append_nil] at hlines
  rw [assigned, String.toList_ofList, skipMark_written]
  exact hlines.trans (List.append_nil _)

end LoginGateway.Settings.EnvironmentFile
