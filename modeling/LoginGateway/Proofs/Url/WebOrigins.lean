import LoginGateway.Http.Target
import LoginGateway.Proofs.Text.Splitting
import LoginGateway.Url.Join
import Mathlib.Data.List.TakeWhile

/-!
A URL that is put together from a host, as somebody wrote it, and a path. If no separator stands in
what was written, reading the URL gives back that host and port and the path, and nothing of one
component ends up in another. Main statement: `parse_behind_place`.
-/

namespace LoginGateway.Url

open Http (Target)

/-- The characters that end a host or the user information before it. -/
def isSeparator (c : Char) : Bool := "/\\?#@".toList.contains c

/-- Something is written, and no separator in it. -/
def Bare (s : List Char) : Prop := s ≠ [] ∧ ∀ c ∈ s, isSeparator c = false

/-- The text is a host, or a host and a port, and the authority has these and nothing else. -/
inductive NamesPlace : List Char → Authority → Prop
  | host {name : List Char} {host : Host} : Host.read true name = .ok host →
      NamesPlace name { host }
  | port {name digits : List Char} {host : Host} {n : Nat} : Host.read true name = .ok host →
      digits.all Char.isDigit = true → Text.numeral? 10 digits = some n → n ≤ 65535 →
      NamesPlace (name ++ ':' :: digits)
        { host, port := if digits.isEmpty ∨ n = 80 then none else some (UInt16.ofNat n) }

theorem isSeparator_eq (c : Char) : isSeparator c = (endsAuthority true c || c == '@') := by
  rw [Bool.eq_iff_iff]
  simp [isSeparator, endsAuthority, Path.isSlash, endsPath, or_assoc]

theorem endsAuthority_of_not_separator {c : Char} (h : isSeparator c = false) :
    endsAuthority true c = false := by
  rw [isSeparator_eq, Bool.or_eq_false_iff] at h
  exact h.1

section authority

variable {written rest : List Char}

theorem cutUserinfo_of_bare (h : Bare written) (rest : List Char) :
    cutUserinfo true (written ++ '/' :: rest) = .ok (none, written ++ '/' :: rest) := by
  have hall : ∀ c ∈ written, (!endsAuthority true c) = true := by
    intro c hc
    rw [endsAuthority_of_not_separator (h.2 c hc)]
    rfl
  have htake : (written ++ '/' :: rest).takeWhile (!endsAuthority true ·) = written := by
    rw [List.takeWhile_append_of_pos hall]
    simp [endsAuthority, Path.isSlash]
  have hsign : '@' ∉ written := by
    intro hmem
    have hsep := h.2 '@' hmem
    revert hsep
    decide
  rw [cutUserinfo, htake, Text.cutAtLast?_of_not_mem hsign]

/-- The host is cut off at the same place whatever follows a slash. -/
theorem cutHost_append (h : ∀ c ∈ written, endsAuthority true c = false) (inBrackets : Bool)
    (rest : List Char) :
    cutHost true inBrackets (written ++ '/' :: rest) =
      ((cutHost true inBrackets written).1, (cutHost true inBrackets written).2 ++ '/' :: rest) := by
  induction written generalizing inBrackets with
  | nil => rfl
  | cons c written ih =>
      rw [List.cons_append, cutHost, cutHost]
      split
      · rfl
      · rw [ih fun d hd => h d (List.mem_cons_of_mem c hd)]

theorem cutHost_eq_append (h : ∀ c ∈ written, endsAuthority true c = false) (inBrackets : Bool) :
    (cutHost true inBrackets written).1 ++ (cutHost true inBrackets written).2 = written ∧
      ((cutHost true inBrackets written).2 = [] ∨
        ∃ after, (cutHost true inBrackets written).2 = ':' :: after) := by
  induction written generalizing inBrackets with
  | nil => exact ⟨rfl, .inl rfl⟩
  | cons c written ih =>
      rw [cutHost]
      split
      · next hends =>
          rw [h c List.mem_cons_self, Bool.false_or, Bool.and_eq_true] at hends
          exact ⟨rfl, .inr ⟨written, by rw [beq_iff_eq.mp hends.1]⟩⟩
      · obtain ⟨happend, hafter⟩ :=
          ih (fun d hd => h d (List.mem_cons_of_mem c hd))
            (if c == '[' then true else inBrackets && c != ']')
        exact ⟨congrArg (c :: ·) happend, hafter⟩

theorem digitValue?_of_isDigit {c : Char} (h : c.isDigit = true) :
    ∃ d, Text.digitValue? c = some d ∧ d < 10 := by
  have hrange : 0x30 ≤ c.toNat ∧ c.toNat ≤ 0x39 := by
    simpa [Char.isDigit, UInt32.le_iff_toNat_le] using h
  exact ⟨c.toNat - 0x30, if_pos hrange, by omega⟩

theorem numeral?_of_isDigit {digits : List Char} (h : digits.all Char.isDigit = true) :
    ∃ n, Text.numeral? 10 digits = some n := by
  have hfold (n : Nat) : ∃ m, digits.foldl (fun acc c => do
      let value ← acc
      let d ← Text.digitValue? c
      if d < 10 then some (value * 10 + d) else none) (some n) = some m := by
    induction digits generalizing n with
    | nil => exact ⟨n, rfl⟩
    | cons c digits ih =>
        rw [List.all_cons, Bool.and_eq_true] at h
        obtain ⟨d, hd, hlt⟩ := digitValue?_of_isDigit h.1
        rw [List.foldl_cons]
        simp only [hd, Option.bind_eq_bind, Option.bind_some, if_pos hlt]
        exact ih h.2 _
  exact hfold 0

theorem httpPort_iff {n : Nat} (h : n ≤ 65535) :
    (defaultPort? "http".toList == some (UInt16.ofNat n)) = true ↔ n = 80 := by
  have hdefault : defaultPort? "http".toList = some 80 := by decide
  rw [hdefault, beq_iff_eq, Option.some.injEq, ← UInt16.toNat_inj, UInt16.toNat_ofNat']
  have hmod : n % 65536 = n := Nat.mod_eq_of_lt (by omega)
  constructor
  · intro heq
    rw [← hmod]
    exact heq.symm
  · rintro rfl
    rfl

theorem readPort_of_bare {digits rest' : List Char} {port : Option UInt16}
    (h : ∀ c ∈ digits, endsAuthority true c = false)
    (hport : readPort "http".toList (digits ++ '/' :: rest) = .ok (port, rest')) :
    rest' = '/' :: rest ∧ digits.all Char.isDigit = true ∧
      ∃ n, Text.numeral? 10 digits = some n ∧ n ≤ 65535 ∧
        port = if digits.isEmpty ∨ n = 80 then none else some (UInt16.ofNat n) := by
  have hslash : Char.isDigit '/' = false := by decide
  rw [readPort] at hport
  by_cases hdigits : digits.all Char.isDigit = true
  · obtain ⟨n, hn⟩ := numeral?_of_isDigit hdigits
    have hall : ∀ c ∈ digits, c.isDigit = true := List.all_eq_true.mp hdigits
    rw [List.dropWhile_append_of_pos hall, List.takeWhile_append_of_pos hall,
      List.dropWhile_cons_of_neg (by simp [hslash]), List.takeWhile_cons_of_neg (by simp [hslash]),
      List.append_nil, hn] at hport
    simp only [Option.getD_some] at hport
    split at hport
    · cases hport
    · next hbound =>
        have hle : n ≤ 65535 := by
          simp only [Bool.or_eq_true, decide_eq_true_eq, not_or] at hbound
          omega
        cases hport
        refine ⟨rfl, hdigits, n, hn, hle, ?_⟩
        simp only [Bool.or_eq_true, httpPort_iff hle]
  · -- The first character that is no digit would have to end the authority.
    have hne : digits.dropWhile Char.isDigit ≠ [] := by
      rw [ne_eq, List.dropWhile_eq_nil_iff]
      simpa using hdigits
    obtain ⟨c, after, hafter⟩ := List.exists_cons_of_ne_nil hne
    have hc : endsAuthority true c = false :=
      h c (List.dropWhile_subset _ (hafter ▸ List.mem_cons_self))
    rw [List.dropWhile_append, hafter] at hport
    simp [hc] at hport

theorem readAuthority_of_bare (h : Bare written) {authority : Authority} {rest' : List Char}
    (hread : readAuthority "http".toList (written ++ '/' :: rest) = .ok (authority, rest')) :
    rest' = '/' :: rest ∧ NamesPlace written authority := by
  have hall : ∀ c ∈ written, endsAuthority true c = false := fun c hc =>
    endsAuthority_of_not_separator (h.2 c hc)
  obtain ⟨happend, hafter⟩ := cutHost_eq_append hall false
  rw [readAuthority] at hread
  simp only [show (SchemeKind.of "http".toList).isSpecial = true by decide,
    cutUserinfo_of_bare h, bind, Except.bind, cutHost_append hall, Bool.true_and] at hread
  -- From here on only the two pieces count, not how they were cut.
  generalize (cutHost true false written).1 = name at *
  generalize (cutHost true false written).2 = after at *
  split at hread
  · cases hread
  cases hhost : Host.read true name with
  | error e =>
      rw [hhost] at hread
      cases hread
  | ok host =>
      rw [hhost] at hread
      rcases hafter with rfl | ⟨digits, rfl⟩
      -- The host alone was written.
      · simp only [List.nil_append] at hread
        split at hread
        · next heq => cases heq
        split at hread
        · cases hread
        cases hread
        rw [List.append_nil] at happend
        exact ⟨rfl, happend ▸ .host hhost⟩
      -- A port was written behind a colon.
      · simp only [List.cons_append] at hread
        split at hread
        · cases hread
        cases hport : readPort "http".toList (digits ++ '/' :: rest) with
        | error e =>
            rw [hport] at hread
            cases hread
        | ok p =>
            rw [hport] at hread
            cases hread
            have hdigits : ∀ c ∈ digits, endsAuthority true c = false := by
              intro c hc
              apply hall
              rw [← happend]
              exact List.mem_append_right _ (List.mem_cons_of_mem _ hc)
            obtain ⟨hrest, hdigits, n, hn, hle, hp⟩ := readPort_of_bare hdigits hport
            refine ⟨hrest, ?_⟩
            rw [← happend, hp]
            exact .port hhost hdigits hn hle

end authority

/-! ### The whole text -/

theorem isBlank_of_isSkipped {c : Char} (h : isSkipped c = true) : isBlank c = true := by
  simp only [isSkipped, Bool.or_eq_true, beq_iff_eq] at h
  rcases h with (rfl | rfl) | rfl <;> decide

/-- The text without the characters that are skipped wherever they stand. -/
def unskipped (s : List Char) : List Char := s.filter (!isSkipped ·)

theorem unskipped_of_not_blank {s : List Char} (h : ∀ c ∈ s, isBlank c = false) :
    unskipped s = s := by
  rw [unskipped, List.filter_eq_self]
  intro c hc
  by_contra hskipped
  have hblank : isBlank c = true := isBlank_of_isSkipped (by simpa using hskipped)
  rw [h c hc] at hblank
  cases hblank

theorem clean_behind_scheme {host tail : List Char} (hne : tail ≠ [])
    (htail : ∀ c ∈ tail, isBlank c = false) :
    clean ("http://".toList ++ host ++ tail) = "http://".toList ++ unskipped host ++ tail := by
  have htrim : Text.trimWhere isBlank ("http://".toList ++ host ++ tail) =
      "http://".toList ++ host ++ tail := Text.trimWhere_of_ends (by decide) hne htail
  rw [clean, htrim]
  change unskipped _ = _
  have happend (s t : List Char) : unskipped (s ++ t) = unskipped s ++ unskipped t :=
    List.filter_append s t
  rw [happend, happend, unskipped_of_not_blank htail]
  rfl

theorem parse_behind_scheme {host tail : List Char} (hne : tail ≠ [])
    (htail : ∀ c ∈ tail, isBlank c = false) :
    parse ("http://".toList ++ host ++ tail) =
      readHierarchy "http".toList ((unskipped host ++ tail).dropWhile (Path.isSlash true)) := by
  rw [parse, clean_behind_scheme hne htail, List.append_assoc]
  rfl

theorem withTail_query {u : Url} (hspecial : u.isSpecial = true) (hnone : u.query = none)
    {query : Option (List Char)} (hquery : ∀ q, query = some q → '#' ∉ q) :
    u.withTail (Target.renderQuery query) =
      { u with query := query.map (Percent.encode Percent.specialQuerySet) } := by
  cases query with
  | none =>
      obtain ⟨scheme, authority, path, own, fragment⟩ := u
      cases hnone
      rfl
  | some q =>
      have hall : ∀ c ∈ q, (c != '#') = true := by
        intro c hc
        simpa using fun heq : c = '#' => hquery q rfl (heq ▸ hc)
      rw [Target.renderQuery, withTail, List.takeWhile_eq_self_iff.mpr hall,
        List.dropWhile_eq_nil_iff.mpr hall, if_pos hspecial]
      rfl

theorem behindAuthority_query {scheme : List Char} (hkind : SchemeKind.of scheme = .web)
    (authority : Authority) {path : List Char} (hpath : ∀ c ∈ path, endsPath c = false)
    {query : Option (List Char)} (hquery : ∀ q, query = some q → '#' ∉ q) :
    behindAuthority scheme authority (path ++ Target.renderQuery query) =
      { scheme := scheme
        authority := some authority
        path := .segments (Path.read .web path)
        query := query.map (Percent.encode Percent.specialQuerySet)
        fragment := none } := by
  have hall : ∀ c ∈ path, (!endsPath c) = true := by
    intro c hc
    rw [hpath c hc]
    rfl
  have htake : (path ++ Target.renderQuery query).takeWhile (!endsPath ·) = path := by
    rw [List.takeWhile_append_of_pos hall]
    cases query <;> simp [Target.renderQuery, endsPath]
  have hdrop : (path ++ Target.renderQuery query).dropWhile (!endsPath ·) = Target.renderQuery query := by
    rw [List.dropWhile_append_of_pos hall]
    cases query <;> simp [Target.renderQuery, endsPath]
  have hspecial : Url.isSpecial (ofParts scheme (some authority)
      (.segments (Path.read .web path))) = true := by
    rw [Url.isSpecial, Url.kind, ofParts, hkind]
    rfl
  rw [behindAuthority, htake, hdrop, hkind, withTail_query hspecial rfl hquery]
  rfl

/-- If no separator stands in what was written for the host, the URL has that place and the path and
query behind it, and nothing else. -/
theorem parse_behind_place {host path : List Char} {query : Option (List Char)} {u : Url}
    (hbare : Bare (unskipped host)) (hpath : ∀ c ∈ path, endsPath c = false ∧ isBlank c = false)
    (hquery : ∀ q, query = some q → ∀ c ∈ q, c ≠ '#' ∧ isBlank c = false)
    (hparse : parse ("http://".toList ++ host ++ ('/' :: path ++ Target.renderQuery query)) = .ok u) :
    ∃ authority, NamesPlace (unskipped host) authority ∧
      u = { scheme := "http".toList
            authority := some authority
            path := .segments (Path.read .web ('/' :: path))
            query := query.map (Percent.encode Percent.specialQuerySet)
            fragment := none } := by
  have htail : ∀ c ∈ '/' :: path ++ Target.renderQuery query, isBlank c = false := by
    intro c hc
    rcases List.mem_append.mp hc with hc | hc
    · rcases List.mem_cons.mp hc with rfl | hc
      · decide
      · exact (hpath c hc).2
    · cases query with
      | none => cases hc
      | some q =>
          rcases List.mem_cons.mp hc with rfl | hc
          · decide
          · exact (hquery q rfl c hc).2
  rw [parse_behind_scheme (by simp) htail] at hparse
  obtain ⟨c, rest, hwritten⟩ := List.exists_cons_of_ne_nil hbare.1
  have hslash : Path.isSlash true c = false := by
    have hends := endsAuthority_of_not_separator (hbare.2 c (hwritten ▸ List.mem_cons_self))
    rw [endsAuthority, Bool.or_eq_false_iff] at hends
    exact hends.1
  have hdrop : (unskipped host ++ ('/' :: path ++ Target.renderQuery query)).dropWhile (Path.isSlash true) =
      unskipped host ++ '/' :: (path ++ Target.renderQuery query) := by
    rw [hwritten, List.cons_append, List.dropWhile_cons_of_neg (by simp [hslash])]
    rfl
  rw [hdrop, readHierarchy] at hparse
  cases hread : readAuthority "http".toList (unskipped host ++ '/' :: (path ++ Target.renderQuery query)) with
  | error e =>
      rw [hread] at hparse
      cases hparse
  | ok p =>
      rw [hread] at hparse
      cases hparse
      obtain ⟨hrest, hplace⟩ := readAuthority_of_bare hbare hread
      refine ⟨p.1, hplace, ?_⟩
      rw [hrest, ← List.cons_append, behindAuthority_query (by decide)]
      · intro c hc
        rcases List.mem_cons.mp hc with rfl | hc
        · decide
        · exact (hpath c hc).1
      · intro q hq hmem
        exact (hquery q hq '#' hmem).1 rfl

end LoginGateway.Url
