import LoginGateway.Proofs.Url.BaseAddress

/-!
One more slash behind the text of a URL of the web. If the text ends with the path of the URL, the
slash belongs to that path and to nothing else: the path gains an empty segment at its end, unless
the piece before the slash was made of dots. Main statement: `parse_concat_slash`.
-/

namespace LoginGateway

/-! ### The path -/

namespace Path

/-- Piece by piece, none of them the last. -/
def addEach (before pieces : List (List Char)) : List (List Char) :=
  pieces.foldl (fun segments piece => add false segments piece false) before

theorem addAll_concat (before pieces : List (List Char)) (piece : List Char) :
    addAll false before (pieces ++ [piece]) = add false (addEach before pieces) piece true := by
  induction pieces generalizing before with
  | nil => rfl
  | cons p rest ih =>
      obtain ⟨next, more, hmore⟩ : ∃ next more, rest ++ [piece] = next :: more :=
        List.exists_cons_of_ne_nil (by simp)
      rw [List.cons_append, hmore, addAll, ← hmore, ih]
      rfl

theorem addEach_concat (before pieces : List (List Char)) (piece : List Char) :
    addEach before (pieces ++ [piece]) = add false (addEach before pieces) piece false := by
  simp [addEach]

theorem dropSlash_append {text : List Char} (hne : text ≠ []) (more : List Char) :
    dropSlash true (text ++ more) = dropSlash true text ++ more := by
  obtain ⟨c, rest, rfl⟩ := List.exists_cons_of_ne_nil hne
  rw [List.cons_append, dropSlash, dropSlash]
  split <;> rfl

/-- The text ends in a slash or in a piece that has no end yet. -/
theorem splitWhere_dropSlash_concat (front : List Char) (c : Char) :
    ∃ pieces piece, Text.splitWhere (isSlash true) (dropSlash true (front ++ [c])) =
      pieces ++ [piece] ∧ (piece = [] ↔ isSlash true c = true) := by
  cases hc : isSlash true c with
  | true =>
      rcases eq_or_ne front [] with rfl | hne
      · refine ⟨[], [], ?_, by simp⟩
        rw [List.nil_append, dropSlash, if_pos hc]
        rfl
      · refine ⟨Text.splitWhere (isSlash true) (dropSlash true front), [], ?_, by simp⟩
        rw [dropSlash_append hne, Text.splitWhere_concat_of_sep hc]
  | false =>
      have hdrop : ∃ kept, dropSlash true (front ++ [c]) = kept ++ [c] := by
        rcases eq_or_ne front [] with rfl | hne
        · exact ⟨[], by rw [List.nil_append, dropSlash, if_neg (by simp [hc])]⟩
        · exact ⟨_, dropSlash_append hne [c]⟩
      obtain ⟨kept, hkept⟩ := hdrop
      obtain ⟨pieces, piece, -, hsplit⟩ := Text.splitWhere_concat_of_not_sep hc kept
      exact ⟨pieces, piece ++ [c], hkept ▸ hsplit, by simp⟩

theorem encode_ne_nil {escaped : Percent.EscapeSet} {s : List Char} (hne : s ≠ []) :
    Percent.encode escaped s ≠ [] := by
  obtain ⟨c, rest, rfl⟩ := List.exists_cons_of_ne_nil hne
  obtain ⟨b, bs, hbytes⟩ := List.exists_cons_of_ne_nil (Utf8.encodeChar_ne_nil c)
  rw [Percent.encode, List.flatMap_cons, Percent.encodeChar]
  split
  · simp
  · simp [hbytes, Percent.encodeByte]

/-- Dots at the end of a path leave an empty segment. Any other piece is a segment itself, wherever it
stands. -/
theorem add_last (before : List (List Char)) (piece : List Char) :
    add false before piece true = add false before piece false ++ [[]] ∧ piece ≠ [] ∨
      add false before piece true = add false before piece false ∧
        ((add false before piece true).getLast? = some [] ↔ piece = []) := by
  simp only [add]
  split
  · next hdots =>
      refine .inl ⟨by simp [emptyIf], ?_⟩
      rintro rfl
      exact absurd hdots (by decide)
  · split
    · next hdots =>
        refine .inl ⟨by simp [emptyIf], ?_⟩
        rintro rfl
        exact absurd hdots (by decide)
    · refine .inr ⟨rfl, ?_⟩
      simp only [List.getLast?_concat, Option.some.injEq, plainSegment, Bool.false_and,
        Bool.false_eq_true, if_false]
      refine ⟨fun hnil => ?_, ?_⟩
      · by_contra hne
        exact encode_ne_nil hne hnil
      · rintro rfl
        rfl

/-- A slash behind a path adds an empty segment. Behind dots, which leave one themselves, it adds
none. -/
theorem read_concat_slash (text : List Char) :
    Path.read .web (text ++ ['/']) = Path.read .web text ∧
        (∀ c ∈ text.getLast?, isSlash true c = false) ∨
      Path.read .web (text ++ ['/']) = Path.read .web text ++ [[]] ∧
        ((Path.read .web text).getLast? = some [] ↔ ∃ c ∈ text.getLast?, isSlash true c = true) := by
  rcases List.eq_nil_or_concat' text with rfl | ⟨front, c, rfl⟩
  · exact .inl ⟨rfl, by simp⟩
  · obtain ⟨pieces, piece, hsplit, hpiece⟩ := splitWhere_dropSlash_concat front c
    have hslash : Text.splitWhere (isSlash true) (dropSlash true (front ++ [c] ++ ['/'])) =
        pieces ++ [piece] ++ [[]] := by
      rw [dropSlash_append (by simp), Text.splitWhere_concat_of_sep (by decide), hsplit]
    rw [read_web, read_web, hslash, hsplit, addAll_concat, addAll_concat, addEach_concat,
      add_of_settled settled_nil]
    simp only [List.getLast?_concat, Option.mem_some_iff, forall_eq', exists_eq_left']
    rw [← hpiece, ← Bool.not_eq_true, ← hpiece]
    rcases add_last (addEach [] pieces) piece with ⟨hdots, hne⟩ | ⟨hplain, hempty⟩
    · exact .inl ⟨hdots.symm, hne⟩
    · exact .inr ⟨by rw [hplain], hempty⟩

end Path

namespace Url

/-! ### The authority -/

theorem cutUserinfo_concat {s behind : List Char} {userinfo : Option (List Char)}
    (h : cutUserinfo true s = .ok (userinfo, behind)) (hne : behind ≠ []) :
    behind <:+ s ∧ cutUserinfo true (s ++ ['/']) = .ok (userinfo, behind ++ ['/']) := by
  have hspan := Text.span_concat (p := (!endsAuthority true ·)) (c := '/') (by decide) s
  have hs : s.takeWhile (!endsAuthority true ·) ++ s.dropWhile (!endsAuthority true ·) = s :=
    List.takeWhile_append_dropWhile
  rw [cutUserinfo] at h ⊢
  rw [hspan.1, hspan.2]
  generalize s.takeWhile (!endsAuthority true ·) = front at h hs ⊢
  generalize s.dropWhile (!endsAuthority true ·) = rest at h hs ⊢
  subst hs
  rcases hcut : Text.cutAtLast? '@' front with - | ⟨before, after⟩
  · simp only [hcut] at h ⊢
    cases h
    exact ⟨List.suffix_rfl, rfl⟩
  · have hsuffix : after ++ rest <:+ front ++ rest := by
      rw [Text.eq_of_cutAtLast? hcut]
      exact ⟨before ++ ['@'], by simp⟩
    cases before with
    | nil =>
        simp only [hcut] at h ⊢
        split at h
        · cases h
        · cases h
          refine ⟨hsuffix, ?_⟩
          have hafter : after.isEmpty = false := by
            rw [List.isEmpty_eq_false_iff]
            rintro rfl
            simp_all
          rw [hafter, List.append_assoc]
          rfl
    | cons c before =>
        simp only [hcut] at h ⊢
        cases h
        exact ⟨hsuffix, by rw [List.append_assoc]⟩

theorem cutHost_concat (inBrackets : Bool) (s : List Char) :
    (cutHost true inBrackets s).2 <:+ s ∧ cutHost true inBrackets (s ++ ['/']) =
      ((cutHost true inBrackets s).1, (cutHost true inBrackets s).2 ++ ['/']) := by
  induction s generalizing inBrackets with
  | nil => exact ⟨List.suffix_rfl, rfl⟩
  | cons c rest ih =>
      obtain ⟨hsuffix, hslash⟩ := ih (if c == '[' then true else inBrackets && c != ']')
      rw [List.cons_append, cutHost, cutHost, hslash]
      split
      · exact ⟨List.suffix_rfl, rfl⟩
      · exact ⟨hsuffix.trans (List.suffix_cons c rest), rfl⟩

theorem readPort_concat {scheme s rest : List Char} {port : Option UInt16}
    (h : readPort scheme s = .ok (port, rest)) :
    rest <:+ s ∧ readPort scheme (s ++ ['/']) = .ok (port, rest ++ ['/']) := by
  have hspan := Text.span_concat (p := Char.isDigit) (c := '/') (by decide) s
  have hsuffix : s.dropWhile Char.isDigit <:+ s := List.dropWhile_suffix _
  have hhead (behind : List Char) : (behind ++ ['/']).head?.any (!endsAuthority true ·) =
      behind.head?.any (!endsAuthority true ·) := by
    cases behind with
    | nil => rfl
    | cons c behind => rfl
  rw [readPort] at h ⊢
  simp only [hspan.1, hspan.2, hhead] at h ⊢
  split at h
  · cases h
  · next hport =>
      rw [if_neg hport]
      cases h
      exact ⟨hsuffix, rfl⟩

theorem portBehind_concat {scheme s rest : List Char} {port : Option UInt16}
    (h : portBehind scheme s = .ok (port, rest)) :
    rest <:+ s ∧ portBehind scheme (s ++ ['/']) = .ok (port, rest ++ ['/']) := by
  cases s with
  | nil =>
      cases h
      exact ⟨List.suffix_rfl, rfl⟩
  | cons c after =>
      rw [List.cons_append]
      by_cases hc : c = ':'
      · subst hc
        obtain ⟨hsuffix, hslash⟩ := readPort_concat h
        exact ⟨hsuffix.trans (List.suffix_cons _ _), hslash⟩
      · have hplain (more : List Char) : portBehind scheme (c :: more) = .ok (none, c :: more) := by
          rw [portBehind.eq_def]
          split
          · next heq => exact absurd (List.cons.inj heq).1 hc
          · rfl
        rw [hplain] at h ⊢
        cases h
        exact ⟨List.suffix_rfl, rfl⟩

/-- What follows an authority follows it with one more slash as well. -/
theorem readAuthority_concat {scheme s rest : List Char} {a : Authority}
    (hkind : SchemeKind.of scheme = .web) (h : readAuthority scheme s = .ok (a, rest)) :
    rest <:+ s ∧ readAuthority scheme (s ++ ['/']) = .ok (a, rest ++ ['/']) := by
  obtain ⟨userinfo, behind, hcut, huser, hne, hhost, hport⟩ := (readAuthority_eq_ok_iff hkind).mp h
  have hbehind : behind ≠ [] := by
    rintro rfl
    exact hne rfl
  obtain ⟨hsuffix, hcut'⟩ := cutUserinfo_concat hcut hbehind
  obtain ⟨hsuffixHost, hhost'⟩ := cutHost_concat false behind
  obtain ⟨hsuffixPort, hport'⟩ := portBehind_concat hport
  refine ⟨hsuffixPort.trans (hsuffixHost.trans hsuffix), ?_⟩
  refine (readAuthority_eq_ok_iff hkind).mpr ⟨userinfo, behind ++ ['/'], hcut', huser, ?_⟩
  rw [hhost']
  exact ⟨hne, hhost, hport'⟩

/-! ### The hierarchy -/

/-- Whatever stands behind the path of a URL is its query or its fragment. -/
theorem not_endsPath_of_behindAuthority {scheme rest : List Char} {a : Authority} {u : Url}
    (hu : u = behindAuthority scheme a rest) (hquery : u.query = none) (hfragment : u.fragment = none) :
    ∀ c ∈ rest, endsPath c = false := by
  by_contra hends
  have hne : rest.dropWhile (!endsPath ·) ≠ [] := by
    rw [ne_eq, List.dropWhile_eq_nil_iff]
    simpa using hends
  obtain ⟨c, tail, htail⟩ := List.exists_cons_of_ne_nil hne
  have hc := List.head_dropWhile_not (!endsPath ·) hne
  have hhead : (rest.dropWhile (!endsPath ·)).head hne = c := by simp only [htail, List.head_cons]
  rw [hhead, Bool.not_eq_false', endsPath, Bool.or_eq_true, beq_iff_eq, beq_iff_eq] at hc
  rw [behindAuthority, htail] at hu
  rcases hc with rfl | rfl
  · rw [withTail] at hu
    split at hu <;> simp [hu] at hquery
  · simp [hu, withTail] at hfragment

/-- Where neither query nor fragment begins, everything is path. -/
theorem behindAuthority_of_path {scheme : List Char} (hkind : SchemeKind.of scheme = .web)
    (a : Authority) {s : List Char} (hs : ∀ c ∈ s, endsPath c = false) :
    behindAuthority scheme a s = ofParts scheme (some a) (.segments (Path.read .web s)) := by
  have hnone : ∀ q, (none : Option (List Char)) = some q → '#' ∉ q := by simp
  have hbehind := behindAuthority_query hkind a hs hnone
  rwa [Http.Target.renderQuery, List.append_nil] at hbehind

/-- One more slash is one more behind the path. -/
theorem readHierarchy_concat {scheme s : List Char} {u : Url} (hkind : SchemeKind.of scheme = .web)
    (h : readHierarchy scheme s = .ok u) (hquery : u.query = none) (hfragment : u.fragment = none) :
    s ≠ [] ∧ ∃ rest, rest <:+ s ∧ u.path = .segments (Path.read .web rest) ∧
      readHierarchy scheme (s ++ ['/']) =
        .ok { u with path := .segments (Path.read .web (rest ++ ['/'])) } := by
  obtain ⟨a, rest, hread, hu⟩ := readHierarchy_eq_ok h
  obtain ⟨hsuffix, hslash⟩ := readAuthority_concat hkind hread
  have hplain := not_endsPath_of_behindAuthority hu hquery hfragment
  have hplain' : ∀ c ∈ rest ++ ['/'], endsPath c = false := by
    intro c hc
    rcases List.mem_append.mp hc with hc | hc
    · exact hplain c hc
    · rw [List.mem_singleton.mp hc]
      decide
  rw [behindAuthority_of_path hkind a hplain] at hu
  subst hu
  refine ⟨?_, rest, hsuffix, rfl, ?_⟩
  · rintro rfl
    obtain ⟨userinfo, behind, hcut, -, hhost, -⟩ := (readAuthority_eq_ok_iff hkind).mp hread
    cases hcut
    exact hhost rfl
  · simp only [readHierarchy, hslash, bind, Except.bind, behindAuthority_of_path hkind a hplain']
    rfl

/-! ### The whole text -/

/-- The text ends in this character, but for characters that are skipped wherever they stand. -/
def EndsIn (text : List Char) (c : Char) : Prop :=
  isBlank c = false ∧ ∃ before after, text = before ++ c :: after ∧ ∀ d ∈ after, isSkipped d = true

theorem clean_concat {text : List Char} {c : Char} (h : EndsIn text c) :
    (clean text).getLast? = some c ∧ clean (text ++ ['/']) = clean text ++ ['/'] := by
  obtain ⟨hc, before, after, rfl, hafter⟩ := h
  have hkept : isSkipped c = false := by
    by_contra hskipped
    rw [Bool.not_eq_false] at hskipped
    exact absurd (isBlank_of_isSkipped hskipped) (by simp [hc])
  have hclean : clean (before ++ c :: after) =
      (before.dropWhile isBlank).filter (!isSkipped ·) ++ [c] := by
    rw [clean, Text.trimWhere_append hc fun d hd => isBlank_of_isSkipped (hafter d hd),
      List.filter_append]
    simp [hkept]
  have hnone : after.filter (!isSkipped ·) = [] := by simpa using hafter
  refine ⟨by rw [hclean, List.getLast?_concat], ?_⟩
  rw [hclean, clean, Text.trimWhere_append (by decide) (by simp), Text.dropWhile_append_cons hc,
    List.filter_append, List.filter_append, List.filter_cons_of_pos (by simp [hkept]), hnone]
  rfl

theorem cutScheme?_concat {s scheme rest : List Char} (h : cutScheme? s = some (scheme, rest)) :
    rest <:+ s ∧ cutScheme? (s ++ ['/']) = some (scheme, rest ++ ['/']) := by
  have hspan := Text.span_concat (p := isSchemeChar) (c := '/') (by decide) s
  rw [cutScheme?] at h ⊢
  split at h
  · next c rest' hhead hdrop =>
      have hhead' : (s ++ ['/']).head? = some c := by rw [List.head?_append, hhead]; rfl
      have hsuffix : ':' :: rest' <:+ s := hdrop ▸ List.dropWhile_suffix _
      rw [hhead', hspan.1, hspan.2, hdrop]
      simp only [List.cons_append]
      split at h
      · next halpha =>
          rw [if_pos halpha]
          cases h
          exact ⟨(List.suffix_cons _ _).trans hsuffix, rfl⟩
      · cases h
  · cases h

theorem getLast?_of_suffix {rest s : List Char} (h : rest <:+ s) (hne : rest ≠ []) :
    rest.getLast? = s.getLast? := by
  obtain ⟨front, rfl⟩ := h
  obtain ⟨c, hc⟩ := Option.isSome_iff_exists.mp (List.getLast?_isSome.mpr hne)
  rw [List.getLast?_append, hc]
  rfl

/-- A slash behind the text of a URL that ends with its path changes nothing but that path. It gains
an empty segment, if it does not stay as it is: behind dots, or where no path was written. -/
theorem parse_concat_slash {text : List Char} {u : Url} {segments : List (List Char)} {c : Char}
    (h : parse text = .ok u) (hscheme : IsWebScheme u.scheme) (hpath : u.path = .segments segments)
    (hquery : u.query = none) (hfragment : u.fragment = none) (hends : EndsIn text c) :
    ∃ segments', parse (text ++ ['/']) = .ok { u with path := .segments segments' } ∧
      (segments' = segments ∧ (Path.isSlash true c = true → segments = [[]]) ∨
        segments' = segments ++ [[]] ∧
          (segments.getLast? = some [] ↔ Path.isSlash true c = true)) := by
  have hkind := kind_of_web hscheme
  obtain ⟨behind, hcut, hread⟩ := exists_cutScheme? h hscheme
  obtain ⟨hne, rest, hrest, hpath', hread'⟩ := readHierarchy_concat hkind hread hquery hfragment
  obtain ⟨hlast, hclean⟩ := clean_concat hends
  obtain ⟨hbehind, hcut'⟩ := cutScheme?_concat hcut
  obtain rfl : segments = Path.read .web rest := Path.segments.inj (hpath.symm.trans hpath')
  have hdrop : (behind ++ ['/']).dropWhile (Path.isSlash true) =
      behind.dropWhile (Path.isSlash true) ++ ['/'] := by
    rw [List.dropWhile_append, if_neg (by simpa using hne)]
  refine ⟨Path.read .web (rest ++ ['/']), ?_, ?_⟩
  · rw [parse, hclean, hcut']
    simp only [readBehindScheme, hkind, hdrop, hread']
  · rcases eq_or_ne rest [] with rfl | hwritten
    · exact .inl ⟨rfl, fun _ => rfl⟩
    · have hlast' : rest.getLast? = some c :=
        (getLast?_of_suffix (hrest.trans ((List.dropWhile_suffix _).trans hbehind)) hwritten).trans
          hlast
      rcases Path.read_concat_slash rest with ⟨hsame, hslash⟩ | ⟨hmore, hslash⟩
      · refine .inl ⟨hsame, fun hc => ?_⟩
        rw [hslash c hlast'] at hc
        cases hc
      · refine .inr ⟨hmore, ?_⟩
        rw [hslash, hlast']
        simp

end Url

end LoginGateway
