import LoginGateway.Proofs.Url.AuthorityText

/-!
A URL that is put together from another one. What was read from some text as a URL of the web is
read again from its own text, if it names no user. A path and a query that are written behind that
text without its last slashes make a URL of the same scheme, host and port: the path goes on where
the other one ended, and the query is the one that was written. Main statements:
`IsBase.parse_render`, `parse_behind_base`.
-/

namespace LoginGateway.Url

open Http (Target)
open LoginGateway.Path (Settled renderSegments withoutEmptyEnd)

/-! ### What was read -/

/-- The schemes of the web. -/
def IsWebScheme (scheme : List Char) : Prop := scheme = "http".toList ∨ scheme = "https".toList

section web

variable {scheme : List Char} (hscheme : IsWebScheme scheme)

include hscheme

theorem kind_of_web : SchemeKind.of scheme = .web := by
  rcases hscheme with rfl | rfl <;> decide

theorem isInner_of_mem_scheme {c : Char} (hc : c ∈ scheme ++ [':']) : IsInner c := by
  have hall : ∀ s ∈ ["http:", "https:"],
      s.toList.all (fun d => !isSeparator d && !isBlank d) = true := by decide
  rcases hscheme with rfl | rfl
  · simpa [IsInner] using List.all_eq_true.mp (hall "http:" (by decide)) c hc
  · simpa [IsInner] using List.all_eq_true.mp (hall "https:" (by decide)) c hc

theorem cutScheme?_web (rest : List Char) :
    cutScheme? (scheme ++ ':' :: rest) = some (scheme, rest) := by
  rcases hscheme with rfl | rfl <;> rfl

theorem parse_of_not_blank {s : List Char} (h : ∀ c ∈ s, isBlank c = false) :
    parse (scheme ++ ':' :: s) = readHierarchy scheme (s.dropWhile (Path.isSlash true)) := by
  have hblank : ∀ c ∈ scheme ++ ':' :: s, isBlank c = false := by
    intro c hc
    rw [← List.singleton_append, ← List.append_assoc] at hc
    exact (List.mem_append.mp hc).elim (fun hc => (isInner_of_mem_scheme hscheme hc).2) (h c)
  have hclean : clean (scheme ++ ':' :: s) = scheme ++ ':' :: s := by
    rw [clean, Text.trimWhere_of_none hblank]
    exact unskipped_of_not_blank hblank
  rw [parse, hclean, cutScheme?_web hscheme]
  simp only [readBehindScheme, kind_of_web hscheme]

end web

theorem withTail_kept (u : Url) (s : List Char) :
    (u.withTail s).scheme = u.scheme ∧ (u.withTail s).authority = u.authority ∧
      (u.withTail s).path = u.path := by
  rw [withTail.eq_def]
  split
  · simp only
    split <;> exact ⟨rfl, rfl, rfl⟩
  · exact ⟨rfl, rfl, rfl⟩
  · exact ⟨rfl, rfl, rfl⟩

theorem behindAuthority_scheme (scheme : List Char) (a : Authority) (s : List Char) :
    (behindAuthority scheme a s).scheme = scheme :=
  (withTail_kept _ _).1

theorem readHierarchy_eq_ok {scheme s : List Char} {u : Url} (h : readHierarchy scheme s = .ok u) :
    ∃ a rest, readAuthority scheme s = .ok (a, rest) ∧ u = behindAuthority scheme a rest := by
  rw [readHierarchy] at h
  cases hread : readAuthority scheme s with
  | error e =>
      rw [hread] at h
      cases h
  | ok p =>
      rw [hread] at h
      cases h
      exact ⟨p.1, p.2, rfl, rfl⟩

theorem scheme_of_readFile {s : List Char} {u : Url} (h : readFile s = .ok u) :
    u.scheme = "file".toList := by
  rw [readFile.eq_def] at h
  simp only [bind, Except.bind] at h
  repeat' split at h
  all_goals cases h
  all_goals exact behindAuthority_scheme _ _ _

theorem scheme_of_readOther {scheme s : List Char} {u : Url} (h : readOther scheme s = .ok u) :
    u.scheme = scheme := by
  rw [readOther.eq_def] at h
  split at h
  · obtain ⟨a, rest, -, rfl⟩ := readHierarchy_eq_ok h
    exact behindAuthority_scheme _ _ _
  · cases h
    exact (withTail_kept _ _).1
  · cases h
    exact (withTail_kept _ _).1

/-- A URL of the web was read from what stands behind its scheme and all slashes there. -/
theorem exists_cutScheme? {text : List Char} {u : Url} (h : parse text = .ok u)
    (hscheme : IsWebScheme u.scheme) : ∃ rest, cutScheme? (clean text) = some (u.scheme, rest) ∧
      readHierarchy u.scheme (rest.dropWhile (Path.isSlash true)) = .ok u := by
  rw [parse] at h
  split at h
  · next scheme rest hcut =>
      rw [readBehindScheme] at h
      split at h
      · have hsame : u.scheme = scheme := by
          obtain ⟨a, rest, -, rfl⟩ := readHierarchy_eq_ok h
          exact behindAuthority_scheme _ _ _
        rw [hsame]
        exact ⟨rest, hcut, h⟩
      -- The other kinds of URL keep their schemes, and none of these is of the web.
      · rw [scheme_of_readFile h, IsWebScheme] at hscheme
        exact absurd hscheme (by decide)
      · next hkind =>
          rw [scheme_of_readOther h] at hscheme
          rw [kind_of_web hscheme] at hkind
          cases hkind
  · cases h

/-- A URL of the web was read as an authority and what follows it. -/
theorem exists_readAuthority {text : List Char} {u : Url} (h : parse text = .ok u)
    (hscheme : IsWebScheme u.scheme) : ∃ s a rest,
      readAuthority u.scheme s = .ok (a, rest) ∧ u = behindAuthority u.scheme a rest := by
  obtain ⟨behind, -, hread⟩ := exists_cutScheme? h hscheme
  obtain ⟨a, rest, hread, hu⟩ := readHierarchy_eq_ok hread
  exact ⟨_, a, rest, hread, hu⟩

/-- The path of a URL of the web has a segment. -/
theorem ne_nil_of_parse {text : List Char} {u : Url} (h : parse text = .ok u)
    (hscheme : IsWebScheme u.scheme) {segments : List (List Char)}
    (hpath : u.path = .segments segments) : segments ≠ [] := by
  obtain ⟨s, a, rest, -, hu⟩ := exists_readAuthority h hscheme
  have hkept := (withTail_kept (ofParts u.scheme (some a)
    (.segments (Path.read (.of u.scheme) (rest.takeWhile (!endsPath ·)))))
    (rest.dropWhile (!endsPath ·))).2.2
  rw [← behindAuthority, ← hu, kind_of_web hscheme, hpath] at hkept
  rw [Path.segments.inj hkept]
  exact Path.read_ne_nil _

/-! ### What is read again -/

/-- Behind an authority and a slash a URL is read as it is behind that authority. -/
theorem parse_slash {scheme : List Char} (hscheme : IsWebScheme scheme) {a : Authority}
    (ha : a.Settled scheme) {rest : List Char} (hrest : ∀ c ∈ rest, isBlank c = false) :
    parse (scheme ++ "://".toList ++ a.render ++ '/' :: rest) =
      .ok (behindAuthority scheme a ('/' :: rest)) := by
  have hinner : ∀ c ∈ a.render, IsInner c := fun c hc => isInner_of_mem_authority ha hc
  have hread := readAuthority_render ha (kind_of_web hscheme) rest
  obtain ⟨c, tail, hcons⟩ := List.exists_cons_of_ne_nil (render_authority_ne_nil ha)
  rw [hcons] at hinner hread ⊢
  have hslash : Path.isSlash true c = false := by
    have hends := endsAuthority_of_not_separator (hinner c List.mem_cons_self).1
    rw [endsAuthority, Bool.or_eq_false_iff] at hends
    exact hends.1
  have htext : scheme ++ "://".toList ++ (c :: tail) ++ '/' :: rest =
      scheme ++ ':' :: ("//".toList ++ (c :: tail ++ '/' :: rest)) := by simp
  have hslashes : "//".toList.all (Path.isSlash true) = true := by decide
  have hdrop : ("//".toList ++ (c :: tail ++ '/' :: rest)).dropWhile (Path.isSlash true) =
      c :: tail ++ '/' :: rest := by
    rw [List.dropWhile_append_of_pos (List.all_eq_true.mp hslashes), List.cons_append,
      List.dropWhile_cons_of_neg (by simp [hslash])]
  have hblank : ∀ d ∈ "//".toList ++ (c :: tail ++ '/' :: rest), isBlank d = false := by
    intro d hd
    rcases List.mem_append.mp hd with hd | hd
    · have hall : "//".toList.all (!isBlank ·) = true := by decide
      simpa using List.all_eq_true.mp hall d hd
    · rcases List.mem_append.mp hd with hd | hd
      · exact (hinner d hd).2
      · rcases List.mem_cons.mp hd with rfl | hd
        · decide
        · exact hrest d hd
  rw [htext, parse_of_not_blank hscheme hblank, hdrop, readHierarchy, hread]
  rfl

/-! ### A URL behind another one -/

/-- A URL of the web without user information, query and fragment. Parts that are put together by
hand need not make a URL, so it is one that was read. -/
structure IsBase (u : Url) : Prop where
  read : ∃ text, parse text = .ok u
  scheme : IsWebScheme u.scheme
  plain : ∀ a, u.authority = some a → a.hasUserinfo = false
  query : u.query = none
  fragment : u.fragment = none

/-- The parts of such a URL. -/
structure IsBase.Parts (u : Url) (a : Authority) (segments : List (List Char)) : Prop where
  authority : u.authority = some a
  path : u.path = .segments segments
  place : a.Settled u.scheme
  settled : ∀ p ∈ segments, Settled p
  nonempty : segments ≠ []

theorem IsBase.exists_parts {u : Url} (h : IsBase u) : ∃ a segments, Parts u a segments := by
  obtain ⟨text, hread⟩ := h.read
  obtain ⟨s, a, rest, hread, hu⟩ := exists_readAuthority hread h.scheme
  have hkept := withTail_kept (ofParts u.scheme (some a)
    (.segments (Path.read (.of u.scheme) (rest.takeWhile (!endsPath ·)))))
    (rest.dropWhile (!endsPath ·))
  rw [← behindAuthority, ← hu, kind_of_web h.scheme] at hkept
  exact ⟨a, _, hkept.2.1, hkept.2.2,
    settled_of_readAuthority (kind_of_web h.scheme) hread (h.plain a hkept.2.1),
    fun p hp => Path.settled_of_mem_read hp, Path.read_ne_nil _⟩

theorem plain_of_settled {p : List Char} (h : Settled p) {c : Char} (hc : c ∈ p) :
    endsPath c = false ∧ isBlank c = false := by
  have hkept := (h.kept c hc).2
  simp only [Percent.pathSet, Percent.fragmentSet, Percent.controls, Bool.or_eq_false_iff,
    decide_eq_false_iff_not] at hkept
  obtain ⟨⟨⟨hcontrol, -⟩, hfragment⟩, hpath⟩ := hkept
  constructor
  · rw [endsPath, Bool.or_eq_false_iff, beq_eq_false_iff_ne, beq_eq_false_iff_ne]
    constructor
    · rintro rfl
      exact absurd hpath (by decide)
    · rintro rfl
      exact absurd hpath (by decide)
  · rw [isBlank, decide_eq_false_iff_not]
    intro hle
    have hspace : c = ' ' := by
      rw [← Char.ofNat_toNat c, show c.toNat = 0x20 by omega]
    subst hspace
    exact absurd hfragment (by decide)

theorem plain_of_mem_renderSegments {segments : List (List Char)} (h : ∀ p ∈ segments, Settled p)
    {c : Char} (hc : c ∈ renderSegments segments) : endsPath c = false ∧ isBlank c = false := by
  rw [renderSegments, List.mem_flatMap] at hc
  obtain ⟨p, hp, hc⟩ := hc
  rcases List.mem_cons.mp hc with rfl | hc
  · exact ⟨by decide, by decide⟩
  · exact plain_of_settled (h p hp) hc

theorem IsBase.Parts.render_eq {u : Url} (h : IsBase u) {a : Authority}
    {segments : List (List Char)} (hparts : Parts u a segments) :
    u.render = u.scheme ++ "://".toList ++ a.render ++ renderSegments segments := by
  rw [render, renderAuthority, hparts.authority, hparts.path, Url.renderQuery, h.query,
    renderFragment, h.fragment]
  simp [Path.render]

section parts

variable {u : Url} (h : IsBase u) {a : Authority} {segments : List (List Char)}
  (hparts : IsBase.Parts u a segments)

include h hparts

theorem IsBase.Parts.dropEndWhile_render :
    Text.dropEndWhile (· == '/') u.render =
      u.scheme ++ "://".toList ++ a.render ++ renderSegments (withoutEmptyEnd segments) := by
  rw [hparts.render_eq h]
  refine Path.dropEndWhile_renderSegments ?_ fun p hp => (hparts.settled p hp).noSlash
  intro c hc
  have hlast : c ∈ a.render := by
    obtain ⟨d, hd⟩ := Option.isSome_iff_exists.mp
      (List.getLast?_isSome.mpr (render_authority_ne_nil hparts.place))
    rw [List.getLast?_append, hd] at hc
    exact Option.some.inj hc ▸ List.mem_of_getLast? hd
  rintro rfl
  exact absurd (isInner_of_mem_authority hparts.place hlast).1 (by decide)

end parts

theorem not_blank_of_mem_renderQuery {query : Option (List Char)}
    (h : ∀ q, query = some q → ∀ c ∈ q, c ≠ '#' ∧ isBlank c = false) :
    ∀ c ∈ Target.renderQuery query, isBlank c = false := by
  intro c hc
  cases query with
  | none => cases hc
  | some q =>
      rcases List.mem_cons.mp hc with rfl | hc
      · decide
      · exact (h q rfl c hc).2

/-- An authority, a path and a query that are written one behind another make a URL of these. -/
theorem parse_written {scheme : List Char} (hscheme : IsWebScheme scheme) {a : Authority}
    (ha : a.Settled scheme) {segments : List (List Char)} (hne : segments ≠ [])
    (hsettled : ∀ p ∈ segments, Settled p) {query : Option (List Char)}
    (hquery : ∀ q, query = some q → ∀ c ∈ q, c ≠ '#' ∧ isBlank c = false) :
    parse (scheme ++ "://".toList ++ a.render ++ renderSegments segments ++
        Target.renderQuery query) =
      .ok { scheme := scheme
            authority := some a
            path := .segments segments
            query := query.map (Percent.encode Percent.specialQuerySet)
            fragment := none } := by
  obtain ⟨p, rest, hcons⟩ := List.exists_cons_of_ne_nil hne
  have hwritten : renderSegments segments = '/' :: (p ++ renderSegments rest) := by
    rw [hcons]
    rfl
  have hplain : ∀ c ∈ '/' :: (p ++ renderSegments rest), endsPath c = false ∧ isBlank c = false :=
    fun c hc => plain_of_mem_renderSegments hsettled (hwritten ▸ hc)
  have hblank : ∀ c ∈ p ++ renderSegments rest ++ Target.renderQuery query, isBlank c = false := by
    intro c hc
    rcases List.mem_append.mp hc with hc | hc
    · exact (hplain c (List.mem_cons_of_mem '/' hc)).2
    · exact not_blank_of_mem_renderQuery hquery c hc
  rw [hwritten, List.append_assoc, List.cons_append, parse_slash hscheme ha hblank,
    ← List.cons_append, behindAuthority_query (kind_of_web hscheme) a
      (fun c hc => (hplain c hc).1) fun q hq hmem => (hquery q hq '#' hmem).1 rfl,
    ← hwritten, Path.read_renderSegments hne hsettled]

/-- A base is read again from its text. -/
theorem IsBase.parse_render {u : Url} (h : IsBase u) : parse u.render = .ok u := by
  obtain ⟨a, segments, hparts⟩ := h.exists_parts
  have hread := parse_written h.scheme hparts.place hparts.nonempty hparts.settled
    fun q (hq : none = some q) => by cases hq
  rw [Target.renderQuery, List.append_nil, ← hparts.render_eq h] at hread
  rw [hread]
  obtain ⟨scheme, authority, path, query, fragment⟩ := u
  obtain ⟨rfl, rfl⟩ : query = none ∧ fragment = none := ⟨h.query, h.fragment⟩
  obtain ⟨rfl, rfl⟩ : authority = some a ∧ path = .segments segments :=
    ⟨hparts.authority, hparts.path⟩
  rfl

/-- Behind a base without its last slashes, a path and a query make a URL of the same place: the
path goes on where that of the base ended. -/
theorem parse_behind_base {u : Url} (h : IsBase u) {more : List (List Char)} (hne : more ≠ [])
    (hmore : ∀ p ∈ more, Settled p) {query : Option (List Char)}
    (hquery : ∀ q, query = some q → ∀ c ∈ q, c ≠ '#' ∧ isBlank c = false) :
    ∃ segments, u.path = .segments segments ∧
      parse (Text.dropEndWhile (· == '/') u.render ++ renderSegments more ++
          Target.renderQuery query) =
        .ok { u with
          path := .segments (withoutEmptyEnd segments ++ more)
          query := query.map (Percent.encode Percent.specialQuerySet) } := by
  obtain ⟨a, segments, hparts⟩ := h.exists_parts
  refine ⟨segments, hparts.path, ?_⟩
  have hsettled : ∀ p ∈ withoutEmptyEnd segments ++ more, Settled p := by
    intro p hp
    rcases List.mem_append.mp hp with hp | hp
    · exact hparts.settled p (Path.mem_of_mem_withoutEmptyEnd hp)
    · exact hmore p hp
  rw [hparts.dropEndWhile_render h, List.append_assoc _ _ (renderSegments more),
    ← Path.renderSegments_append,
    parse_written h.scheme hparts.place (by simp [hne]) hsettled hquery, ← hparts.authority,
    ← h.fragment]

end LoginGateway.Url
