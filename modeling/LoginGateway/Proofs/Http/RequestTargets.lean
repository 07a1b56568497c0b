import LoginGateway.Proofs.Http.Redirections
import LoginGateway.Proofs.Url.BaseAddress

/-!
Which URLs can stand in a request line. What was read as a URL of the web has a path and a query that
always can. Its length can be against it, and so can its authority: the reader of URLs takes some
characters for a host that the reader of request lines does not. Main statement: `isTarget_iff`.
-/

namespace LoginGateway

open Percent (Kept pathSet specialQuerySet userinfoSet)

namespace Http.Target

/-! ### Reading -/

theorem isPathChar_of_kept {c : Char} (h : Kept pathSet c) : isPathChar c = true := by
  have hall : ∀ n < 0x80, pathSet (Char.ofNat n) = false → isPathChar (Char.ofNat n) = true := by
    decide +kernel
  simpa using hall c.toNat (by simpa [Percent.isAscii] using h.1) (by simpa using h.2)

/-- Whatever is written into a query can stand in that of a request line. -/
theorem isQueryChar_of_mem_encode {c : Char} {s : List Char}
    (h : c ∈ Percent.encode specialQuerySet s) : isQueryChar c = true := by
  have hall : ∀ n < 0x80, specialQuerySet (Char.ofNat n) = false ∨
      (Char.ofNat n).isAlphanum = true → isQueryChar (Char.ofNat n) = true := by
    decide +kernel
  rcases Percent.mem_encode h with ⟨-, hascii, hkept⟩ | rfl | halnum
  · simpa using hall c.toNat (by simpa [Percent.isAscii] using hascii) (.inl (by simpa using hkept))
  · decide
  · have hrange := Text.isAlphanum_iff.mp halnum
    simpa using hall c.toNat (by omega) (.inr (by simpa using halnum))

theorem not_endsAuthority {c : Char} (h : Url.endsAuthority true c = false) :
    endsAuthority c = false := by
  simp only [Url.endsAuthority, Path.isSlash, Url.endsPath, Bool.or_eq_false_iff] at h
  obtain ⟨⟨hslash, -⟩, hmark, hhash⟩ := h
  rw [endsAuthority, hslash, hmark, hhash]
  rfl

/-- A path and a query are read as they stand, up to a fragment. -/
theorem pathAndQuery?_written {path : List Char} {query : Option (List Char)} {behind : List Char}
    (hpath : ∀ c ∈ path, isPathChar c = true)
    (hquery : ∀ q, query = some q → ∀ c ∈ q, isQueryChar c = true)
    (hbehind : ∀ c ∈ behind.head?, c = '#') :
    pathAndQuery? (path ++ renderQuery query ++ behind) = some (path, query) := by
  have hhash : ∀ c ∈ path ++ renderQuery query, (c != '#') = true := by
    intro c hc
    rw [bne_iff_ne]
    rintro rfl
    rcases List.mem_append.mp hc with hc | hc
    · exact absurd (hpath _ hc) (by decide)
    · cases query with
      | none => cases hc
      | some q =>
          have hc : '#' ∈ q := by simpa [renderQuery] using hc
          exact absurd (hquery q rfl _ hc) (by decide)
  have hwritten : (path ++ renderQuery query ++ behind).takeWhile (· != '#') =
      path ++ renderQuery query :=
    (Text.span_append hhash fun c hc => by simp [hbehind c hc]).1
  have hmark : '?' ∉ path := fun hc => absurd (hpath _ hc) (by decide)
  have hcut : Text.cutAt '?' (path ++ renderQuery query) = (path, query) := by
    cases query with
    | none => rw [renderQuery, List.append_nil, Text.cutAt_of_not_mem hmark]
    | some q => exact Text.cutAt_append hmark q
  rw [pathAndQuery?]
  simp only [hwritten, hcut]
  refine if_pos ?_
  rw [Bool.and_eq_true, List.all_eq_true]
  refine ⟨hpath, ?_⟩
  cases query with
  | none => rfl
  | some q => exact List.all_eq_true.mpr (hquery q rfl)

section web

variable {scheme : List Char} (hscheme : Url.IsWebScheme scheme)

include hscheme

theorem parse?_web (rest : List Char) :
    parse? (scheme ++ "://".toList ++ rest) =
      if maxBytes < (Utf8.encode (scheme ++ "://".toList ++ rest)).length then none
      else parseFull? (scheme ++ "://".toList ++ rest) := by
  rcases hscheme with rfl | rfl <;> rfl

theorem cutScheme?_web (rest : List Char) :
    cutScheme? (scheme ++ "://".toList ++ rest) = some (scheme, rest) := by
  rcases hscheme with rfl | rfl <;> rfl

/-- What stands behind the scheme is read as an authority, with a path and a query behind it. -/
theorem isSome_parse?_web {authority behind : List Char} (hne : authority ≠ [])
    (hauthority : ∀ c ∈ authority, endsAuthority c = false)
    (hends : ∀ c ∈ behind.head?, endsAuthority c = true)
    (hbehind : (pathAndQuery? behind).isSome = true) :
    (parse? (scheme ++ "://".toList ++ (authority ++ behind))).isSome = true ↔
      (Utf8.encode (scheme ++ "://".toList ++ (authority ++ behind))).length ≤ maxBytes ∧
        isAuthority authority = true := by
  have hrun : (authority ++ behind).takeWhile (!endsAuthority ·) = authority ∧
      (authority ++ behind).dropWhile (!endsAuthority ·) = behind :=
    Text.span_append (by simpa using hauthority) (by simpa using hends)
  have hshort : ¬64 < scheme.length := by rcases hscheme with rfl | rfl <;> decide
  obtain ⟨p, hp⟩ := Option.isSome_iff_exists.mp hbehind
  rw [parse?_web hscheme, parseFull?, cutScheme?_web hscheme]
  simp only [hrun, hp, hshort, List.isEmpty_eq_false_iff.mpr hne]
  split
  · next hlong => exact iff_of_false (by simp) fun hfits => absurd hfits.1 (by omega)
  · next hfits =>
      rw [and_iff_right (by omega)]
      cases isAuthority authority <;> simp

end web

end Http.Target

namespace Url

open Http (Target)

/-! ### URLs that were read -/

/-- The parts of a URL of the web, as they are written. -/
structure IsWritten (u : Url) (a : Authority) (segments : List (List Char)) : Prop where
  scheme : IsWebScheme u.scheme
  authority : u.authority = some a
  host : a.host.render ≠ []
  inner : ∀ c ∈ a.render, Target.endsAuthority c = false
  path : u.path = .segments segments
  someSegment : segments ≠ []
  pathChars : ∀ p ∈ segments, ∀ c ∈ p, Target.isPathChar c = true
  queryChars : ∀ q, u.query = some q → ∀ c ∈ q, Target.isQueryChar c = true

theorem IsWritten.render_authority_ne_nil {u : Url} {a : Authority} {segments : List (List Char)}
    (h : IsWritten u a segments) : a.render ≠ [] := by
  simp [Authority.render, h.host]

theorem IsWritten.render_eq {u : Url} {a : Authority} {segments : List (List Char)}
    (h : IsWritten u a segments) :
    u.render = u.scheme ++ "://".toList ++ (a.render ++
      (Path.renderSegments segments ++ Target.renderQuery u.query ++ u.renderFragment)) := by
  have hquery : u.renderQuery = Target.renderQuery u.query := by
    rw [Url.renderQuery]
    cases u.query <;> rfl
  rw [render, renderAuthority, h.authority, h.path, hquery]
  simp [Path.render]

/-- Only its length and its authority can keep it out of a request line. -/
theorem isTarget_iff {u : Url} {a : Authority} {segments : List (List Char)}
    (h : IsWritten u a segments) :
    Http.Client.isTarget u = true ↔
      (Utf8.encode u.render).length ≤ Target.maxBytes ∧ Target.isAuthority a.render = true := by
  have hpath : ∀ c ∈ Path.renderSegments segments, Target.isPathChar c = true := by
    intro c hc
    rw [Path.renderSegments, List.mem_flatMap] at hc
    obtain ⟨p, hp, hc⟩ := hc
    rcases List.mem_cons.mp hc with rfl | hc
    · decide
    · exact h.pathChars p hp c hc
  have hfragment : ∀ c ∈ u.renderFragment.head?, c = '#' := by
    rw [renderFragment]
    cases u.fragment <;> simp
  have hread := Target.pathAndQuery?_written hpath h.queryChars hfragment
  obtain ⟨p, rest, hcons⟩ := List.exists_cons_of_ne_nil h.someSegment
  rw [Http.Client.isTarget, h.render_eq]
  refine Target.isSome_parse?_web h.scheme h.render_authority_ne_nil h.inner ?_ (by rw [hread]; rfl)
  rw [hcons]
  simp [Path.renderSegments, Target.endsAuthority]

theorem queryChars_of_withTail {u : Url} (hspecial : u.isSpecial = true) (hnone : u.query = none)
    {s q : List Char} (h : (u.withTail s).query = some q) :
    ∀ c ∈ q, Target.isQueryChar c = true := by
  rw [withTail.eq_def] at h
  split at h
  · simp only [hspecial, if_true] at h
    split at h
    all_goals
      obtain rfl := Option.some.inj h
      exact fun c hc => Target.isQueryChar_of_mem_encode hc
  · rw [hnone] at h
    cases h
  · rw [hnone] at h
    cases h

/-- What was read as a URL of the web is written. -/
theorem exists_isWritten {text : List Char} {u : Url} (h : parse text = .ok u)
    (hscheme : IsWebScheme u.scheme) : ∃ a segments, IsWritten u a segments := by
  obtain ⟨s, a, rest, hread, hu⟩ := exists_readAuthority h hscheme
  obtain ⟨hne, hinner⟩ := authority_of_readAuthority (kind_of_web hscheme) hread
  have hkept := withTail_kept (ofParts u.scheme (some a)
    (.segments (Path.read (.of u.scheme) (rest.takeWhile (!endsPath ·)))))
    (rest.dropWhile (!endsPath ·))
  rw [← behindAuthority, ← hu, kind_of_web hscheme] at hkept
  refine ⟨a, _, hscheme, hkept.2.1, hne, ?_, hkept.2.2, Path.read_ne_nil _, ?_, ?_⟩
  · intro c hc
    exact Target.not_endsAuthority (hinner c hc)
  · intro p hp c hc
    exact Target.isPathChar_of_kept ((Path.settled_of_mem_read hp).kept c hc)
  · intro q hq
    rw [hu, behindAuthority] at hq
    refine queryChars_of_withTail ?_ rfl hq
    rw [isSpecial, kind, ofParts, kind_of_web hscheme]
    rfl

/-- Other segments make another URL that is written. -/
theorem IsWritten.withPath {u : Url} {a : Authority} {segments other : List (List Char)}
    (h : IsWritten u a segments) (hne : other ≠ [])
    (hchars : ∀ p ∈ other, ∀ c ∈ p, Target.isPathChar c = true) :
    IsWritten { u with path := .segments other } a other where
  scheme := h.scheme
  authority := h.authority
  host := h.host
  inner := h.inner
  path := rfl
  someSegment := hne
  pathChars := hchars
  queryChars := h.queryChars

/-- Without the name and password in it, an authority ends where it ended. -/
theorem IsWritten.called {u : Url} {a : Authority} {segments : List (List Char)}
    (h : IsWritten u a segments) : ∃ a, IsWritten (Http.Client.called u) a segments := by
  rw [Http.Client.called]
  split
  · refine ⟨{ a with username := [], password := none }, h.scheme, ?_, h.host, ?_, h.path,
      h.someSegment, h.pathChars, h.queryChars⟩
    · rw [withoutUserinfo, h.authority]
      rfl
    · intro c hc
      refine h.inner c ?_
      rw [Authority.render, List.append_assoc]
      exact List.mem_append_right _ hc
  · exact ⟨a, h⟩

end Url

end LoginGateway
