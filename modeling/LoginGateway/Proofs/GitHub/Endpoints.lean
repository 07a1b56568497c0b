import LoginGateway.GitHub.Registration
import LoginGateway.Proofs.Url.TrailingSlash

/-!
The endpoints of a registration. A server whose address can be read and has a path is a base; its
endpoints are at the same place, with their own segments behind that path. Of a slash at the end of
the address nothing is seen in them, but a blank there hides the end of the address from a slash
that is put behind it. Main statement: `endpoints_extend`.
-/

namespace LoginGateway

/-! ### Segments behind a path -/

namespace Url

/-- The segments that stay in front of those that are put behind them: an empty one at the end, or a
lone one, gives way. -/
def remaining (segments : List (List Char)) : List (List Char) :=
  if popEmpty segments = [[]] then [] else popEmpty segments

theorem foldl_pushSegment_of_ne (special : Bool) {texts : List (List Char)}
    (htexts : ∀ t ∈ texts, t ≠ []) {segments : List (List Char)} (hne : segments ≠ [[]]) :
    texts.foldl (pushSegment special) segments =
      segments ++ texts.map (Percent.encode (Percent.segmentSet special)) := by
  induction texts generalizing segments with
  | nil => simp
  | cons t rest ih =>
      obtain ⟨ht, hrest⟩ := List.forall_mem_cons.mp htexts
      have hwritten : Percent.encode (Percent.segmentSet special) t ≠ [] := Path.encode_ne_nil ht
      have hnext : segments ++ [Percent.encode (Percent.segmentSet special) t] ≠ [[]] := by
        simp [List.append_eq_singleton_iff, hwritten]
      rw [List.foldl_cons, pushSegment, if_neg hne, ih hrest hnext, List.append_assoc]
      rfl

theorem foldl_pushSegment (special : Bool) {texts : List (List Char)} (hne : texts ≠ [])
    (htexts : ∀ t ∈ texts, t ≠ []) (segments : List (List Char)) :
    texts.foldl (pushSegment special) (popEmpty segments) =
      remaining segments ++ texts.map (Percent.encode (Percent.segmentSet special)) := by
  rw [remaining]
  split
  · next hlone =>
      obtain ⟨t, rest, rfl⟩ := List.exists_cons_of_ne_nil hne
      obtain ⟨ht, hrest⟩ := List.forall_mem_cons.mp htexts
      rw [List.foldl_cons, hlone, pushSegment, if_pos rfl, foldl_pushSegment_of_ne special hrest]
      · rfl
      · simpa using Path.encode_ne_nil ht
  · next hmore => exact foldl_pushSegment_of_ne special htexts hmore

theorem mem_of_mem_remaining {segments : List (List Char)} {p : List Char}
    (h : p ∈ remaining segments) : p ∈ segments := by
  have hpop {q : List Char} (hq : q ∈ popEmpty segments) : q ∈ segments := by
    rw [popEmpty] at hq
    split at hq
    · exact List.dropLast_subset _ hq
    · exact hq
  rw [remaining] at h
  split at h
  · cases h
  · exact hpop h

/-- The segments without a last one that is empty. -/
def withoutEmptyLast (segments : List (List Char)) : List (List Char) :=
  if segments.getLast? = some [] then segments.dropLast else segments

theorem remaining_of_filled {segments : List (List Char)} (h : [] ∉ segments.dropLast) :
    remaining segments = withoutEmptyLast segments := by
  rcases List.eq_nil_or_concat' segments with rfl | ⟨front, p, rfl⟩
  · rfl
  · rw [List.dropLast_concat] at h
    rw [remaining, withoutEmptyLast, popEmpty, List.getLast?_concat, List.dropLast_concat]
    rcases eq_or_ne p [] with rfl | hp
    · cases front with
      | nil => rfl
      | cons first front =>
          have hlone : first :: front ≠ [[]] := fun heq => h (heq ▸ List.mem_cons_self)
          simp [hlone]
    · have hlone : front ++ [p] ≠ [[]] := by simp [List.append_eq_singleton_iff, hp]
      simp [hp, hlone]

theorem remaining_concat_empty {segments : List (List Char)} (hne : segments ≠ []) :
    remaining (segments ++ [[]]) = if segments = [[]] then [] else segments := by
  have hpop : popEmpty (segments ++ [[]]) = segments := by
    have hlength := List.length_pos_iff.mpr hne
    rw [popEmpty, List.getLast?_concat, List.dropLast_concat, if_pos (by simpa using hlength)]
  rw [remaining, hpop]

/-- An empty segment more makes no difference exactly if there was none at the end, or if it was the
only one. -/
theorem remaining_concat_empty_eq_iff {segments : List (List Char)} (hne : segments ≠ [])
    (h : [] ∉ segments.dropLast) :
    remaining (segments ++ [[]]) = remaining segments ↔
      (segments.getLast? = some [] → segments = [[]]) := by
  rw [remaining_concat_empty hne, remaining_of_filled h, withoutEmptyLast]
  split
  · next hlone => simp [hlone]
  · next hmore =>
      split
      · next hlast =>
          have hlength := List.length_pos_iff.mpr hne
          refine iff_of_false (fun heq => ?_) (fun hroot => hmore (hroot hlast))
          have hshorter := congrArg List.length heq
          rw [List.length_dropLast] at hshorter
          omega
      · next hlast => exact iff_of_true rfl (fun hempty => absurd hempty hlast)

end Url

namespace GitHub.Registration

/-! ### Bases -/

/-- The text is an address that can have segments behind it. -/
def IsBase (server : String) : Prop :=
  ∃ url segments, Url.parse server.toList = .ok url ∧ url.path = .segments segments

/-- What is wrong with a server that is no base. -/
inductive NoBase (server : String) : Login.Failure → Prop
  | unreadable {e : UrlError} : Url.parse server.toList = .error e →
      NoBase server ⟨.setting .invalidUrl, some e.message⟩
  | rootless {url : Url} {text : List Char} : Url.parse server.toList = .ok url →
      url.path = .rootless text →
      NoBase server ⟨.setting .invalidUrl, some (server ++ " cannot be used as a base URL")⟩

theorem NoBase.not_isBase {server : String} {f : Login.Failure} (h : NoBase server f) :
    ¬IsBase server := by
  rintro ⟨url, segments, hparse, hpath⟩
  cases h with
  | unreadable herror => exact absurd (hparse.symm.trans herror) (by simp)
  | rootless hother hrootless =>
      obtain rfl := Except.ok.inj (hparse.symm.trans hother)
      exact absurd (hpath.symm.trans hrootless) (by simp)

theorem NoBase.exists_cause {server : String} {f : Login.Failure} (h : NoBase server f) :
    ∃ cause, f = ⟨.setting .invalidUrl, cause⟩ := by
  cases h <;> exact ⟨_, rfl⟩

theorem endpoint_cases (server : String) (segments : List String) :
    IsBase server ∧ (∃ url, endpoint server segments = .ok url) ∨
      ∃ f, NoBase server f ∧ endpoint server segments = .error f := by
  rw [endpoint]
  cases hparse : Url.parse server.toList with
  | error e => exact .inr ⟨_, .unreadable hparse, rfl⟩
  | ok base =>
      simp only [Url.append?]
      cases hpath : base.path with
      | rootless text => exact .inr ⟨_, .rootless hparse hpath, rfl⟩
      | segments list => exact .inl ⟨⟨base, list, hparse, hpath⟩, _, rfl⟩

/-! ### Endpoints -/

/-- The text is an address of the web, and no segment of its path is empty, the last one apart. -/
structure IsWebBase (server : String) (base : Url) (segments : List (List Char)) : Prop where
  read : Url.parse server.toList = .ok base
  scheme : Url.IsWebScheme base.scheme
  path : base.path = .segments segments
  filled : [] ∉ segments.dropLast

/-- How an endpoint comes from the text of its server. If that is no base, there is none. A base of the
web keeps all its parts, and only its path gets longer, behind a slash at its end if there is one. So
one more slash makes no difference where the text ends in none, or with the root; where it ends in a
slash behind a longer path, it makes one. -/
structure Extends (endpointOf : String → Except Login.Failure Url) (more : List String) : Prop where
  refused : ∀ server, (∃ cause, endpointOf server = .error ⟨.setting .invalidUrl, cause⟩) ↔
    ¬IsBase server
  found : ∀ server, (∃ url, endpointOf server = .ok url) ↔ IsBase server
  extended : ∀ {server base segments}, IsWebBase server base segments →
    endpointOf server =
      .ok { base with path := .segments (Url.withoutEmptyLast segments ++ more.map String.toList) }
  slash : ∀ {server base segments c}, IsWebBase server base segments → base.query = none →
    base.fragment = none → Url.EndsIn server.toList c →
    (endpointOf (server ++ "/") = endpointOf server ↔
      (Path.isSlash true c = true → segments = [[]]))

/-- The segments are written as they are, whatever the scheme. -/
def ArePlain (more : List String) : Prop :=
  ∀ text ∈ more, text.toList ≠ [] ∧
    ∀ special, Percent.encode (Percent.segmentSet special) text.toList = text.toList

instance (more : List String) : Decidable (ArePlain more) :=
  inferInstanceAs (Decidable (∀ text ∈ more, text.toList ≠ [] ∧
    ∀ special, Percent.encode (Percent.segmentSet special) text.toList = text.toList))

section endpoint

variable {more : List String} (hne : more ≠ []) (hplain : ArePlain more)

include hne hplain

theorem endpoint_eq_ok {server : String} {base : Url} {segments : List (List Char)}
    (hparse : Url.parse server.toList = .ok base) (hpath : base.path = .segments segments) :
    endpoint server more =
      .ok { base with path := .segments (Url.remaining segments ++ more.map String.toList) } := by
  have hwritten (special : Bool) :
      (more.map String.toList).map (Percent.encode (Percent.segmentSet special)) =
        more.map String.toList := by
    rw [List.map_map]
    exact List.map_congr_left fun text htext => (hplain text htext).2 special
  have htexts : ∀ t ∈ more.map String.toList, t ≠ [] := by
    intro t ht
    obtain ⟨text, htext, rfl⟩ := List.mem_map.mp ht
    exact (hplain text htext).1
  rw [endpoint, hparse]
  simp only [Url.append?, hpath]
  rw [Url.foldl_pushSegment _ (mt List.map_eq_nil_iff.mp hne) htexts, hwritten]

theorem endpoint_slash_iff {server : String} {base : Url} {segments : List (List Char)} {c : Char}
    (h : IsWebBase server base segments) (hquery : base.query = none)
    (hfragment : base.fragment = none) (hends : Url.EndsIn server.toList c) :
    endpoint (server ++ "/") more = endpoint server more ↔
      (Path.isSlash true c = true → segments = [[]]) := by
  obtain ⟨segments', hparse, hsegments⟩ :=
    Url.parse_concat_slash h.read h.scheme h.path hquery hfragment hends
  have hparse' : Url.parse (server ++ "/").toList = .ok { base with path := .segments segments' } := by
    rw [String.toList_append]
    exact hparse
  rw [endpoint_eq_ok hne hplain hparse' rfl, endpoint_eq_ok hne hplain h.read h.path]
  simp only [Except.ok.injEq, Url.mk.injEq, Path.segments.injEq, List.append_cancel_right_eq,
    true_and, and_true]
  rcases hsegments with ⟨rfl, hroot⟩ | ⟨rfl, hlast⟩
  · exact iff_of_true rfl hroot
  · rw [Url.remaining_concat_empty_eq_iff (Url.ne_nil_of_parse h.read h.scheme h.path) h.filled, hlast]

theorem extends_endpoint : Extends (endpoint · more) more where
  refused := by
    intro server
    rcases endpoint_cases server more with ⟨hbase, url, hurl⟩ | ⟨f, hnone, hf⟩
    · simp [hurl, hbase]
    · obtain ⟨cause, rfl⟩ := hnone.exists_cause
      exact iff_of_true ⟨cause, hf⟩ hnone.not_isBase
  found := by
    intro server
    rcases endpoint_cases server more with ⟨hbase, url, hurl⟩ | ⟨f, hnone, hf⟩
    · exact iff_of_true ⟨url, hurl⟩ hbase
    · simp [hf, hnone.not_isBase]
  extended := by
    intro server base segments h
    rw [endpoint_eq_ok hne hplain h.read h.path, Url.remaining_of_filled h.filled]
  slash := endpoint_slash_iff hne hplain

end endpoint

/-- Both endpoints of a registration come from the texts of their servers, each with the segments of
its own. -/
theorem endpoints_extend (r : Registration) :
    Extends (fun server => { r with authServer := server }.exchangeUrl)
        ["login", "oauth", "access_token"] ∧
      Extends (fun server => { r with apiServer := server }.profileUrl) ["user"] :=
  ⟨extends_endpoint (by decide) (by decide +kernel), extends_endpoint (by decide) (by decide +kernel)⟩

/-- A base that has every part. -/
def crowdedBase : Url where
  scheme := "https".toList
  authority := some ⟨"me".toList, some "pw".toList, .name "site.test".toList, some 8443⟩
  path := .segments ["a%2Fb".toList, "c".toList, []]
  query := some "q".toList
  fragment := some "f".toList

theorem endpoints_extend_crowded :
    IsWebBase "HTTPS://me:pw@Site.test:8443/a%2Fb/./c/?q#f" crowdedBase
        ["a%2Fb".toList, "c".toList, []] ∧
      endpoint "HTTPS://me:pw@Site.test:8443/a%2Fb/./c/?q#f" ["user"] =
        .ok { crowdedBase with path := .segments ["a%2Fb".toList, "c".toList, "user".toList] } := by
  have hbase : IsWebBase "HTTPS://me:pw@Site.test:8443/a%2Fb/./c/?q#f" crowdedBase
      ["a%2Fb".toList, "c".toList, []] :=
    ⟨by decide +kernel, .inr rfl, rfl, by decide⟩
  exact ⟨hbase, (endpoints_extend ⟨"", "", "", ""⟩).2.extended hbase⟩

/-- A blank at the end of an address is not read, but with a slash behind it, it is one of the
characters of the last segment. -/
theorem profileUrl_moves_behind_blank :
    ¬∀ (r : Registration) (base : Url) (segments : List (List Char)),
      IsWebBase r.apiServer base segments → base.query = none → base.fragment = none →
        r.apiServer.toList.getLast? ≠ some '/' → segments.getLast? ≠ some [] →
          { r with apiServer := r.apiServer ++ "/" }.profileUrl = r.profileUrl := by
  intro hall
  have hsame := hall ⟨"app", "key", "http://auth.test", "http://api.test/x "⟩
    ⟨"http".toList, some ⟨[], none, .name "api.test".toList, none⟩, .segments ["x".toList], none,
      none⟩
    ["x".toList] ⟨by decide +kernel, .inl rfl, rfl, by decide⟩ rfl rfl (by decide) (by decide)
  exact absurd hsame (by decide +kernel)

end GitHub.Registration

end LoginGateway
