import LoginGateway.Proofs.Url.Addresses
import LoginGateway.Proofs.Url.PathSegments
import LoginGateway.Proofs.Url.WebOrigins

/-!
The text of a host. Whatever a host was read from, its text is not empty and holds neither blanks
nor any of the characters that part a URL, so that it can be found again in the text of the URL; and
what is read from it is that host. Main statements: `Host.isInner_of_mem_render`,
`Host.read_render`.
-/

namespace LoginGateway

/-! ### Characters -/

namespace Url

/-- The character may stand in a host: it is no blank and parts no URL. -/
def IsInner (c : Char) : Prop := isSeparator c = false ∧ isBlank c = false

theorem isInner_of_not_isForbidden {c : Char} (h : Domain.isForbidden c = false) : IsInner c := by
  simp only [Domain.isForbidden, Bool.or_eq_false_iff, decide_eq_false_iff_not] at h
  constructor
  · by_contra hseparator
    rw [Bool.not_eq_false, isSeparator, List.contains_iff_mem] at hseparator
    have hall : "/\\?#@".toList.all ("%#/:<>?@[\\]^|".toList.contains ·) = true := by decide
    rw [List.all_eq_true.mp hall c hseparator] at h
    cases h.2
  · exact decide_eq_false h.1.1

theorem isInner_of_isAlphanum {c : Char} (h : c.isAlphanum = true) : IsInner c :=
  isInner_of_not_isForbidden (Domain.not_isForbidden_of_isAlphanum h)

theorem isInner_of_isDigit {c : Char} (h : c.isDigit = true) : IsInner c :=
  isInner_of_isAlphanum (by rw [Char.isAlphanum, h, Bool.or_true])

end Url

namespace Host

theorem readBracketed_eq_ok {s : List Char} {h : Host} (hread : readBracketed s = .ok h) :
    ∃ a, h = .ipv6 a := by
  rw [readBracketed] at hread
  split at hread
  · cases hread
    exact ⟨_, rfl⟩
  · cases hread

/-- A host of a name is a dotted address or a name in its ASCII spelling. -/
theorem readDomain_eq_ok {s : List Char} {h : Host} (hread : readDomain s = .ok h) :
    (∃ a, h = .ipv4 a) ∨ ∃ name domain, Domain.toAscii? name = some domain ∧ domain ≠ [] ∧
      Ipv4.isNumeric domain = false ∧ h = .name domain := by
  rw [readDomain] at hread
  split at hread
  · cases hread
  · cases hread
  · next domain hne hdomain =>
      split at hread
      · split at hread
        · cases hread
          exact .inl ⟨_, rfl⟩
        · cases hread
      · next hnumeric =>
          cases hread
          obtain ⟨name, -, hname⟩ := Option.bind_eq_some_iff.mp hdomain
          exact .inr ⟨name, domain, hname, hne, Bool.eq_false_of_not_eq_true hnumeric, rfl⟩

theorem read_eq_ok {s : List Char} {h : Host} (hread : read true s = .ok h) :
    (∃ a, h = .ipv4 a) ∨ (∃ a, h = .ipv6 a) ∨
      ∃ name domain, Domain.toAscii? name = some domain ∧ domain ≠ [] ∧
        Ipv4.isNumeric domain = false ∧ h = .name domain := by
  rw [read.eq_def] at hread
  split at hread
  · exact .inr (.inl (readBracketed_eq_ok hread))
  · exact (readDomain_eq_ok hread).imp_right .inr

/-- The text of a host holds neither blanks nor separators. -/
theorem isInner_of_mem_render {s : List Char} {h : Host} (hread : read true s = .ok h) {c : Char}
    (hc : c ∈ h.render) : Url.IsInner c := by
  rcases read_eq_ok hread with ⟨a, rfl⟩ | ⟨a, rfl⟩ | ⟨name, domain, hdomain, -, -, rfl⟩
  · rcases Ipv4.mem_render hc with rfl | hdigit
    · exact ⟨by decide, by decide⟩
    · exact Url.isInner_of_isDigit hdigit
  · rw [render, List.cons_append, List.mem_cons, List.mem_append, List.mem_singleton] at hc
    rcases hc with rfl | hc | rfl
    · exact ⟨by decide, by decide⟩
    · rcases Ipv6.mem_render hc with rfl | hdigit
      · exact ⟨by decide, by decide⟩
      · exact Url.isInner_of_isAlphanum hdigit
    · exact ⟨by decide, by decide⟩
  · exact Url.isInner_of_not_isForbidden (Domain.not_isForbidden_of_mem_toAscii? hdomain c hc)

theorem render_ne_nil {s : List Char} {h : Host} (hread : read true s = .ok h) : h.render ≠ [] := by
  rcases read_eq_ok hread with ⟨a, rfl⟩ | ⟨a, rfl⟩ | ⟨name, domain, -, hne, -, rfl⟩
  · simp [render, Ipv4.render, Ipv4.bytes, Text.joinWith]
  · simp [render]
  · exact hne

/-! ### Hosts that are read again -/

theorem read_of_not_bracket {s : List Char} (h : '[' ∉ s) : read true s = readDomain s := by
  rw [read.eq_def]
  split
  · next rest => exact absurd List.mem_cons_self h
  · rfl

theorem readBracketed_render (a : Ipv6) : readBracketed (a.render ++ [']']) = .ok (.ipv6 a) := by
  rw [readBracketed, List.getLast?_concat, List.dropLast_concat, Ipv6.parse?_render]
  rfl

/-- The domain name that a text in its ASCII spelling stands for is that text. -/
theorem toAscii?_decodeText {domain : List Char} (h : Domain.toAscii? domain = some domain) :
    (Utf8.decode? (Percent.decodeText domain)).bind Domain.toAscii? = some domain := by
  have hpercent : '%' ∉ domain := fun hmem =>
    absurd (Domain.not_isForbidden_of_mem_toAscii? h '%' hmem) (by decide)
  rw [Percent.decodeText_of_not_mem hpercent, Utf8.decode?_encode, Option.bind_some, h]

theorem bracket_not_mem_of_toAscii? {name domain : List Char}
    (h : Domain.toAscii? name = some domain) : '[' ∉ domain := fun hmem =>
  absurd (Domain.not_isForbidden_of_mem_toAscii? h '[' hmem) (by decide)

theorem readDomain_name {domain : List Char} (h : Domain.toAscii? domain = some domain)
    (hne : domain ≠ []) (hnumeric : Ipv4.isNumeric domain = false) :
    readDomain domain = .ok (.name domain) := by
  rw [readDomain, toAscii?_decodeText h]
  split
  · next hnone => cases hnone
  · next hnil => exact absurd (Option.some.inj hnil) hne
  · next heq =>
      cases heq
      rw [hnumeric, if_neg Bool.false_ne_true]

theorem readDomain_ipv4 (a : Ipv4) : readDomain a.render = .ok (.ipv4 a) := by
  have hne : a.render ≠ [] := by simp [Ipv4.render, Ipv4.bytes, Text.joinWith]
  rw [readDomain, toAscii?_decodeText a.toAscii?_render]
  split
  · next hnone => cases hnone
  · next hnil => exact absurd (Option.some.inj hnil) hne
  · next heq =>
      cases heq
      rw [if_pos a.isNumeric_render, a.parse?_render]

/-- A host is read again from its text. -/
theorem read_render {s : List Char} {h : Host} (hread : read true s = .ok h) :
    read true h.render = .ok h := by
  rcases read_eq_ok hread with ⟨a, rfl⟩ | ⟨a, rfl⟩ | ⟨name, domain, hdomain, hne, hnumeric, rfl⟩
  · rw [render, read_of_not_bracket (bracket_not_mem_of_toAscii? a.toAscii?_render)]
    exact readDomain_ipv4 a
  · exact readBracketed_render a
  · rw [render, read_of_not_bracket (bracket_not_mem_of_toAscii? hdomain)]
    exact readDomain_name (Domain.toAscii?_of_toAscii? hdomain) hne hnumeric

end Host

end LoginGateway
