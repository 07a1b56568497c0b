import LoginGateway.Proofs.Url.HostText

/-!
Authorities that are read again. What a URL of the web has for a place is found at the same place of
its text: the host ends at the port or at the slash, and the port is not the one that the scheme
leaves out. Main statement: `readAuthority_render`.
-/

namespace LoginGateway

/-- An authority as a URL of the scheme holds it if nobody is named in it. -/
structure Authority.Settled (scheme : List Char) (a : Authority) : Prop where
  username : a.username = []
  password : a.password = none
  host : Host.read true a.host.render = .ok a.host
  port : ∀ p, a.port = some p → defaultPort? scheme ≠ some p

namespace Url

/-! ### What was read -/

theorem port_of_readPort {scheme s rest : List Char} {port : Option UInt16}
    (h : readPort scheme s = .ok (port, rest)) :
    ∀ p, port = some p → defaultPort? scheme ≠ some p := by
  rintro p rfl hdefault
  rw [readPort] at h
  simp only at h
  split at h
  · cases h
  · simp only [Except.ok.injEq, Prod.mk.injEq] at h
    obtain ⟨hport, -⟩ := h
    split at hport
    · cases hport
    · next hkept =>
        rw [Option.some.inj hport, hdefault] at hkept
        simp at hkept

/-- The port behind a host, if a colon begins one. -/
def portBehind (scheme : List Char) : List Char → Except UrlError (Option UInt16 × List Char)
  | ':' :: after => readPort scheme after
  | s => .ok (none, s)

theorem isEmpty_of_read {s : List Char} {h : Host} (hread : Host.read true s = .ok h) :
    h.isEmpty = false := by
  have hne := Host.render_ne_nil hread
  rw [Host.isEmpty.eq_def]
  split
  · exact absurd rfl hne
  · rfl

/-- An authority is read in its parts: who is named, the host, and the port behind it. -/
theorem readAuthority_eq_ok_iff {scheme s rest : List Char} {a : Authority}
    (hkind : SchemeKind.of scheme = .web) :
    readAuthority scheme s = .ok (a, rest) ↔ ∃ userinfo behind,
      cutUserinfo true s = .ok (userinfo, behind) ∧
      readUserinfo (userinfo.getD []) = (a.username, a.password) ∧
      (cutHost true false behind).1 ≠ [] ∧
      Host.read true (cutHost true false behind).1 = .ok a.host ∧
      portBehind scheme (cutHost true false behind).2 = .ok (a.port, rest) := by
  obtain ⟨username, password, host, port⟩ := a
  have hspecial : SchemeKind.web.isSpecial = true := rfl
  simp only [readAuthority, hkind, hspecial, bind, Except.bind, Bool.true_and]
  cases cutUserinfo true s with
  | error e => simp
  | ok p =>
      obtain ⟨userinfo, behind⟩ := p
      simp only [Except.ok.injEq, Prod.mk.injEq, and_assoc, exists_and_left, exists_eq_left']
      rcases cutHost true false behind with ⟨text, after⟩
      rcases readUserinfo (userinfo.getD []) with ⟨name, secret⟩
      rcases eq_or_ne text [] with rfl | hne
      · simp
      · simp only [List.isEmpty_eq_false_iff.mpr hne, Bool.false_eq_true, if_false, Prod.mk.injEq]
        cases hread : Host.read true text with
        | error e => simp
        | ok found =>
            simp only [isEmpty_of_read hread, Bool.false_eq_true, if_false, Bool.false_and]
            rw [portBehind.eq_def]
            split
            · next digits =>
                change _ ↔ _ ∧ _ ∧ _ ∧ readPort scheme digits = _
                cases readPort scheme digits with
                | error e => simp
                | ok p =>
                    simp only [Except.ok.injEq, Prod.ext_iff, Authority.mk.injEq]
                    tauto
            · simp only [Except.ok.injEq, Prod.mk.injEq, Authority.mk.injEq]
              tauto

theorem port_of_portBehind {scheme s rest : List Char} {port : Option UInt16}
    (h : portBehind scheme s = .ok (port, rest)) :
    ∀ p, port = some p → defaultPort? scheme ≠ some p := by
  rw [portBehind.eq_def] at h
  split at h
  · exact port_of_readPort h
  · cases h
    intro p hp
    cases hp

theorem host_of_readAuthority {scheme s rest : List Char} {a : Authority}
    (hkind : SchemeKind.of scheme = .web) (h : readAuthority scheme s = .ok (a, rest)) :
    (∃ text, Host.read true text = .ok a.host) ∧
      ∀ p, a.port = some p → defaultPort? scheme ≠ some p := by
  obtain ⟨userinfo, behind, -, -, -, hhost, hport⟩ := (readAuthority_eq_ok_iff hkind).mp h
  exact ⟨⟨_, hhost⟩, port_of_portBehind hport⟩

theorem not_endsAuthority_of_mem_encode {c : Char} {s : List Char}
    (h : c ∈ Percent.encode Percent.userinfoSet s) : endsAuthority true c = false := by
  by_contra hends
  rw [Bool.not_eq_false] at hends
  have hmem : c ∈ "/\\?#".toList := by
    simpa [endsAuthority, Path.isSlash, endsPath, or_assoc] using hends
  have hescaped : "/\\?#".toList.all
      (fun d => Percent.userinfoSet d && d != '%' && !d.isAlphanum) = true := by decide
  have hc := List.all_eq_true.mp hescaped c hmem
  rw [Bool.and_eq_true, Bool.and_eq_true, bne_iff_ne, Bool.not_eq_true'] at hc
  obtain ⟨⟨hset, hsign⟩, halnum⟩ := hc
  rcases Percent.mem_encode h with ⟨-, -, hkept⟩ | heq | hchar
  · exact absurd (hset.symm.trans hkept) (by decide)
  · exact hsign heq
  · exact absurd (hchar.symm.trans halnum) (by decide)

theorem encode_of_readUserinfo {s name : List Char} {password : Option (List Char)}
    (h : readUserinfo s = (name, password)) :
    (∃ t, name = Percent.encode Percent.userinfoSet t) ∧
      ∀ p, password = some p → ∃ t, p = Percent.encode Percent.userinfoSet t := by
  rw [readUserinfo] at h
  split at h
  · cases h
    exact ⟨⟨_, rfl⟩, fun p hp => ⟨_, (Option.some.inj hp).symm⟩⟩
  · cases h
    exact ⟨⟨_, rfl⟩, fun p hp => by cases hp⟩

theorem isInner_of_mem_renderPort {a : Authority} {c : Char} (hc : c ∈ a.renderPort) :
    IsInner c := by
  rw [Authority.renderPort] at hc
  split at hc
  · rcases List.mem_cons.mp hc with rfl | hc
    · exact ⟨by decide, by decide⟩
    · exact isInner_of_isDigit (Text.isDigit_of_mem_decimal hc)
  · cases hc

/-- The text of a host is not empty, and nothing in that of its authority ends an authority. -/
theorem authority_of_readAuthority {scheme s rest : List Char} {a : Authority}
    (hkind : SchemeKind.of scheme = .web) (h : readAuthority scheme s = .ok (a, rest)) :
    a.host.render ≠ [] ∧ ∀ c ∈ a.render, endsAuthority true c = false := by
  obtain ⟨userinfo, behind, -, huser, -, hhost, -⟩ := (readAuthority_eq_ok_iff hkind).mp h
  obtain ⟨⟨name, hname⟩, hpassword⟩ := encode_of_readUserinfo huser
  have huserinfo : ∀ c ∈ a.renderUserinfo, endsAuthority true c = false := by
    intro c hc
    rw [Authority.renderUserinfo] at hc
    split at hc
    · rcases List.mem_append.mp hc with hc | hc
      · rcases List.mem_append.mp hc with hc | hc
        · exact not_endsAuthority_of_mem_encode (hname ▸ hc)
        · split at hc
          · next p hp =>
              obtain ⟨t, rfl⟩ := hpassword p hp
              rcases List.mem_cons.mp hc with rfl | hc
              · decide
              · exact not_endsAuthority_of_mem_encode hc
          · cases hc
      · rw [List.mem_singleton.mp hc]
        decide
    · cases hc
  constructor
  · exact Host.render_ne_nil hhost
  · intro c hc
    rcases List.mem_append.mp hc with hc | hc
    · rcases List.mem_append.mp hc with hc | hc
      · exact huserinfo c hc
      · exact endsAuthority_of_not_separator (Host.isInner_of_mem_render hhost hc).1
    · exact endsAuthority_of_not_separator (isInner_of_mem_renderPort hc).1

theorem settled_of_readAuthority {scheme s rest : List Char} {a : Authority}
    (hkind : SchemeKind.of scheme = .web) (h : readAuthority scheme s = .ok (a, rest))
    (hplain : a.hasUserinfo = false) : a.Settled scheme := by
  rw [Authority.hasUserinfo, Bool.or_eq_false_iff, Bool.not_eq_false', List.isEmpty_iff,
    Option.isSome_eq_false_iff, Option.isNone_iff_eq_none] at hplain
  obtain ⟨⟨text, hread⟩, hport⟩ := host_of_readAuthority hkind h
  exact ⟨hplain.1, hplain.2, Host.read_render hread, hport⟩

/-! ### The host -/

theorem cutHost_append_inner {inBrackets : Bool} {s : List Char}
    (h : ∀ c ∈ s, endsAuthority true c = false ∧ (c = ':' → inBrackets = true) ∧ c ≠ '[' ∧ c ≠ ']')
    (rest : List Char) :
    cutHost true inBrackets (s ++ rest) =
      (s ++ (cutHost true inBrackets rest).1, (cutHost true inBrackets rest).2) := by
  induction s with
  | nil => rfl
  | cons c s ih =>
      obtain ⟨hends, hcolon, hopen, hclose⟩ := h c List.mem_cons_self
      have hgoes : (endsAuthority true c || (c == ':' && !inBrackets)) = false := by
        rw [hends, Bool.false_or, Bool.and_eq_false_iff, beq_eq_false_iff_ne, Bool.not_eq_false']
        exact (em (c = ':')).symm.imp_right hcolon
      have hnext : (if c == '[' then true else inBrackets && c != ']') = inBrackets := by
        simp [hopen, hclose]
      rw [List.cons_append, cutHost, hgoes, if_neg Bool.false_ne_true, hnext,
        ih fun d hd => h d (List.mem_cons_of_mem c hd)]
      rfl

/-- The host ends where the port or the path begins; the colons in brackets are its own. -/
theorem cutHost_render {s : List Char} {h : Host} (hread : Host.read true s = .ok h) {c : Char}
    (hc : c = ':' ∨ c = '/') (rest : List Char) :
    cutHost true false (h.render ++ c :: rest) = (h.render, c :: rest) := by
  have hend : cutHost true false (c :: rest) = ([], c :: rest) := by
    rcases hc with rfl | rfl <;> rfl
  have hinner {d : Char} (hd : d ∈ h.render) : endsAuthority true d = false :=
    endsAuthority_of_not_separator (Host.isInner_of_mem_render hread hd).1
  rcases Host.read_eq_ok hread with ⟨a, rfl⟩ | ⟨a, rfl⟩ | ⟨name, domain, hdomain, -, -, rfl⟩
  · rw [cutHost_append_inner (fun d hd => ⟨hinner hd, ?_⟩), hend, List.append_nil]
    rcases Ipv4.mem_render hd with rfl | hdigit
    · decide
    · refine ⟨?_, ?_, ?_⟩ <;> (rintro rfl; exact absurd hdigit (by decide))
  -- Between the brackets a colon ends nothing; behind them it ends the host again.
  · have hclosed : cutHost true true (']' :: c :: rest) = ([']'], c :: rest) := by
      have hnext : (if ']' == '[' then true else true && ']' != ']') = false := by decide
      rw [cutHost, if_neg (by decide), hnext, hend]
    have hopened (t : List Char) : cutHost true false ('[' :: t) =
        ('[' :: (cutHost true true t).1, (cutHost true true t).2) := by
      rw [cutHost, if_neg (by decide)]
      rfl
    have hbrackets : (Host.ipv6 a).render ++ c :: rest =
        '[' :: (a.render ++ ']' :: c :: rest) := by simp [Host.render]
    rw [hbrackets, hopened, cutHost_append_inner (fun d hd => ⟨?_, fun _ => rfl, ?_⟩), hclosed]
    · rfl
    · exact hinner (List.mem_cons_of_mem '[' (List.mem_append_left _ hd))
    · rcases Ipv6.mem_render hd with rfl | hdigit
      · decide
      · refine ⟨?_, ?_⟩ <;> (rintro rfl; exact absurd hdigit (by decide))
  · rw [cutHost_append_inner (fun d hd => ⟨hinner hd, ?_⟩), hend, List.append_nil]
    have hallowed := Domain.not_isForbidden_of_mem_toAscii? hdomain d hd
    refine ⟨?_, ?_, ?_⟩ <;> (rintro rfl; exact absurd hallowed (by decide))

/-! ### The port -/

theorem readPort_decimal {scheme : List Char} {p : UInt16} (hp : defaultPort? scheme ≠ some p)
    (rest : List Char) :
    readPort scheme (Text.decimal p.toNat ++ '/' :: rest) = .ok (some p, '/' :: rest) := by
  have hsize : p.toNat < 65536 := p.toNat_lt_size
  have hdigits : ∀ c ∈ Text.decimal p.toNat, c.isDigit = true := fun c hc =>
    Text.isDigit_of_mem_decimal hc
  have hne : (Text.decimal p.toNat).isEmpty = false :=
    List.isEmpty_eq_false_iff.mpr (Text.digits_ne_nil _ _)
  have hends : (!endsAuthority true '/') = false := by decide
  have hdefault : (defaultPort? scheme == some p) = false := beq_eq_false_iff_ne.mpr hp
  rw [readPort, List.dropWhile_append_of_pos hdigits, List.dropWhile_cons_of_neg (by decide),
    List.takeWhile_append_of_pos hdigits, List.takeWhile_cons_of_neg (by decide), List.append_nil,
    Text.numeral?_decimal, Option.getD_some, List.head?_cons, Option.any_some, hends]
  simp only [hne, UInt16.ofNat_toNat, hdefault]
  rw [if_neg (by simp; omega)]
  rfl

/-! ### The authority -/

section settled

variable {scheme : List Char} {a : Authority} (h : a.Settled scheme)

include h

theorem render_of_settled : a.render = a.host.render ++ a.renderPort := by
  rw [Authority.render, Authority.renderUserinfo, Authority.hasUserinfo, h.username, h.password]
  rfl

theorem isInner_of_mem_authority {c : Char} (hc : c ∈ a.render) : IsInner c := by
  rw [render_of_settled h, List.mem_append] at hc
  rcases hc with hc | hc
  · exact Host.isInner_of_mem_render h.host hc
  · exact isInner_of_mem_renderPort hc

theorem render_authority_ne_nil : a.render ≠ [] := by
  rw [render_of_settled h, ne_eq, List.append_eq_nil_iff]
  exact fun hnil => Host.render_ne_nil h.host hnil.1

/-- An authority is read again from its text, up to the slash behind it. -/
theorem readAuthority_render (hkind : SchemeKind.of scheme = .web) (rest : List Char) :
    readAuthority scheme (a.render ++ '/' :: rest) = .ok (a, '/' :: rest) := by
  have hbare : Bare a.render :=
    ⟨render_authority_ne_nil h, fun c hc => (isInner_of_mem_authority h hc).1⟩
  refine (readAuthority_eq_ok_iff hkind).mpr
    ⟨none, _, cutUserinfo_of_bare hbare rest, by rw [h.username, h.password]; rfl, ?_⟩
  rw [render_of_settled h, Authority.renderPort]
  cases hport : a.port with
  | none =>
      rw [List.append_nil, cutHost_render h.host (.inr rfl)]
      exact ⟨Host.render_ne_nil h.host, h.host, rfl⟩
  | some p =>
      rw [List.append_assoc, List.cons_append, cutHost_render h.host (.inl rfl)]
      exact ⟨Host.render_ne_nil h.host, h.host, readPort_decimal (h.port p hport) rest⟩

end settled

end Url

end LoginGateway
