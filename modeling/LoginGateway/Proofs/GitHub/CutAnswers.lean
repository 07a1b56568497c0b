import LoginGateway.Proofs.GitHub.LoginPhases

/-!
Whose fault it is that an answer breaks off. In the code exchange a broken answer is a failure of
the transport, like all other trouble on the way. In the reading of the profile it is held against
the provider, as if its answer had been of no use; but for that, the provider is blamed only for
answers that were refused or that came in whole. Main statement: `enter_classifies_iff`.
-/

namespace LoginGateway.GitHub.SignIn

open Login
open Http (Remote Exchange Makes TransportError Received Answer)
open Http.Client (Chain Concludes)

/-- The reply is an answer of status 200 whose body did not come in to its end. -/
def IsCut (x : Exchange) : Prop := ∃ a, x.reply = .answer a ∧ a.status = .ok ∧ a.missing ≠ 0

def HasCut (wire : List Exchange) : Prop := ∃ x ∈ wire, IsCut x

def failure? {α : Type} : Except Failure α → Option Failure
  | .error f => some f
  | .ok _ => none

/-- A cut answer is a failure of the transport, and the provider is blamed only for what it did say:
for a last answer that was refused, or that came in to its end. -/
structure Classifies (wire : List Exchange) (failure : Option Failure) : Prop where
  cut : HasCut wire → ∃ f fault, failure = some f ∧ f.kind = .transport fault ∧ f.isAnswer = false
  judged : ∀ f, failure = some f → f.isAnswer = true →
    ∃ x a, wire.getLast? = some x ∧ x.reply = .answer a ∧ (a.status ≠ .ok ∨ a.missing = 0)

theorem not_hasCut_nil : ¬HasCut [] := by
  simp [HasCut]

theorem failure?_map {α β : Type} (g : α → β) (result : Except Failure α) :
    failure? (result.map g) = failure? result := by
  cases result <;> rfl

/-! ### Each phase by itself -/

section phases

variable {wire : List Exchange} {outcome : Except TransportError Received}

theorem HasCut.exists_received (hcut : HasCut wire) (h : Concludes wire outcome) :
    ∃ r, outcome = .ok r ∧ r.status = .ok ∧ r.bytes = .error .cutBody := by
  obtain ⟨x, hx, a, hreply, hstatus, hmissing⟩ := hcut
  obtain ⟨r, rfl, rfl⟩ := h.accepted x hx a hreply hstatus
  exact ⟨r, rfl, hstatus, if_neg hmissing⟩

theorem tokenFrom_of_hasCut (h : Concludes wire outcome) (hcut : HasCut wire) :
    tokenFrom outcome = .error (.ofTransport .cutBody) := by
  obtain ⟨r, rfl, hstatus, hbytes⟩ := hcut.exists_received h
  rw [tokenFrom, if_neg (not_not_intro hstatus), Received.text, hbytes]
  rfl

theorem identityFrom_of_hasCut (h : Concludes wire outcome) (hcut : HasCut wire) :
    identityFrom outcome = .error (.answer .malformedBody "error decoding response body") := by
  obtain ⟨r, rfl, hstatus, hbytes⟩ := hcut.exists_received h
  rw [identityFrom, if_neg (not_not_intro hstatus), document?, hbytes]
  rfl

theorem not_hasCut_of_tokenFrom {token : AccessToken} (h : Concludes wire outcome)
    (htoken : tokenFrom outcome = .ok token) : ¬HasCut wire := by
  intro hcut
  rw [tokenFrom_of_hasCut h hcut] at htoken
  cases htoken

/-- The exchange blames the provider for what it said and for nothing else. -/
theorem classifies_tokenFrom (h : Concludes wire outcome) :
    Classifies wire (failure? (tokenFrom outcome)) where
  cut hcut := by
    rw [tokenFrom_of_hasCut h hcut]
    exact ⟨_, .network, rfl, rfl, rfl⟩
  judged := by
    intro f hf hanswer
    cases outcome with
    | error e =>
        cases hf
        cases hanswer
    | ok r =>
        obtain ⟨x, a, hx, hreply, hstatus, ha⟩ := h.last r rfl
        refine ⟨x, a, hx, hreply, ?_⟩
        by_cases hok : r.status = .ok
        · right
          obtain rfl := ha hok
          rw [tokenFrom, if_neg (not_not_intro hok)] at hf
          cases htext : r.text with
          | error e =>
              rw [htext] at hf
              cases hf
              cases hanswer
          | ok text => exact (text_eq_ok htext).1
        · left
          rwa [hstatus]

/-- A profile request of which the provider is not blamed for a call that broke off. -/
theorem classifies_identityFrom (h : Concludes wire outcome) (hwhole : ¬HasCut wire) :
    Classifies wire (failure? (identityFrom outcome)) where
  cut hcut := absurd hcut hwhole
  judged := by
    intro f hf hanswer
    cases outcome with
    | error e =>
        cases hf
        cases hanswer
    | ok r =>
        obtain ⟨x, a, hx, hreply, -⟩ := h.last r rfl
        refine ⟨x, a, hx, hreply, ?_⟩
        by_contra hneither
        obtain ⟨hok, hmissing⟩ := not_or.mp hneither
        exact hwhole ⟨x, List.mem_of_getLast? hx, a, hreply, Decidable.not_not.mp hok, hmissing⟩

end phases

/-! ### The whole login -/

section login

variable {exchange profile : List Exchange} {failure : Option Failure}

theorem hasCut_append_iff : HasCut (exchange ++ profile) ↔ HasCut exchange ∨ HasCut profile := by
  simp only [HasCut, List.mem_append, or_and_right, exists_or]

/-- What comes before has no part in who is blamed for the last answer. -/
theorem Classifies.append (h : Classifies profile failure) (hwhole : ¬HasCut exchange) :
    Classifies (exchange ++ profile) failure where
  cut hcut := h.cut ((hasCut_append_iff.mp hcut).resolve_left hwhole)
  judged := by
    intro f hf hanswer
    obtain ⟨x, a, hx, hrest⟩ := h.judged f hf hanswer
    exact ⟨x, a, by rw [List.getLast?_append, hx]; rfl, hrest⟩

/-- Behind an exchange that came in whole, the profile is judged rightly if it came in whole too. -/
theorem classifies_append_iff {outcome : Except TransportError Received} (hwhole : ¬HasCut exchange)
    (h : Concludes profile outcome) :
    Classifies (exchange ++ profile) (failure? (identityFrom outcome)) ↔ ¬HasCut profile := by
  constructor
  · intro hclassifies hcut
    obtain ⟨f, fault, hf, hkind, -⟩ := hclassifies.cut (hasCut_append_iff.mpr (.inr hcut))
    rw [identityFrom_of_hasCut h hcut] at hf
    cases hf
    cases hkind
  · intro hcut
    exact (classifies_identityFrom h hcut).append hwhole

end login

/-- A login fails on the transport if the exchange is cut, and on the provider if the profile is
cut. So it tells the two apart exactly if no answer is cut to the calls that read the profile. -/
theorem enter_classifies_iff (s : SignIn) (callback : Url) (remote : Remote) :
    ∃ exchange profile result rest,
      Makes (s.pass.enter callback) remote (exchange ++ profile) result rest ∧
      TokenPhase s callback exchange ∧ ProfilePhase s exchange profile ∧
      (HasCut exchange → result = .error (.ofTransport .cutBody)) ∧
      (HasCut profile →
        result = .error (.answer .malformedBody "error decoding response body")) ∧
      (Classifies (exchange ++ profile) (failure? result) ↔ ¬HasCut profile) := by
  cases hcode : code? callback with
  | none =>
      refine ⟨[], [], _, remote, (enter_makes_of_no_code hcode remote).map (Except.map some),
        .nil s callback, .nil s [], fun hcut => absurd hcut not_hasCut_nil,
        fun hcut => absurd hcut not_hasCut_nil, ?_⟩
      refine iff_of_true ⟨fun hcut => absurd hcut not_hasCut_nil, ?_⟩ not_hasCut_nil
      intro f hf hanswer
      cases hf
      cases hanswer
  | some code =>
      obtain ⟨exchange, profile, outcome, result, rest, hmakes, hchain, hconcludes, hconcluded⟩ :=
        enter_concluded hcode s remote
      refine ⟨exchange, profile, _, rest, hmakes.map (Except.map some), .of_chain hcode hchain, ?_⟩
      rw [failure?_map]
      cases hconcluded with
      | @refused f htoken hnil =>
          subst hnil
          have hclassifies := classifies_tokenFrom hconcludes
          rw [htoken] at hclassifies
          refine ⟨.nil s exchange, ?_, fun hcut => absurd hcut not_hasCut_nil, ?_⟩
          · intro hcut
            rw [tokenFrom_of_hasCut hconcludes hcut] at htoken
            cases htoken
            rfl
          · rw [List.append_nil]
            exact iff_of_true hclassifies not_hasCut_nil
      | @admitted read token htoken hchain' hconcludes' =>
          have hwhole := not_hasCut_of_tokenFrom hconcludes htoken
          refine ⟨.of_chain (yields_of_concludes hconcludes htoken) hchain',
            fun hcut => absurd hcut hwhole, ?_, classifies_append_iff hwhole hconcludes'⟩
          intro hcut
          rw [identityFrom_of_hasCut hconcludes' hcut]
          rfl

def tokenAnswer : Answer where
  status := .ok
  body := Utf8.encode "<OAuth><access_token>T</access_token></OAuth>".toList

/-- The document of a profile, of which one more byte was promised. -/
def cutProfile : Answer where
  status := .ok
  body := Utf8.encode "\x7b\"id\":1\x7d".toList
  missing := 1

/-- What is exchanged when the profile breaks off. -/
def cutWire : List Exchange := [
  ⟨testSignIn.exchangeCall (returnedWith "x") "x".toList, .answer tokenAnswer⟩,
  ⟨testSignIn.profileCall ⟨"T"⟩, .answer cutProfile⟩]

/-- The provider is blamed for an answer that broke off. -/
theorem enter_blames_provider :
    Makes (testSignIn.pass.enter (returnedWith "x"))
        (.replying [.answer tokenAnswer, .answer cutProfile]) cutWire
        (.error (.answer .malformedBody "error decoding response body")) (.replying []) ∧
      HasCut cutWire ∧
      ¬Classifies cutWire (some (.answer .malformedBody "error decoding response body")) := by
  have hcut : HasCut cutWire :=
    ⟨_, List.mem_cons_of_mem _ List.mem_cons_self, cutProfile, rfl, rfl, by decide⟩
  refine ⟨⟨by decide +kernel, by decide +kernel, .next _ (.next _ (.done _)), by decide +kernel⟩,
    hcut, ?_⟩
  intro h
  obtain ⟨f, fault, hf, hkind, -⟩ := h.cut hcut
  cases hf
  cases hkind

end LoginGateway.GitHub.SignIn
