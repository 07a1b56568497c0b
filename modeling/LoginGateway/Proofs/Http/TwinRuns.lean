import LoginGateway.Proofs.Http.DirectCalls

/-!
Two runs of sessions side by side. The calls of the one may differ from those of the other as a
relation admits that redirections keep, and so may the answers that come in. As long as the sessions
look only at what the relations leave alone, they take the same way: they come to related values,
write the same records, and leave related remotes. Main statement: `send_alike`.
-/

namespace LoginGateway.Http

/-- Related answers send a client the same way. -/
def KeepsHead (Q : Answer → Answer → Prop) : Prop :=
  ∀ a b, Q a b → a.status = b.status ∧ a.headers = b.headers

theorem keepsHead_eq : KeepsHead Eq := by
  rintro a _ rfl
  exact ⟨rfl, rfl⟩

/-- Related calls are made alike, and what they are redirected to is related again. -/
structure KeepsLine (R : Call → Call → Prop) : Prop where
  method : ∀ c d, R c d → c.method = d.method
  url : ∀ c d, R c d → c.url = d.url
  redirected : ∀ c d, R c d → ∀ status next,
    R (Client.redirected c status next) (Client.redirected d status next)

theorem keepsLine_eq : KeepsLine Eq where
  method _ _ h := h ▸ rfl
  url _ _ h := h ▸ rfl
  redirected _ _ h _ _ := h ▸ rfl

inductive Reply.Alike (Q : Answer → Answer → Prop) : Reply → Reply → Prop
  | closed : Alike Q .closed .closed
  | answer {a b : Answer} : Q a b → Alike Q (.answer a) (.answer b)

inductive Remote.Alike (Q : Answer → Answer → Prop) : Remote → Remote → Prop
  | unreachable : Alike Q .unreachable .unreachable
  | replying {replies replies' : List Reply} : List.Forall₂ (Reply.Alike Q) replies replies' →
      Alike Q (.replying replies) (.replying replies')

structure Run.Alike {α β : Type} (R : Call → Call → Prop) (Q : Answer → Answer → Prop)
    (V : α → β → Prop) (r : Run α) (r' : Run β) : Prop where
  value : V r.value r'.value
  sent : List.Forall₂ R r.sent r'.sent
  log : r.log = r'.log
  remote : r.remote.Alike Q r'.remote

/-! ### Replies -/

theorem Reply.Alike.settled {Q : Answer → Answer → Prop} (hQ : KeepsHead Q) {reply reply' : Reply}
    (h : reply.Alike Q reply') : reply.settled.Alike Q reply'.settled := by
  cases h with
  | closed => exact .closed
  | @answer a b hab =>
      rw [Reply.settled, Reply.settled, (hQ a b hab).1]
      split
      · exact .closed
      · exact .answer hab

theorem Reply.alike_eq_iff {reply reply' : Reply} : reply.Alike Eq reply' ↔ reply = reply' := by
  constructor
  · rintro (_ | ⟨rfl⟩)
    · rfl
    · rfl
  · rintro rfl
    cases reply with
    | closed => exact .closed
    | answer a => exact .answer rfl

theorem Remote.alike_eq_iff {remote remote' : Remote} :
    remote.Alike Eq remote' ↔ remote = remote' := by
  have hreply : Reply.Alike Eq = Eq := by
    funext reply reply'
    exact propext Reply.alike_eq_iff
  constructor
  · rintro (_ | ⟨hreplies⟩)
    · rfl
    · rw [hreply, List.forall₂_eq_eq_eq] at hreplies
      rw [hreplies]
  · rintro rfl
    cases remote with
    | unreachable => exact .unreachable
    | replying replies =>
        refine .replying ?_
        rw [hreply, List.forall₂_eq_eq_eq]

theorem Remote.Alike.refl (remote : Remote) : remote.Alike Eq remote := Remote.alike_eq_iff.mpr rfl

/-! ### Sessions -/

section sessions

variable {α β γ δ : Type} {R : Call → Call → Prop} {Q : Answer → Answer → Prop}
  {V : α → β → Prop} {W : γ → δ → Prop} {remote remote' : Remote}

theorem Run.Alike.pure {a : α} {b : β} (h : V a b) (hremote : remote.Alike Q remote') :
    Run.Alike R Q V ((Pure.pure a : Session α) remote) ((Pure.pure b : Session β) remote') :=
  ⟨h, .nil, rfl, hremote⟩

theorem Run.Alike.bind {x : Session α} {y : Session β} {f : α → Session γ} {g : β → Session δ}
    (h : Run.Alike R Q V (x remote) (y remote'))
    (hfg : ∀ {a b rest rest'}, V a b → Remote.Alike Q rest rest' →
      Run.Alike R Q W (f a rest) (g b rest')) :
    Run.Alike R Q W ((x >>= f) remote) ((y >>= g) remote') := by
  have hrest := hfg h.value h.remote
  refine ⟨hrest.value, ?_, ?_, hrest.remote⟩
  · rw [Session.sent_bind, Session.sent_bind]
    exact List.rel_append h.sent hrest.sent
  · rw [Session.log_bind, Session.log_bind, h.log, hrest.log]

theorem Run.Alike.mono {R' : Call → Call → Prop} {V' : α → β → Prop} {r : Run α} {r' : Run β}
    (hR : ∀ c d, R c d → R' c d) (hV : ∀ a b, V a b → V' a b) (h : Run.Alike R Q V r r') :
    Run.Alike R' Q V' r r' :=
  ⟨hV _ _ h.value, h.sent.imp hR, h.log, h.remote⟩

/-- Sessions that come to one value and leave one remote can go on in ways that are alike. -/
theorem Run.Alike.bind_eq {x y : Session α} {f : α → Session γ} {g : α → Session δ}
    (h : Run.Alike R Eq Eq (x remote) (y remote'))
    (hfg : ∀ a rest, Run.Alike R Eq W (f a rest) (g a rest)) :
    Run.Alike R Eq W ((x >>= f) remote) ((y >>= g) remote') := by
  refine h.bind ?_
  rintro a _ rest rest' rfl hrest
  obtain rfl := Remote.alike_eq_iff.mp hrest
  exact hfg a rest

/-- A session is like itself if every call is like itself. -/
theorem Run.Alike.refl (hR : ∀ c, R c c) (x : Session α) (remote : Remote) :
    Run.Alike R Eq Eq (x remote) (x remote) :=
  ⟨rfl, List.forall₂_same.mpr fun c _ => hR c, rfl, .refl _⟩

theorem exchange_alike (hR : KeepsLine R) (hQ : KeepsHead Q) {c d : Call} (h : R c d)
    (hremote : remote.Alike Q remote') :
    Run.Alike R Q (Reply.Alike Q) (Session.exchange c remote) (Session.exchange d remote') := by
  cases hremote with
  | unreachable => exact ⟨.closed, .nil, rfl, .unreachable⟩
  | replying hreplies =>
      simp only [Session.exchange, hR.url c d h]
      split
      · exact ⟨.closed, .nil, rfl, .replying hreplies⟩
      · cases hreplies with
        | nil => exact ⟨.closed, .cons h .nil, rfl, .replying .nil⟩
        | cons hreply hrest => exact ⟨hreply.settled hQ, .cons h .nil, rfl, .replying hrest⟩

end sessions

namespace Client

/-- What comes of two calls: the same error, or what was left of related answers from one address. -/
inductive Outcomes (Q : Answer → Answer → Prop) :
    Except TransportError Received → Except TransportError Received → Prop
  | error (e : TransportError) : Outcomes Q (.error e) (.error e)
  | answer {a b : Answer} (method : String) (url : Url) : Q a b →
      Outcomes Q (.ok ⟨withBodyOf method a, url⟩) (.ok ⟨withBodyOf method b, url⟩)

theorem Outcomes.eq {o o' : Except TransportError Received} (h : Outcomes Eq o o') : o = o' := by
  cases h with
  | error e => rfl
  | answer method url h => rw [h]

section calls

variable {R : Call → Call → Prop} {Q : Answer → Answer → Prop} {remote remote' : Remote}

theorem destination?_alike (hQ : KeepsHead Q) {a b : Answer} (h : Q a b) (url : Url) :
    destination? url a = destination? url b := by
  rw [destination?, destination?, (hQ a b h).1, (hQ a b h).2]

theorem follow_alike (hR : KeepsLine R) (hQ : KeepsHead Q) (left : Nat) {c d : Call} (h : R c d)
    (hremote : remote.Alike Q remote') :
    Run.Alike R Q (Outcomes Q) (follow left c remote) (follow left d remote') := by
  -- Each redirection changes both calls and both remotes, and keeps them related.
  induction left using Nat.strongRecOn generalizing c d remote remote' with
  | ind left ih =>
      rw [follow, follow]
      refine (exchange_alike hR hQ h hremote).bind ?_
      intro reply reply' rest rest' hreply hrest
      cases hreply with
      | closed =>
          rw [hR.url c d h]
          exact .pure (.error _) hrest
      | @answer a b hab =>
          have hnext := destination?_alike hQ hab c.url
          simp only [hR.url c d h] at hnext ⊢
          rw [hnext, (hQ a b hab).1]
          cases destination? d.url b with
          | none =>
              rw [hR.method c d h]
              exact .pure (.answer _ _ hab) hrest
          | some next =>
              cases left with
              | zero => exact .pure (.error _) hrest
              | succ left =>
                  simp only
                  split
                  · exact ih left (Nat.lt_succ_self left) (hR.redirected c d h b.status next) hrest
                  · exact .pure (.error _) hrest

/-- Calls that are put together alike fare alike. -/
theorem send_alike (hR : KeepsLine R) (hQ : KeepsHead Q) {method : String} {url : Url}
    {headers headers' : Headers} {body body' : Option (List Char)}
    (hlegal : headers.fields.all (isHeaderValue ·.2) = headers'.fields.all (isHeaderValue ·.2))
    (h : R (prepared method url headers body) (prepared method url headers' body'))
    (hremote : remote.Alike Q remote') :
    Run.Alike R Q (Outcomes Q) (send method url headers body remote)
      (send method url headers' body' remote') := by
  rw [send_eq, send_eq, withUserinfo_legal, withUserinfo_legal, hlegal]
  split
  · split
    · exact follow_alike hR hQ redirectLimit h hremote
    · exact .pure (.error _) hremote
  · exact .pure (.error _) hremote

/-- Before one remote, calls that are put together alike have one outcome. -/
theorem send_alike_eq (hR : KeepsLine R) {method : String} {url : Url} {headers headers' : Headers}
    {body body' : Option (List Char)}
    (hlegal : headers.fields.all (isHeaderValue ·.2) = headers'.fields.all (isHeaderValue ·.2))
    (h : R (prepared method url headers body) (prepared method url headers' body'))
    (remote : Remote) :
    Run.Alike R Eq Eq (send method url headers body remote)
      (send method url headers' body' remote) :=
  (send_alike hR keepsHead_eq hlegal h (.refl remote)).mono (fun _ _ hcall => hcall)
    fun _ _ houtcome => houtcome.eq

end calls

end Client

end LoginGateway.Http
