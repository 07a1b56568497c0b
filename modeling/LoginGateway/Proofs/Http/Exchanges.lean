import LoginGateway.Http.Client

/-!
What goes over the wire while a session runs. Its calls take the replies of the remote one after the
other, and nothing else does: against a remote a session makes exchanges and comes to a value
(`Makes`), and the exchanges of two sessions, run one after the other, stand one after the other
(`Makes.bind`).
-/

namespace LoginGateway.Http

instance : LawfulMonad Session := by
  refine LawfulMonad.mk' Session ?_ ?_ ?_
  · intro α x
    funext remote
    change (⟨(x remote).value, (x remote).sent ++ [], (x remote).log ++ [],
      (x remote).remote⟩ : Run α) = x remote
    rw [List.append_nil, List.append_nil]
  · intro α β a f
    rfl
  · intro α β γ x f g
    funext remote
    change (⟨_, _, _, _⟩ : Run γ) = ⟨_, _, _, _⟩
    simp

/-- A call that went out, and the reply to it. -/
structure Exchange where
  call : Call
  reply : Reply
deriving DecidableEq, Repr

/-- The exchanges took replies of the remote in their order, which left the second remote. When no
reply is left, connections are closed. -/
inductive Serves : Remote → List Exchange → Remote → Prop
  | done (remote : Remote) : Serves remote [] remote
  | next {reply : Reply} {replies : List Reply} {wire : List Exchange} {rest : Remote}
      (call : Call) : Serves (.replying replies) wire rest →
      Serves (.replying (reply :: replies)) (⟨call, reply.settled⟩ :: wire) rest
  | spent {wire : List Exchange} {rest : Remote} (call : Call) :
      Serves (.replying []) wire rest →
      Serves (.replying []) (⟨call, .closed⟩ :: wire) rest

theorem Serves.append {remote middle rest : Remote} {before after : List Exchange}
    (h : Serves remote before middle) (h' : Serves middle after rest) :
    Serves remote (before ++ after) rest := by
  induction h with
  | done remote => exact h'
  | next call _ ih => exact .next call (ih h')
  | spent call _ ih => exact .spent call (ih h')

/-- Which replies came in is settled by how many calls went out. -/
theorem Serves.eq_of_calls {remote rest rest' : Remote} {wire wire' : List Exchange}
    (h : Serves remote wire rest) (h' : Serves remote wire' rest')
    (hcalls : wire.map (·.call) = wire'.map (·.call)) : wire = wire' := by
  induction h generalizing wire' rest' with
  | done remote =>
      rw [List.map_nil, eq_comm, List.map_eq_nil_iff] at hcalls
      exact hcalls.symm
  | next call _ ih =>
      cases h' with
      | done => cases hcalls
      | next call' h' =>
          simp only [List.map_cons, List.cons.injEq] at hcalls
          rw [hcalls.1, ih h' hcalls.2]
  | spent call _ ih =>
      cases h' with
      | done => cases hcalls
      | spent call' h' =>
          simp only [List.map_cons, List.cons.injEq] at hcalls
          rw [hcalls.1, ih h' hcalls.2]

/-- Every exchange takes one reply. -/
theorem Serves.rest_eq {replies : List Reply} {wire : List Exchange} {rest : Remote}
    (h : Serves (.replying replies) wire rest) : rest = .replying (replies.drop wire.length) := by
  generalize hremote : Remote.replying replies = remote at h
  induction h generalizing replies with
  | done remote => exact hremote.symm
  | next call _ ih =>
      cases hremote
      exact ih rfl
  | spent call _ ih =>
      cases hremote
      rw [ih rfl, List.drop_nil, List.drop_nil]

/-- Against a remote a session makes exchanges and comes to a value, which leaves the remote `rest`. -/
structure Makes {α : Type} (x : Session α) (remote : Remote) (wire : List Exchange) (v : α)
    (rest : Remote) : Prop where
  value : (x remote).value = v
  sent : (x remote).sent = wire.map (·.call)
  served : Serves remote wire rest
  remote : (x remote).remote = rest

namespace Makes

variable {α β : Type}

/-- A session makes the same exchanges whenever it meets the same remote. -/
theorem wire_unique {x : Session α} {remote rest rest' : Remote} {wire wire' : List Exchange}
    {v v' : α} (h : Makes x remote wire v rest) (h' : Makes x remote wire' v' rest') :
    wire = wire' :=
  h.served.eq_of_calls h'.served (h.sent.symm.trans h'.sent)

theorem rest_eq {x : Session α} {replies : List Reply} {rest : Remote} {wire : List Exchange} {v : α}
    (h : Makes x (.replying replies) wire v rest) :
    (x (.replying replies)).remote =
      .replying (replies.drop (x (.replying replies)).sent.length) := by
  rw [h.remote, h.served.rest_eq, h.sent, List.length_map]

theorem pure (a : α) (remote : Remote) : Makes (Pure.pure a : Session α) remote [] a remote :=
  ⟨rfl, rfl, .done remote, rfl⟩

theorem write (level : Log.Level) (target message : String) (remote : Remote) :
    Makes (Session.write level target message) remote [] () remote :=
  ⟨rfl, rfl, .done remote, rfl⟩

theorem bind {x : Session α} {f : α → Session β} {remote middle rest : Remote}
    {before after : List Exchange} {v : α} {w : β} (h : Makes x remote before v middle)
    (h' : Makes (f v) middle after w rest) : Makes (x >>= f) remote (before ++ after) w rest := by
  refine ⟨?_, ?_, h.served.append h'.served, ?_⟩
  · rw [Session.value_bind, h.value, h.remote, h'.value]
  · rw [Session.sent_bind, h.value, h.remote, h.sent, h'.sent, List.map_append]
  · rw [Session.remote_bind, h.value, h.remote, h'.remote]

/-- A step that calls nobody adds no exchange, wherever it stands. -/
theorem bind_silent {x : Session α} {f : α → Session β} {remote rest : Remote}
    {wire : List Exchange} {v : α} {w : β} (h : Makes x remote [] v remote)
    (h' : Makes (f v) remote wire w rest) : Makes (x >>= f) remote wire w rest :=
  h.bind h'

theorem silent_bind {x : Session α} {f : α → Session β} {remote rest : Remote}
    {wire : List Exchange} {v : α} {w : β} (h : Makes x remote wire v rest)
    (h' : Makes (f v) rest [] w rest) : Makes (x >>= f) remote wire w rest := by
  simpa using h.bind h'

theorem map {x : Session α} {remote rest : Remote} {wire : List Exchange} {v : α} (f : α → β)
    (h : Makes x remote wire v rest) : Makes (f <$> x) remote wire (f v) rest :=
  h.silent_bind (.pure _ _)

end Makes

/-- A call writes nothing, whoever answers it. -/
@[simp] theorem exchange_log (call : Call) (remote : Remote) :
    (Session.exchange call remote).log = [] := by
  cases remote with
  | unreachable => rfl
  | replying replies =>
      simp only [Session.exchange]
      split
      · rfl
      · cases replies <;> rfl

/-- A plain call takes the next reply. -/
theorem exchange_replying {call : Call} (hplain : call.url.scheme ≠ "https".toList)
    (replies : List Reply) :
    Makes (Session.exchange call) (.replying replies)
      [⟨call, (replies.headD .closed).settled⟩] (replies.headD .closed).settled
      (.replying replies.tail) := by
  cases replies with
  | nil =>
      refine ⟨?_, ?_, .spent call (.done _), ?_⟩ <;>
        simp only [Session.exchange, if_neg hplain] <;> rfl
  | cons reply replies =>
      refine ⟨?_, ?_, .next call (.done _), ?_⟩ <;>
        simp only [Session.exchange, if_neg hplain] <;> rfl

/-- A call that reaches nobody is not recorded. -/
theorem exchange_makes (call : Call) (remote : Remote) :
    ∃ wire reply rest, Makes (Session.exchange call) remote wire reply rest ∧
      (wire = [] ∧ reply = .closed ∨ wire = [⟨call, reply⟩]) := by
  cases remote with
  | unreachable => exact ⟨[], .closed, _, ⟨rfl, rfl, .done _, rfl⟩, .inl ⟨rfl, rfl⟩⟩
  | replying replies =>
      by_cases hplain : call.url.scheme ≠ "https".toList
      · exact ⟨_, _, _, exchange_replying hplain replies, .inr rfl⟩
      · -- Encrypted connections are never accepted, and take no reply.
        refine ⟨[], .closed, .replying replies, ⟨?_, ?_, .done _, ?_⟩, .inl ⟨rfl, rfl⟩⟩ <;>
          simp only [Session.exchange, if_pos (Decidable.not_not.mp hplain), List.map_nil]

end LoginGateway.Http
