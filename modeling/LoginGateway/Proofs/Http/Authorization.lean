import LoginGateway.Proofs.Http.Redirections

/-!
The authorization of a call along a chain of redirections. It goes with the calls as long as all of
them stay at the host and port of the first one. Once one of them has left, no later call has it,
wherever that call goes. Main statements: `Follows.authorization`, `send_authorization`.
-/

namespace LoginGateway.Http

theorem Call.sentHeaders_authorization (call : Call) :
    call.sentHeaders.values "authorization" = call.headers.values "authorization" := by
  rw [Call.sentHeaders]
  cases call.body <;> simp

namespace Client

/-! ### Places -/

theorem samePlace_iff {a b : Url} : samePlace a b = true ↔ a.host? = b.host? ∧ a.port? = b.port? := by
  simp [samePlace]

@[simp] theorem samePlace_refl (a : Url) : samePlace a a = true := by
  simp [samePlace]

theorem samePlace_trans {a b c : Url} (h : samePlace a b = true) (h' : samePlace b c = true) :
    samePlace a c = true := by
  rw [samePlace_iff] at h h' ⊢
  exact ⟨h.1.trans h'.1, h.2.trans h'.2⟩

theorem samePlace_symm {a b : Url} (h : samePlace a b = true) : samePlace b a = true := by
  rw [samePlace_iff] at h ⊢
  exact ⟨h.1.symm, h.2.symm⟩

/-- Urls at one place are at the same places. -/
theorem samePlace_congr {a b : Url} (h : samePlace a b = true) (c : Url) :
    samePlace a c = samePlace b c := by
  rw [Bool.eq_iff_iff]
  exact ⟨samePlace_trans (samePlace_symm h), samePlace_trans h⟩

theorem samePlace_called (url : Url) : samePlace url (called url) = true := by
  rw [samePlace_iff, called]
  split
  · cases ha : url.authority <;> simp [Url.host?, Url.port?, Url.withoutUserinfo, ha]
  · exact ⟨rfl, rfl⟩

/-! ### Along a chain -/

theorem redirected_authorization (call : Call) (status : Status) (next : Url) :
    (redirected call status next).headers.values "authorization" =
      if samePlace call.url next then call.headers.values "authorization" else [] := by
  have hkept : (if keepsBody status then call else withoutBody call).headers.values "authorization" =
      call.headers.values "authorization" := by
    split <;> simp [withoutBody]
  cases hplace : samePlace call.url next with
  | false => simp [redirected, hplace]
  | true =>
      cases hpage : referer? call.url next <;> simp [redirected, hplace, hpage, hkept]

/-- The authorization of the first call is that of every call up to the first one at another place,
and no call from there on has any. -/
theorem Follows.authorization {left : Nat} {call : Call} {wire : List Exchange}
    {outcome : Except TransportError Received} (h : Follows left call wire outcome) {i : Nat}
    {y : Exchange} (hy : wire[i]? = some y) :
    y.call.headers.values "authorization" =
      if (wire.take (i + 1)).all (samePlace call.url ·.call.url) then
        call.headers.values "authorization"
      else [] := by
  induction h generalizing i with
  | unreached => cases hy
  | @moved left call a next wire outcome hnext hweb hrest ih =>
      cases i with
      | zero =>
          obtain rfl : ⟨call, .answer a⟩ = y := by simpa using hy
          simp
      | succ i =>
          rw [List.getElem?_cons_succ] at hy
          rw [List.take_succ_cons, List.all_cons, samePlace_refl, Bool.true_and, ih hy,
            redirected_authorization]
          cases hplace : samePlace call.url next with
          | true =>
              have hcongr (x : Exchange) : samePlace (redirected call a.status next).url x.call.url =
                  samePlace call.url x.call.url := (samePlace_congr hplace _).symm
              simp only [hcongr, if_true]
          | false =>
              -- The first of the remaining calls is already away, and all of them lost it.
              obtain ⟨first, hfirst⟩ : ∃ first, wire.head? = some first := by
                cases wire with
                | nil => cases hy
                | cons first wire => exact ⟨first, rfl⟩
              have haway : (wire.take (i + 1)).all (samePlace call.url ·.call.url) = false := by
                rw [List.all_eq_false]
                refine ⟨first, ?_, ?_⟩
                · exact List.mem_of_mem_head? (by rw [List.head?_take, if_neg (by omega), hfirst]; rfl)
                · rw [hrest.call_of_head? hfirst]
                  exact ne_true_of_eq_false hplace
              simp [haway]
  | _ =>
      obtain ⟨rfl, rfl⟩ : i = 0 ∧ _ = y := by simpa [List.getElem?_singleton] using hy
      simp

/-- The authorization that a call brings with it: a name and password in its address stand before
what its fields hold. -/
def broughtAuthorization (url : Url) (headers : Headers) : List String :=
  ((userinfo? url).map fun p => basicAuthorization p.1 p.2).toList ++ headers.values "authorization"

theorem prepared_authorization (method : String) (url : Url) (headers : Headers)
    (body : Option (List Char)) :
    (prepared method url headers body).headers.values "authorization" =
      broughtAuthorization url headers := by
  rw [prepared, withUserinfo, broughtAuthorization]
  cases userinfo? url with
  | none => simp [withDefaults]
  | some p =>
      have hfirst : Headers.values ⟨("authorization", basicAuthorization p.1 p.2) :: headers.fields⟩
          "authorization" = basicAuthorization p.1 p.2 :: headers.values "authorization" := by
        simp [Headers.values]
      simp [withDefaults, hfirst]

theorem send_authorization (method : String) (url : Url) (headers : Headers)
    (body : Option (List Char)) (remote : Remote) :
    ∃ wire outcome rest, Makes (send method url headers body) remote wire outcome rest ∧
      ∀ (i : Nat) (x : Exchange), wire[i]? = some x →
        x.call.sentHeaders.values "authorization" =
          if (wire.take (i + 1)).all (samePlace url ·.call.url) then broughtAuthorization url headers
          else [] := by
  obtain ⟨wire, outcome, rest, hmakes, ⟨rfl, -⟩ | hfollows⟩ :=
    send_follows method url headers body remote
  · exact ⟨[], outcome, rest, hmakes, fun i x hx => by cases hx⟩
  · refine ⟨wire, outcome, rest, hmakes, ?_⟩
    intro i x hx
    have hplace (y : Exchange) : samePlace (called url) y.call.url = samePlace url y.call.url :=
      (samePlace_congr (samePlace_called url) _).symm
    rw [Call.sentHeaders_authorization, hfollows.authorization hx, prepared_authorization]
    simp only [prepared, hplace]

end Client

end LoginGateway.Http
