import LoginGateway.Proofs.Http.Redirections
import LoginGateway.Proofs.Text.Utf8RoundTrip

/-!
Calls to a remote that sends nobody on. Such a call takes one reply, if it goes out at all, and what
comes of it is read off that reply (`send_direct`).
-/

namespace LoginGateway.Http

/-! ### Which calls go out -/

theorem isValueChar_ofNat : ∀ n < 0x7F, 0x20 ≤ n → isValueChar (Char.ofNat n) = true := by
  decide

theorem isValueChar_digit (n : Nat) : isValueChar (Text.Base64.digit n) = true := by
  rw [Text.Base64.digit]
  split
  · exact isValueChar_ofNat _ (by omega) (by omega)
  split
  · exact isValueChar_ofNat _ (by omega) (by omega)
  split
  · exact isValueChar_ofNat _ (by omega) (by omega)
  split
  · decide
  · decide

theorem isValueChar_base64 (bytes : Bytes) :
    (Text.Base64.encode bytes).all isValueChar = true := by
  have hpad : isValueChar '=' = true := by decide
  induction bytes using Text.Base64.encode.induct with
  | case1 a b c rest ih =>
      simp only [Text.Base64.encode, List.all_cons, isValueChar_digit, ih, Bool.and_true]
  | case2 a b => simp [Text.Base64.encode, isValueChar_digit, hpad]
  | case3 a => simp [Text.Base64.encode, isValueChar_digit, hpad]
  | case4 => rfl

theorem isHeaderValue_append (s t : String) :
    isHeaderValue (s ++ t) = (isHeaderValue s && isHeaderValue t) := by
  simp [isHeaderValue]

/-- A byte that no header value holds: that of a control character, the tab apart. -/
def IsBarredByte (b : UInt8) : Prop := b.toNat < 0x20 ∧ b.toNat ≠ 0x09 ∨ b.toNat = 0x7F

theorem isValueChar_iff (c : Char) :
    isValueChar c = true ↔ ∀ b ∈ Utf8.encodeChar c, ¬IsBarredByte b := by
  have htab : c = '\t' ↔ c.toNat = 0x09 := by
    rw [← Char.toNat_inj]
    rfl
  by_cases hascii : c.toNat < 0x80
  · have hbyte : (UInt8.ofNat c.toNat).toNat = c.toNat := Utf8.toNat_ofNat_of_lt (by omega)
    simp only [isValueChar, Utf8.encodeChar, if_pos hascii, List.mem_singleton, forall_eq,
      IsBarredByte, hbyte, Bool.or_eq_true, beq_iff_eq, htab, Bool.and_eq_true, decide_eq_true_eq,
      bne_iff_ne]
    omega
  · refine iff_of_true ?_ ?_
    · simp only [isValueChar, Bool.or_eq_true, Bool.and_eq_true, decide_eq_true_eq, bne_iff_ne]
      omega
    · intro b hb
      have hbig := Utf8.le_of_mem_encodeChar (by omega) hb
      rw [IsBarredByte]
      omega

/-- Whether a text can stand in a header is a matter of its bytes. -/
theorem isHeaderValue_iff (s : String) :
    isHeaderValue s = true ↔ ∀ b ∈ Utf8.encode s.toList, ¬IsBarredByte b := by
  simp only [isHeaderValue, List.all_eq_true, isValueChar_iff, Utf8.encode, List.mem_flatMap]
  constructor
  · rintro h b ⟨c, hc, hb⟩
    exact h c hc b hb
  · intro h c hc b hb
    exact h b ⟨c, hc, hb⟩

namespace Client

theorem isHeaderValue_basicAuthorization (name password : List Char) :
    isHeaderValue (basicAuthorization name password) = true := by
  rw [basicAuthorization, isHeaderValue_append]
  simp only [isHeaderValue, String.toList_ofList, isValueChar_base64, Bool.and_true]
  decide

theorem withUserinfo_legal (url : Url) (headers : Headers) :
    (withUserinfo url headers).2.fields.all (isHeaderValue ·.2) =
      headers.fields.all (isHeaderValue ·.2) := by
  rw [withUserinfo]
  split
  · simp [isHeaderValue_basicAuthorization]
  · rfl

/-- The client has a request to send to this address. -/
structure IsSendable (url : Url) : Prop where
  web : isWeb url = true
  target : isTarget (called url) = true

/-! ### What comes of them -/

/-- What comes of a call from a reply that sends it nowhere else. -/
def received (call : Call) : Reply → Except TransportError Received
  | .closed => .error (.unsent call.url)
  | .answer a => .ok ⟨withBodyOf call.method a, call.url⟩

theorem follow_direct {call : Call} {replies : List Reply} (left : Nat)
    (hplain : call.url.scheme ≠ "https".toList)
    (hdirect : ∀ a, (replies.headD .closed).settled = .answer a → destination? call.url a = none) :
    Makes (follow left call) (.replying replies) [⟨call, (replies.headD .closed).settled⟩]
      (received call (replies.headD .closed).settled) (.replying replies.tail) := by
  rw [follow]
  refine (exchange_replying hplain replies).silent_bind ?_
  cases hreply : (replies.headD .closed).settled with
  | closed => exact .pure _ _
  | answer a =>
      simp only [hdirect a hreply]
      exact .pure _ _

section send

variable {method : String} {url : Url} {headers : Headers} {body : Option (List Char)}

/-- A plain call that goes out and is sent nowhere else takes one reply. -/
theorem send_direct {replies : List Reply} (hscheme : url.scheme = "http".toList)
    (htarget : isTarget (called url) = true) (hlegal : headers.fields.all (isHeaderValue ·.2) = true)
    (hdirect : ∀ a, (replies.headD .closed).settled = .answer a →
      destination? (called url) a = none) :
    Makes (send method url headers body) (.replying replies)
      [⟨prepared method url headers body, (replies.headD .closed).settled⟩]
      (received (prepared method url headers body) (replies.headD .closed).settled)
      (.replying replies.tail) := by
  have hweb : isWeb (called url) = true := by simp [isWeb, hscheme]
  rw [send_eq, withUserinfo_legal, hlegal, hweb, htarget]
  refine follow_direct redirectLimit ?_ hdirect
  rw [prepared, called_scheme, hscheme]
  decide

/-- Whatever comes back, the first call over a plain connection is the one that was to be sent. -/
theorem head?_send_sent (hscheme : url.scheme = "http".toList)
    (htarget : isTarget (called url) = true) (hlegal : headers.fields.all (isHeaderValue ·.2) = true)
    (replies : List Reply) :
    (send method url headers body (.replying replies)).sent.head? =
      some (prepared method url headers body) := by
  have hweb : isWeb (called url) = true := by simp [isWeb, hscheme]
  have hplain : (prepared method url headers body).url.scheme ≠ "https".toList := by
    rw [prepared, called_scheme, hscheme]
    decide
  rw [send_eq, withUserinfo_legal, hlegal, hweb, htarget]
  simp only [Bool.and_self, if_true]
  rw [follow, Session.sent_bind, (exchange_replying hplain replies).sent]
  rfl

theorem send_illegal (hlegal : headers.fields.all (isHeaderValue ·.2) = false) (remote : Remote) :
    Makes (send method url headers body) remote [] (.error (.unbuildable none)) remote := by
  rw [send_eq, withUserinfo_legal, hlegal]
  exact .pure _ _

theorem send_sendable (h : IsSendable url) (hlegal : headers.fields.all (isHeaderValue ·.2) = true)
    (remote : Remote) :
    ∃ wire outcome rest, Makes (send method url headers body) remote wire outcome rest ∧
      Follows redirectLimit (prepared method url headers body) wire outcome := by
  have hweb : isWeb (called url) = true := by rw [isWeb, called_scheme, ← isWeb, h.web]
  rw [send_eq, withUserinfo_legal, hlegal, hweb, h.target]
  exact follow_makes redirectLimit _ remote

theorem send_unsendable (h : ¬IsSendable url)
    (hlegal : headers.fields.all (isHeaderValue ·.2) = true) (remote : Remote) :
    Makes (send method url headers body) remote []
      (.error (.unbuildable (some (called url)))) remote := by
  have hnot : (isWeb (called url) && isTarget (called url)) = false := by
    rw [isWeb, called_scheme, ← isWeb, Bool.and_eq_false_iff]
    by_contra hboth
    rw [not_or, Bool.not_eq_false, Bool.not_eq_false] at hboth
    exact h ⟨hboth.1, hboth.2⟩
  rw [send_eq, withUserinfo_legal, hlegal, hnot]
  exact .pure _ _

theorem send_unaddressable (htarget : isTarget (called url) = false)
    (hlegal : headers.fields.all (isHeaderValue ·.2) = true) (remote : Remote) :
    Makes (send method url headers body) remote []
      (.error (.unbuildable (some (called url)))) remote :=
  send_unsendable (fun h => absurd (h.target.symm.trans htarget) (by decide)) hlegal remote

end send

end Client

end LoginGateway.Http
