import LoginGateway.Proofs.GitHub.LoginOutcome
import LoginGateway.Proofs.Json.Enclosures
import LoginGateway.Proofs.Text.Utf8RoundTrip

/-!
Who a profile says the user is. Whatever else an object holds and however it is spelled, the last
member named `id` decides: the literal of an integer of 64 bits is the user's number, and anything
else is nobody's. No two numbers make the same name. Main statement: `enter_identifies`.
-/

namespace LoginGateway.GitHub

open Login
open Json (Literal Piece Tree Readable SpellsElement Unreserved)

namespace Profile

/-! ### Names -/

theorem toString_eq (n : Int) : toString n = String.ofList (Json.renderInt n) := by
  have hrepr : toString n = n.repr := rfl
  rw [hrepr, Int.repr_eq_if, Json.renderInt]
  rcases Int.lt_or_le n 0 with hneg | hnonneg
  · have habs : (-n).toNat = n.natAbs := by omega
    rw [if_neg (by omega), if_pos hneg, habs, Nat.repr_eq_ofList_toDigits,
      ← Text.decimal_eq_toDigits]
    exact (@String.ofList_append ['-'] (Text.decimal n.natAbs)).symm
  · have habs : n.toNat = n.natAbs := by omega
    rw [if_pos hnonneg, if_neg (by omega), habs, Nat.repr_eq_ofList_toDigits,
      ← Text.decimal_eq_toDigits]

theorem urn_eq (n : Int) : urn n = "urn:github:" ++ String.ofList (Json.renderInt n) := by
  have hkind : "urn:" ++ Provider.github.name ++ ":" = "urn:github:" := by decide
  rw [← toString_eq, ← hkind, urn]
  exact String.append_assoc.symm

theorem renderInt_injective : Function.Injective Json.renderInt := by
  have habs {n m : Int} (h : Text.decimal n.natAbs = Text.decimal m.natAbs) :
      n.natAbs = m.natAbs := by
    simpa [Text.numeral?_decimal] using congrArg (Text.numeral? 10) h
  have hsign (n m : Nat) : '-' :: Text.decimal n ≠ Text.decimal m := by
    intro h
    exact absurd (Text.isDigit_of_mem_decimal (h ▸ List.mem_cons_self)) (by decide)
  intro n m h
  rw [Json.renderInt, Json.renderInt] at h
  split at h
  · split at h
    · have := habs (List.cons.inj h).2
      omega
    · exact absurd h (hsign _ _)
  · split at h
    · exact absurd h.symm (hsign _ _)
    · have := habs h
      omega

theorem urn_inj {n m : Int} : urn n = urn m ↔ n = m := by
  rw [urn_eq, urn_eq, String.append_right_inj]
  constructor
  · intro h
    exact renderInt_injective (by simpa using congrArg String.toList h)
  · rintro rfl
    rfl

/-! ### Members -/

/-- The last member named `id` is the literal of this integer of 64 bits. -/
def HasId (members : List (List Piece × Tree)) (n : Int) : Prop :=
  ∃ l, Tree.lastNamed members "id".toList = some (.number l) ∧ l.IsInteger n ∧
    -2 ^ 63 ≤ n ∧ n ≤ 2 ^ 63 - 1

/-- The text of the last member of the name, if that is a string. -/
def lastText? (members : List (List Piece × Tree)) (name : String) : Option String :=
  ((Tree.lastNamed members name.toList).bind Tree.text?).map String.ofList

theorem HasId.eq {members : List (List Piece × Tree)} {n m : Int} (hn : HasId members n)
    (hm : HasId members m) : n = m := by
  obtain ⟨l, hl, hn, -⟩ := hn
  obtain ⟨l', hl', hm, -⟩ := hm
  obtain rfl : l = l' := by simpa using hl.symm.trans hl'
  have habs : n.natAbs = m.natAbs := hn.whole.symm.trans hm.whole
  have hsign : n < 0 ↔ m < 0 := decide_eq_decide.mp (hn.negative.symm.trans hm.negative)
  omega

section values

variable {depth : Nat} {members : List (List Piece × Tree)} {j : Json}
  (h : Tree.value? depth (.object members) = some j)
include h

theorem get?_id (n : Int) : (j.get? "id".toList).bind Json.int64? = some n ↔ HasId members n := by
  have hint64 (k : Json) : k.int64? = some n ↔ k = .integer n ∧ n ≤ 2 ^ 63 - 1 := by
    have hbound : Nat.pow 2 63 = 9223372036854775808 := by decide
    cases k with
    | integer m =>
        rw [Json.int64?, hbound, Option.ite_none_right_eq_some, Option.some.injEq,
          Json.integer.injEq]
        omega
    | _ => simp [Json.int64?]
  rw [Tree.get?_value h, Option.bind_assoc, Option.bind_eq_some_iff]
  simp only [Option.bind_eq_some_iff, hint64]
  constructor
  · rintro ⟨t, ht, _, hvalue, rfl, hupper⟩
    obtain ⟨l, rfl, hl, hlower, -⟩ := (Tree.value?_eq_integer_iff _ t n).mp hvalue
    exact ⟨l, ht, hl, hlower, hupper⟩
  · rintro ⟨l, hl, hn, hlower, hupper⟩
    exact ⟨.number l, hl, _, (Tree.value?_eq_integer_iff _ _ n).mpr ⟨l, rfl, hn, hlower, by omega⟩,
      rfl, hupper⟩

theorem textOr_eq (field fallback : String) :
    textOr j field fallback = (lastText? members field).getD fallback := by
  rw [textOr, Tree.get?_value h, Option.bind_assoc, lastText?]
  simp only [Tree.value?_bind_text?]

theorem entries_properties : (properties j).entries =
    [("avatar", (lastText? members "avatar_url").getD "#"),
      ("login", (lastText? members "login").getD "unknown")] := by
  have hlt : "avatar" < "login" := by decide
  rw [properties, textOr_eq h, textOr_eq h]
  simp [Properties.ofList, Properties.insert, Properties.insertEntry, hlt]

end values

/-- What a login comes to whose profile is an object of these members. -/
structure Identifies (members : List (List Piece × Tree))
    (result : Except Failure (Option Identity)) : Prop where
  succeeds_iff : (∃ identity, result = .ok identity) ↔
    Readable Json.maxDepth (.object members) ∧ ∃ n, HasId members n
  accepted : Readable Json.maxDepth (.object members) → ∀ n, HasId members n →
    ∃ identity, result = .ok (some identity) ∧
      identity.urn = "urn:github:" ++ String.ofList (Json.renderInt n) ∧
      identity.properties.entries =
        [("avatar", (lastText? members "avatar_url").getD "#"),
          ("login", (lastText? members "login").getD "unknown")]
  rejected : Readable Json.maxDepth (.object members) → (∀ n, ¬HasId members n) →
    result = .error (.login .malformedProfile "GitHub user has no numeric id")
  unread : ¬Readable Json.maxDepth (.object members) →
    result = .error (.answer .malformedBody "error decoding response body")

theorem Identifies.exists_hasId {members : List (List Piece × Tree)}
    {result : Except Failure (Option Identity)} {identity : Identity}
    (h : Identifies members result) (hresult : result = .ok (some identity)) :
    ∃ n, HasId members n ∧ identity.urn = urn n := by
  obtain ⟨hread, n, hn⟩ := h.succeeds_iff.mp ⟨_, hresult⟩
  obtain ⟨other, hother, hurn, -⟩ := h.accepted hread n hn
  obtain rfl : identity = other := by simpa using hresult.symm.trans hother
  exact ⟨n, hn, hurn.trans (urn_eq n).symm⟩

end Profile

namespace SignIn

open Profile (HasId Identifies)

open Http (Remote Reply Answer Makes isHeaderValue)
open Http.Client (called isTarget)

/-- The code of the address is exchanged for a token, and the request for the profile is answered with
status 200 and these bytes, which came in to their end. -/
def ShowsProfile (s : SignIn) (callback : Url) (remote : Remote) (body : Bytes) : Prop :=
  ∃ code token r, FirstCode callback code ∧
    (s.requestToken callback code remote).value = .ok token ∧
    (s.fetchProfile token (s.requestToken callback code remote).remote).value = .ok r ∧
    r.status = .ok ∧ r.bytes = .ok body

theorem ShowsProfile.value_eq {s : SignIn} {callback : Url} {remote : Remote} {body : Bytes}
    (h : ShowsProfile s callback remote body) :
    (s.pass.enter callback remote).value =
      (identityOf ((Utf8.decode? body).bind Json.read?)).map some := by
  obtain ⟨code, token, r, hcode, htoken, hprofile, hstatus, hbytes⟩ := h
  have hread : (s.readProfile token (s.requestToken callback code remote).remote).value =
      identityOf ((Utf8.decode? body).bind Json.read?) := by
    rw [readProfile_eq]
    show identityFrom _ = _
    rw [hprofile, identityFrom, if_neg (not_not_intro hstatus), document?, hbytes]
    rfl
  show Except.map some (s.enter callback remote).value = _
  rw [enter_eq ((code?_eq_some_iff callback code).mpr hcode), Http.Session.value_bind, htoken,
    finish, ← hread, Http.Session.value_bind]
  cases (s.readProfile token (s.requestToken callback code remote).remote).value <;> rfl

/-- Against a provider that sends nobody on, the second reply shows the profile if the first one holds
a token. -/
theorem showsProfile_of_direct {s : SignIn} {callback : Url} {code : List Char} {token : AccessToken}
    {first second : Answer} (hexchange : s.exchangeUrl.scheme = "http".toList)
    (hprofile : s.profileUrl.scheme = "http".toList)
    (htarget : isTarget (called s.exchangeUrl) = true)
    (htarget' : isTarget (called s.profileUrl) = true) (hfirst : Direct s first)
    (hsecond : Direct s second) (hcode : FirstCode callback code) (hstatus : first.status = .ok)
    (htoken : TokenDocument.token (String.ofList (Utf8.decodeLossy first.body)) = .ok token)
    (hlegal : isHeaderValue token.secret = true) (hstatus' : second.status = .ok) :
    ShowsProfile s callback (.replying [.answer first, .answer second]) second.body := by
  have hdirect : ∀ a, .answer a ∈ [Reply.answer first, .answer second] → Direct s a := by
    simpa using ⟨hfirst, hsecond⟩
  have hreply : TokenReply s (.answer first) (.ok token) := by
    obtain ⟨result, hresult⟩ := exists_tokenReply s (.answer first)
    have hfrom := hresult.tokenFrom_eq (by simpa using hfirst.whole) callback code
    rw [tokenFrom_received_ok callback code hstatus hfirst.whole, htoken] at hfrom
    exact hfrom ▸ hresult
  have hexchanged : Makes (s.requestToken callback code) _ _ _ _ :=
    requestToken_direct hexchange htarget hdirect hreply
  have hlegal' : (token.authorize (accepting "application/json")).fields.all (isHeaderValue ·.2) =
      true := by
    rw [authorize_legal, hlegal]
  have hfetched : Makes (s.fetchProfile token) (.replying [.answer second]) _ _ _ :=
    Http.Client.send_direct hprofile htarget' hlegal' fun a ha => by
      obtain rfl : second = a := by simpa using hsecond.settled.symm.trans ha
      exact hsecond.endsProfile
  refine ⟨code, token, ⟨second, (s.profileCall token).url⟩, hcode, hexchanged.value, ?_, hstatus', ?_⟩
  · rw [hexchanged.remote]
    refine hfetched.value.trans ?_
    rw [List.headD_cons, hsecond.settled]
    exact received_ok (show "GET" ≠ "HEAD" by decide) hstatus'
  · exact if_pos hsecond.whole

theorem identifies_of_spells {members : List (List Piece × Tree)} {text : List Char}
    (h : SpellsElement (.object members) text) (hplain : Unreserved (.object members)) :
    Identifies members ((identityOf (Json.read? text)).map some) := by
  have hreadable := Tree.value?_isSome_iff Json.maxDepth (.object members)
  rw [Json.read?_of_spells h hplain]
  cases hvalue : Tree.value? Json.maxDepth (.object members) with
  | none =>
      have hnot : ¬Readable Json.maxDepth (.object members) := by simp [← hreadable, hvalue]
      exact {
        succeeds_iff := iff_of_false (by simp [identityOf, Except.map]) fun hboth => hnot hboth.1
        accepted := fun hread => absurd hread hnot
        rejected := fun hread => absurd hread hnot
        unread := fun _ => rfl }
  | some j =>
      have hread : Readable Json.maxDepth (.object members) := by simp [← hreadable, hvalue]
      have hid := Profile.get?_id hvalue
      rw [identityOf, if_pos (Tree.isObject_value hvalue), Profile.identity]
      cases hfound : (j.get? "id".toList).bind Json.int64? with
      | none =>
          have hnone (n : Int) : ¬HasId members n := by
            rw [← hid, hfound]
            exact (Option.some_ne_none n).symm
          exact {
            succeeds_iff := iff_of_false (by simp [Except.map]) fun hboth =>
              hboth.2.elim hnone
            accepted := fun _ n hn => absurd hn (hnone n)
            rejected := fun _ _ => rfl
            unread := fun hnot => absurd hread hnot }
      | some n =>
          have hn : HasId members n := (hid n).mp hfound
          exact {
            succeeds_iff := iff_of_true ⟨_, rfl⟩ ⟨hread, n, hn⟩
            accepted := fun _ m hm => ⟨⟨Profile.urn n, Profile.properties j⟩, rfl, by
              rw [← hn.eq hm, Profile.urn_eq], Profile.entries_properties hvalue⟩
            rejected := fun _ hnone => absurd hn (hnone n)
            unread := fun hnot => absurd hread hnot }

/-- The profile is spelled by a text that is an object of these members. -/
def ShowsMembers (s : SignIn) (callback : Url) (remote : Remote)
    (members : List (List Piece × Tree)) : Prop :=
  ∃ text, SpellsElement (.object members) text ∧
    ShowsProfile s callback remote (Utf8.encode text)

theorem ShowsMembers.identifies {s : SignIn} {callback : Url} {remote : Remote}
    {members : List (List Piece × Tree)} (h : ShowsMembers s callback remote members)
    (hplain : Unreserved (.object members)) :
    Identifies members (s.pass.enter callback remote).value := by
  obtain ⟨text, hspells, hshows⟩ := h
  rw [hshows.value_eq, Utf8.decode?_encode]
  exact identifies_of_spells hspells hplain

/-! ### Profiles at a fixed provider -/

/-- A provider that gives a token and then shows this profile. -/
def showing (profile : List Char) : Remote := .replying [
  .answer { status := .ok, body := Utf8.encode "<OAuth><access_token>T</access_token></OAuth>".toList },
  .answer { status := .ok, body := Utf8.encode profile }]

theorem direct_testSignIn (body : Bytes) : Direct testSignIn { status := .ok, body := body } where
  final := show 200 ≤ Http.Status.ok.code by decide
  whole := rfl
  endsExchange := rfl
  endsProfile := rfl

theorem showsProfile_showing (text : List Char) :
    ShowsProfile testSignIn (returnedWith "x") (showing text) (Utf8.encode text) :=
  showsProfile_of_direct rfl rfl (by decide +kernel) (by decide +kernel)
    (direct_testSignIn _) (direct_testSignIn _) (firstCode_of_query rfl) rfl
    (show TokenDocument.token _ = .ok ⟨"T"⟩ by decide +kernel) (by decide +kernel) rfl

theorem showsMembers_showing {members : List (List Piece × Tree)} {text : List Char}
    (htext : (Tree.object members).write = text) :
    ShowsMembers testSignIn (returnedWith "x") (showing text) members :=
  ⟨text, htext ▸ (Tree.spells_write (.object members)).element, showsProfile_showing text⟩

/-- A text under the name `id`, then a number under the same name spelled with an escape, and a login
that is one surrogate pair. -/
def escapedProfile : List (List Piece × Tree) := [
  (Json.letters "id".toList (by decide), .string (Json.letters "7".toList (by decide))),
  (.unit '0' '0' '6' '9' 0x69 (by decide) :: Json.letters "d".toList (by decide),
    .number (.ofInt (-42))),
  (Json.letters "login".toList (by decide), .string [.unit 'd' '8' '3' 'd' 0xD83D (by decide),
    .unit 'd' 'e' '0' '0' 0xDE00 (by decide)])]

theorem unreserved_escapedProfile : Unreserved (.object escapedProfile) :=
  .object (by decide) (List.forall_mem_cons.mpr ⟨.string _, List.forall_mem_cons.mpr ⟨.number _,
    List.forall_mem_cons.mpr ⟨.string _, nofun⟩⟩⟩)

def plainProfile : List (List Piece × Tree) :=
  [(Json.letters "id".toList (by decide), .number (.ofInt (-42)))]

theorem unreserved_plainProfile : Unreserved (.object plainProfile) :=
  .object (by decide) (List.forall_mem_cons.mpr ⟨.number _, nofun⟩)

/-! ### Users -/

/-- A login succeeds exactly if the profile can be read and has a number, and then it is under that
number. Two users get the same name exactly if their profiles have the same number. -/
theorem enter_identifies {s s' : SignIn} {callback callback' : Url} {remote remote' : Remote}
    {members members' : List (List Piece × Tree)} (h : ShowsMembers s callback remote members)
    (h' : ShowsMembers s' callback' remote' members') (hplain : Unreserved (.object members))
    (hplain' : Unreserved (.object members')) :
    Identifies members (s.pass.enter callback remote).value ∧
      ∀ identity identity', (s.pass.enter callback remote).value = .ok (some identity) →
        (s'.pass.enter callback' remote').value = .ok (some identity') →
        (identity.urn = identity'.urn ↔ ∃ n, HasId members n ∧ HasId members' n) := by
  have hidentifies := h.identifies hplain
  refine ⟨hidentifies, fun identity identity' hvalue hvalue' => ?_⟩
  obtain ⟨n, hn, hurn⟩ := hidentifies.exists_hasId hvalue
  obtain ⟨m, hm, hurn'⟩ := (h'.identifies hplain').exists_hasId hvalue'
  rw [hurn, hurn', Profile.urn_inj]
  constructor
  · rintro rfl
    exact ⟨n, hn, hm⟩
  · rintro ⟨k, hk, hk'⟩
    rw [hn.eq hk, hm.eq hk']

theorem enter_identifies_escaped :
    let escaped := "\x7b\"id\":\"7\",\"\\u0069d\":-42,\"login\":\"\\ud83d\\ude00\"\x7d".toList
    let plain := "\x7b\"id\":-42\x7d".toList
    ShowsMembers testSignIn (returnedWith "x") (showing escaped) escapedProfile ∧
      ShowsMembers testSignIn (returnedWith "x") (showing plain) plainProfile ∧
      HasId escapedProfile (-42) ∧
      Identifies escapedProfile (testSignIn.pass.enter (returnedWith "x") (showing escaped)).value ∧
      ∀ identity identity',
        (testSignIn.pass.enter (returnedWith "x") (showing escaped)).value = .ok (some identity) →
        (testSignIn.pass.enter (returnedWith "x") (showing plain)).value = .ok (some identity') →
        (identity.urn = identity'.urn ↔ ∃ n, HasId escapedProfile n ∧ HasId plainProfile n) := by
  intro escaped plain
  have hescaped : ShowsMembers testSignIn (returnedWith "x") (showing escaped) escapedProfile :=
    showsMembers_showing (by decide +kernel)
  have hplain : ShowsMembers testSignIn (returnedWith "x") (showing plain) plainProfile :=
    showsMembers_showing (by decide +kernel)
  exact ⟨hescaped, hplain, ⟨.ofInt (-42), rfl, Literal.isInteger_ofInt _, by decide, by decide⟩,
    enter_identifies hescaped hplain unreserved_escapedProfile unreserved_plainProfile⟩

/-! ### Where the rule ends -/

/-- The profile of user 1, with one more member. -/
def profileWith (t : Tree) : List (List Piece × Tree) := [
  (Json.letters "id".toList (by decide), .number (.ofInt 1)),
  (Json.letters "more".toList (by decide), t)]

theorem hasId_profileWith (t : Tree) : HasId (profileWith t) 1 :=
  ⟨.ofInt 1, rfl, Literal.isInteger_ofInt 1, by decide, by decide⟩

theorem unreserved_profileWith {t : Tree} (h : Unreserved t) :
    Unreserved (.object (profileWith t)) :=
  .object (by rintro _ ⟨⟩; decide)
    (List.forall_mem_cons.mpr ⟨.number _, List.forall_mem_cons.mpr ⟨h, nofun⟩⟩)

/-- The profile has a number, and nobody gets in with it. -/
structure ShutsOut (text : List Char) (members : List (List Piece × Tree)) : Prop where
  shows : ShowsMembers testSignIn (returnedWith "x") (showing text) members
  hasId : HasId members 1
  value : (testSignIn.pass.enter (returnedWith "x") (showing text)).value =
    .error (.answer .malformedBody "error decoding response body")

theorem shutsOut_of_unreadable {t : Tree} (h : ¬Readable 126 t) (hplain : Unreserved t)
    {text : List Char} (htext : (Tree.object (profileWith t)).write = text) :
    ShutsOut text (profileWith t) := by
  have hshows := showsMembers_showing htext
  have hidentifies := hshows.identifies (unreserved_profileWith hplain)
  refine ⟨hshows, hasId_profileWith t, hidentifies.unread fun hread => h ?_⟩
  exact (Tree.readable_of_mem hread (List.mem_cons_of_mem _ List.mem_cons_self)).2

/-- The profile has no number, and somebody gets in with it. -/
structure LetsIn (text : List Char) (members : List (List Piece × Tree)) : Prop where
  shows : ShowsMembers testSignIn (returnedWith "x") (showing text) members
  noId : ∀ n, ¬HasId members n
  value : ∃ identity, (testSignIn.pass.enter (returnedWith "x") (showing text)).value =
    .ok (some identity) ∧ identity.urn = "urn:github:42"

def hugeLiteral : Literal where
  negative := false
  whole := ⟨['1'], by decide, by simp⟩
  fraction := none
  exponent := some ⟨'e', .unsigned, ⟨['9', '9', '9'], by decide, by simp⟩, .inl rfl⟩
  canonical := by decide

/-- The greatest double is nearest to this number, but the product that stands for it overflows. -/
def edgeLiteral : Literal where
  negative := false
  whole := ⟨['1'], by decide, by simp⟩
  fraction := some ⟨"7976931348623158".toList, by decide, by simp⟩
  exponent := some ⟨'e', .unsigned, ⟨['3', '0', '8'], by decide, by simp⟩, .inl rfl⟩
  canonical := by decide

def nest : Nat → Tree
  | 0 => .null
  | depth + 1 => .array [nest depth]

theorem le_of_readable_nest {n depth : Nat} (h : Readable depth (nest n)) : n ≤ depth := by
  induction n generalizing depth with
  | zero => exact Nat.zero_le depth
  | succ n ih =>
      cases h with
      | array hitems => exact Nat.succ_le_succ (ih (hitems _ List.mem_cons_self))

theorem unreserved_nest (n : Nat) : Unreserved (nest n) := by
  induction n with
  | zero => exact .null
  | succ n ih => exact .array (List.forall_mem_cons.mpr ⟨ih, nofun⟩)

/-- An object of one member, whose name is the reserved one. -/
def enclosure (t : Tree) : Tree := .object [(Json.letters Json.reservedName (by decide), t)]

/-- A number that overflows, half of a surrogate pair, too deep a nesting or a spoiled enclosure
anywhere in the profile keeps its user out, and an enclosed number lets a user in. -/
theorem enter_exceptions :
    ShutsOut "\x7b\"id\":1,\"more\":1e999\x7d".toList (profileWith (.number hugeLiteral)) ∧
      ShutsOut "\x7b\"id\":1,\"more\":1.7976931348623158e308\x7d".toList
        (profileWith (.number edgeLiteral)) ∧
      ShutsOut "\x7b\"id\":1,\"more\":\"\\ud800\"\x7d".toList
        (profileWith (.string [.unit 'd' '8' '0' '0' 0xD800 (by decide)])) ∧
      ShutsOut (Tree.object (profileWith (nest 127))).write (profileWith (nest 127)) ∧
      ShutsOut "\x7b\"id\":1,\"more\":\x7b\"$serde_json::private::RawValue\":null\x7d\x7d".toList
        (profileWith (enclosure .null)) ∧
      LetsIn "\x7b\"id\":\x7b\"$serde_json::private::RawValue\":\"42\"\x7d\x7d".toList
        [(Json.letters "id".toList (by decide),
          enclosure (.string (Json.letters "42".toList (by decide))))] := by
  have hnumber (l : Literal) (hlarge : l.numeral.isTooLarge = true) : ¬Readable 126 (.number l) := by
    rintro ⟨⟩
    next h => exact absurd hlarge (by simp [h])
  have hhalf : ¬Readable 126 (.string [.unit 'd' '8' '0' '0' 0xD800 (by decide)]) := by
    rintro ⟨⟩
    next h => exact absurd h (by decide)
  have hdeep : ¬Readable 126 (nest 127) := fun h => absurd (le_of_readable_nest h) (by decide)
  refine ⟨shutsOut_of_unreadable (hnumber _ (by decide +kernel)) (.number _) (by decide +kernel),
    shutsOut_of_unreadable (hnumber _ (by decide +kernel)) (.number _) (by decide +kernel),
    shutsOut_of_unreadable hhalf (.string _) (by decide +kernel),
    shutsOut_of_unreadable hdeep (unreserved_nest 127) rfl, ?_, ?_⟩
  · refine ⟨showsMembers_showing (by decide +kernel), hasId_profileWith _, ?_⟩
    rw [(showsProfile_showing _).value_eq]
    decide +kernel
  · refine ⟨showsMembers_showing (by decide +kernel), ?_, ?_⟩
    · rintro n ⟨l, hl, -⟩
      cases hl
    · rw [(showsProfile_showing _).value_eq]
      refine ⟨⟨"urn:github:42", .ofList [("login", "unknown"), ("avatar", "#")]⟩, ?_, rfl⟩
      decide +kernel

end SignIn

end LoginGateway.GitHub
