import LoginGateway.Proofs.Text.Numerals
import LoginGateway.Proofs.Text.Splitting
import LoginGateway.Proofs.Url.DomainNames
import LoginGateway.Url.Address

/-!
Numeric hosts are found again in their text: a dotted address in its four bytes, a colon address in
its groups, with the stretch of zeros that was left out put back. Main statements:
`Ipv4.parse?_render`, `Ipv6.parse?_render`.
-/

namespace LoginGateway

/-! ### Dotted addresses -/

namespace Ipv4

theorem part?_decimal (n : Nat) : part? (Text.decimal n) = some n := by
  rcases Nat.eq_zero_or_pos n with rfl | hpos
  · rw [Text.decimal, Text.digits_of_lt _ (by decide)]
    rfl
  · have hfirst : (Text.decimal n).head? ≠ some '0' :=
      Text.head?_digits_ne _ (by decide) (Nat.ne_of_gt hpos)
    have hvalue := Text.numeral?_decimal n
    obtain ⟨c, rest, hdigits⟩ : ∃ c rest, Text.decimal n = c :: rest :=
      List.exists_cons_of_ne_nil (Text.digits_ne_nil _ n)
    rw [hdigits] at hfirst hvalue ⊢
    rw [← hvalue, part?.eq_def]
    split <;> simp_all

theorem dot_not_mem_decimal (n : Nat) : '.' ∉ Text.decimal n := fun hdot =>
  absurd (Text.isDigit_of_mem_decimal hdot) (by decide)

theorem splitOn_render (a : Ipv4) : Text.splitOn '.' a.render = a.bytes.map Text.decimal := by
  refine Text.splitOn_joinWith (by simp [bytes]) fun piece hpiece => ?_
  obtain ⟨n, -, rfl⟩ := List.mem_map.mp hpiece
  exact dot_not_mem_decimal n

theorem getLast?_bytes (a : Ipv4) :
    (a.bytes.map Text.decimal).getLast? = some (Text.decimal (a.value.toNat % 256)) := by
  simp [bytes]

theorem parts_render (a : Ipv4) : parts a.render = a.bytes.map Text.decimal := by
  rw [parts, splitOn_render, getLast?_bytes]
  simp only [Option.some.injEq]
  rw [if_neg]
  exact Text.digits_ne_nil _ _

theorem isNumeric_render (a : Ipv4) : isNumeric a.render = true := by
  have hdigits : (Text.decimal (a.value.toNat % 256)).all Char.isDigit = true :=
    List.all_eq_true.mpr fun c hc => Text.isDigit_of_mem_decimal hc
  have hne : (Text.decimal (a.value.toNat % 256)).isEmpty = false :=
    List.isEmpty_eq_false_iff.mpr (Text.digits_ne_nil _ _)
  rw [isNumeric, parts_render, getLast?_bytes]
  simp only [hdigits, hne]
  rfl

theorem parse?_render (a : Ipv4) : parse? a.render = some a := by
  have hsize : a.value.toNat < 4294967296 := a.value.toNat_lt_size
  have hnumbers : (a.bytes.map Text.decimal).mapM part? = some a.bytes := by
    rw [List.mapM_map]
    have hid : a.bytes.mapM (part? ∘ Text.decimal) = some (a.bytes.map id) :=
      Domain.mapM_eq_some fun n _ => part?_decimal n
    rwa [List.map_id] at hid
  have hvalue : ((a.value.toNat / 16777216 * 256 + a.value.toNat / 65536 % 256) * 256 +
      a.value.toNat / 256 % 256) * 256 + a.value.toNat % 256 = a.value.toNat := by omega
  rw [parse?, parts_render]
  simp only [hnumbers, List.length_map, Option.bind_eq_bind, Option.bind_some]
  simp only [bytes, List.length_cons, List.length_nil, List.getLast?_cons_cons,
    List.getLast?_singleton, Option.bind_some, List.dropLast_cons_cons, List.dropLast_singleton,
    List.any_cons, List.any_nil, List.foldl_cons, List.foldl_nil]
  rw [if_neg (by omega), if_neg (by simp; omega), if_neg (by simp; omega)]
  simp only [Nat.zero_add, Nat.reduceAdd, Nat.reduceSub, Nat.pow_eq, Nat.reducePow, Nat.zero_mul]
  rw [hvalue, UInt32.ofNat_toNat]

theorem mem_render {a : Ipv4} {c : Char} (hc : c ∈ a.render) : c = '.' ∨ c.isDigit = true := by
  rcases Text.mem_joinWith hc with hdot | ⟨piece, hpiece, hc⟩
  · exact .inl (List.mem_singleton.mp hdot)
  · obtain ⟨n, -, rfl⟩ := List.mem_map.mp hpiece
    exact .inr (Text.isDigit_of_mem_decimal hc)

/-- An address is a domain name in its ASCII spelling. -/
theorem toAscii?_render (a : Ipv4) : Domain.toAscii? a.render = some a.render := by
  have hchar : ∀ c ∈ a.render, Domain.IsSettled c ∧ Domain.isForbidden c = false := by
    intro c hc
    rcases mem_render hc with rfl | hdigit
    · exact ⟨Domain.isSettled_iff.mpr (by decide), by decide⟩
    · have hrange : 0x30 ≤ c.toNat ∧ c.toNat ≤ 0x39 := by
        simpa [Char.isDigit, UInt32.le_iff_toNat_le] using hdigit
      exact ⟨Domain.isSettled_iff.mpr (by omega),
        Domain.not_isForbidden_of_isAlphanum (Text.isAlphanum_iff.mpr (by omega))⟩
  have hencoded : (a.bytes.map Text.decimal).any Domain.isEncoded = false := by
    rw [List.any_eq_false]
    intro piece hpiece hencoded
    obtain ⟨n, -, rfl⟩ := List.mem_map.mp hpiece
    obtain ⟨rest, hrest⟩ := Domain.isEncoded_iff.mp hencoded
    have hmem : 'x' ∈ Text.decimal n := by
      rw [hrest]
      exact List.mem_cons_self
    exact absurd (Text.isDigit_of_mem_decimal hmem) (by decide)
  rw [← splitOn_render] at hencoded
  exact Domain.toAscii?_of_plain (fun c hc => (hchar c hc).1) (fun c hc => (hchar c hc).2) hencoded

end Ipv4

/-! ### Colon addresses -/

namespace Ipv6

theorem group?_hexadecimal (g : UInt16) : group? (Text.hexadecimal g.toNat) = some g := by
  have hsize : g.toNat < 16 ^ 4 := g.toNat_lt_size
  have hlength : (Text.hexadecimal g.toNat).length ≤ 4 :=
    Text.length_digits_le _ (by decide) hsize
  have hne : (Text.hexadecimal g.toNat).isEmpty = false :=
    List.isEmpty_eq_false_iff.mpr (Text.digits_ne_nil _ _)
  rw [group?, if_neg (by simp [hne]; omega), Text.numeral?_hexadecimal, Option.map_some,
    UInt16.ofNat_toNat]

theorem colon_not_mem_hexadecimal (n : Nat) : ':' ∉ Text.hexadecimal n := fun hcolon =>
  absurd (Text.isAlphanum_of_mem_digits _ (by decide) n hcolon) (by decide)

theorem renderGroups_cons (g : UInt16) {gs : List UInt16} (hne : gs ≠ []) :
    renderGroups (g :: gs) = Text.hexadecimal g.toNat ++ ':' :: renderGroups gs := by
  rw [renderGroups, List.map_cons, Text.joinWith_cons (mt List.map_eq_nil_iff.mp hne)]
  rfl

/-- The text of groups begins with a digit. -/
theorem renderGroups_eq_cons {gs : List UInt16} (hne : gs ≠ []) :
    ∃ c rest, c ≠ ':' ∧ renderGroups gs = c :: rest := by
  obtain ⟨g, gs, rfl⟩ := List.exists_cons_of_ne_nil hne
  obtain ⟨c, rest, hdigits⟩ : ∃ c rest, Text.hexadecimal g.toNat = c :: rest :=
    List.exists_cons_of_ne_nil (Text.digits_ne_nil _ _)
  have hc : c ≠ ':' := fun heq =>
    colon_not_mem_hexadecimal g.toNat (by rw [hdigits, heq]; exact List.mem_cons_self)
  cases gs with
  | nil => exact ⟨c, rest, hc, hdigits⟩
  | cons g' gs =>
      rw [renderGroups_cons g (List.cons_ne_nil g' gs), hdigits]
      exact ⟨c, _, hc, rfl⟩

theorem groups?_renderGroups (gs : List UInt16) : groups? (renderGroups gs) = some gs := by
  rcases eq_or_ne gs [] with rfl | hne
  · rfl
  · have hsplit : Text.splitOn ':' (renderGroups gs) =
        gs.map fun g => Text.hexadecimal g.toNat := by
      refine Text.splitOn_joinWith (mt List.map_eq_nil_iff.mp hne) fun piece hpiece => ?_
      obtain ⟨g, -, rfl⟩ := List.mem_map.mp hpiece
      exact colon_not_mem_hexadecimal _
    have hid : gs.mapM (group? ∘ fun g => Text.hexadecimal g.toNat) = some (gs.map id) :=
      Domain.mapM_eq_some fun g _ => group?_hexadecimal g
    obtain ⟨c, rest, -, hcons⟩ := renderGroups_eq_cons hne
    rw [groups?, if_neg (by simp [hcons]), hsplit, List.mapM_map, hid, List.map_id]

/-! ### The elision -/

theorem cutElision?_cons {c : Char} {s : List Char} (h : c = ':' → s.head? ≠ some ':') :
    cutElision? (c :: s) = (cutElision? s).map fun p => (c :: p.1, p.2) := by
  rw [cutElision?.eq_def]
  split
  · next heq =>
      cases heq
      exact absurd rfl (h rfl)
  · next heq =>
      cases heq
      rfl
  · next heq => cases heq

theorem cutElision?_append {piece : List Char} (h : ':' ∉ piece) (s : List Char) :
    cutElision? (piece ++ s) = (cutElision? s).map fun p => (piece ++ p.1, p.2) := by
  induction piece with
  | nil => simp
  | cons c piece ih =>
      have hc : c ≠ ':' := fun heq => h (heq ▸ List.mem_cons_self)
      rw [List.cons_append, cutElision?_cons fun heq => absurd heq hc,
        ih fun hmem => h (List.mem_cons_of_mem c hmem), Option.map_map]
      rfl

/-- Between groups there are no two colons in a row. -/
theorem cutElision?_renderGroups_append (gs : List UInt16) (s : List Char) :
    cutElision? (renderGroups gs ++ s) =
      (cutElision? s).map fun p => (renderGroups gs ++ p.1, p.2) := by
  induction gs with
  | nil => simp [renderGroups, Text.joinWith]
  | cons g gs ih =>
      rcases eq_or_ne gs [] with rfl | hne
      · exact cutElision?_append (colon_not_mem_hexadecimal _) s
      · obtain ⟨c, rest, hc, hcons⟩ := renderGroups_eq_cons hne
        have hnext : (renderGroups gs ++ s).head? ≠ some ':' := by
          rw [hcons, List.cons_append, List.head?_cons, ne_eq, Option.some.injEq]
          exact hc
        rw [renderGroups_cons g hne, List.append_assoc, List.cons_append,
          cutElision?_append (colon_not_mem_hexadecimal _), cutElision?_cons fun _ => hnext, ih,
          Option.map_map, Option.map_map]
        congr 1
        funext p
        simp

/-- The longest stretch is a stretch of zeros. -/
theorem exists_longestZeros (gs : List UInt16) : ∃ before after,
    gs = before ++ List.replicate (longestZeros gs).2 0 ++ after ∧
      before.length = (longestZeros gs).1 := by
  induction gs with
  | nil => exact ⟨[], [], rfl, rfl⟩
  | cons g gs ih =>
      rw [longestZeros]
      split
      -- No later stretch is longer than the one at the front.
      · have hzeros : (g :: gs).takeWhile (· == 0) =
            List.replicate (leadingZeros (g :: gs)) 0 := by
          refine List.eq_replicate_iff.mpr ⟨rfl, fun h hh => ?_⟩
          have hzero := List.mem_takeWhile_imp hh
          exact beq_iff_eq.mp hzero
        refine ⟨[], (g :: gs).dropWhile (· == 0), ?_, rfl⟩
        rw [List.nil_append, ← hzeros, List.takeWhile_append_dropWhile]
      · obtain ⟨before, after, hgs, hlength⟩ := ih
        refine ⟨g :: before, after, ?_, congrArg (· + 1) hlength⟩
        rw [List.cons_append, List.cons_append, ← hgs]

theorem mem_renderGroups {gs : List UInt16} {c : Char} (hc : c ∈ renderGroups gs) :
    c = ':' ∨ c.isAlphanum = true := by
  rcases Text.mem_joinWith hc with hcolon | ⟨piece, hpiece, hc⟩
  · exact .inl (List.mem_singleton.mp hcolon)
  · obtain ⟨g, -, rfl⟩ := List.mem_map.mp hpiece
    exact .inr (Text.isAlphanum_of_mem_digits _ (by decide) _ hc)

theorem mem_render {a : Ipv6} {c : Char} (hc : c ∈ a.render) :
    c = ':' ∨ c.isAlphanum = true := by
  rw [render] at hc
  simp only at hc
  split at hc
  · exact mem_renderGroups hc
  · rcases List.mem_append.mp hc with hc | hc
    · rcases List.mem_append.mp hc with hc | hc
      · exact mem_renderGroups hc
      · have hall : "::".toList.all (· == ':') = true := by decide
        exact .inl (beq_iff_eq.mp (List.all_eq_true.mp hall c hc))
    · exact mem_renderGroups hc

theorem ofGroups?_groups (a : Ipv6) : ofGroups? a.groups = some a := by
  rw [ofGroups?, dif_pos a.eight]

theorem parse?_render (a : Ipv6) : parse? a.render = some a := by
  obtain ⟨before, after, hgroups, hlength⟩ := exists_longestZeros a.groups
  have height := a.eight
  rw [render]
  simp only
  split
  -- Nothing was left out.
  · have hnone : cutElision? (renderGroups a.groups) = none := by
      rw [← List.append_nil (renderGroups a.groups), cutElision?_renderGroups_append]
      rfl
    rw [parse?, hnone]
    simp only [groupsOrQuad?, groups?_renderGroups]
    exact ofGroups?_groups a
  · next hlong =>
      generalize (longestZeros a.groups).1 = start at *
      generalize (longestZeros a.groups).2 = length at *
      have htake : a.groups.take start = before := by
        rw [hgroups, ← hlength, List.append_assoc, List.take_left]
      have hdrop : a.groups.drop (start + length) = after := by
        rw [hgroups]
        exact List.drop_left' (by rw [List.length_append, List.length_replicate, hlength])
      have hsum := congrArg List.length hgroups
      rw [height, List.length_append, List.length_append, List.length_replicate] at hsum
      have hcut : cutElision? (renderGroups before ++ ("::".toList ++ renderGroups after)) =
          some (renderGroups before, renderGroups after) := by
        rw [cutElision?_renderGroups_append]
        simp [cutElision?]
      -- The reader fills in as many zeros as eight groups need: those that were left out.
      have hfill : 8 - before.length - after.length = length := by omega
      rw [htake, hdrop, parse?, List.append_assoc, hcut]
      simp only [groupsOrQuad?, groups?_renderGroups, Option.bind_eq_bind, Option.bind_some]
      rw [if_neg (by omega), hfill, ← hgroups, ofGroups?_groups]

end Ipv6

end LoginGateway
