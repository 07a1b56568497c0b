import LoginGateway.Proofs.Url.FormPairs
import LoginGateway.Proofs.Url.Idna.Composition
import LoginGateway.Proofs.Url.Punycode
import LoginGateway.Url.Domain

/-!
Domain names in their ASCII spelling. It holds none of the characters that no domain name contains,
and it is its own ASCII spelling: mapping and composition leave it alone, a plain label is kept, and
an encoded label spells the label that it was made from. Main statements:
`not_isForbidden_of_mem_toAscii?`, `toAscii?_of_toAscii?`.
-/

namespace LoginGateway

/-! ### Valid characters -/

namespace Idna

open CodeTable (readChars)

set_option maxRecDepth 40000 in
theorem exists_readChars_valid : ∃ l₁ l₂ l₃ l₄,
    valid = readChars l₁ ++ readChars l₂ ++ readChars l₃ ++ readChars l₄ ∧
      ((readChars l₁ ++ readChars l₂ ++ readChars l₃ ++ readChars l₄).all fun s =>
        decide (s.last < 0x41) || decide (0x5B ≤ s.first)) = true ∧
      ((readChars l₁).any fun s => s.first == 0 && s.last == 0x40) = true ∧
      ((readChars l₁).any fun s => s.first == 0x5B && s.last == 0x7F) = true := by
  obtain ⟨l₁, l₂, l₃, l₄, h₁, h₂, h₃, h₄, hsound⟩ : ∃ l₁ l₂ l₃ l₄,
      europeanValid = CodeTable.read (String.ofList l₁) ∧
      asianValid = CodeTable.read (String.ofList l₂) ∧
      symbolValid = CodeTable.read (String.ofList l₃) ∧
      supplementaryValid = CodeTable.read (String.ofList l₄) ∧
      ((readChars l₁ ++ readChars l₂ ++ readChars l₃ ++ readChars l₄).all fun s =>
        decide (s.last < 0x41) || decide (0x5B ≤ s.first)) = true ∧
      ((readChars l₁).any fun s => s.first == 0 && s.last == 0x40) = true ∧
      ((readChars l₁).any fun s => s.first == 0x5B && s.last == 0x7F) = true :=
    -- The texts are taken apart into characters once, and the check runs over these.
    ⟨_, _, _, _, rfl, rfl, rfl, rfl, by decide +kernel⟩
  refine ⟨l₁, l₂, l₃, l₄, ?_, hsound⟩
  simp only [valid, h₁, h₂, h₃, h₄, CodeTable.read_ofList]

/-- Of the plain characters all but the capitals are valid. -/
theorem covers_valid_iff {c : Char} (h : c.toNat < 0x80) :
    valid.covers c = true ↔ ¬(0x41 ≤ c.toNat ∧ c.toNat ≤ 0x5A) := by
  obtain ⟨l₁, l₂, l₃, l₄, hvalid, hcapitals, hfront, hback⟩ := exists_readChars_valid
  rw [CodeTable.covers, List.any_eq_true]
  constructor
  · rintro ⟨s, hs, hcovers⟩
    rw [hvalid] at hs
    have hcapital := List.all_eq_true.mp hcapitals s hs
    simp only [Bool.or_eq_true, Bool.and_eq_true, decide_eq_true_eq] at hcapital hcovers
    omega
  · intro hsmall
    have hmem (s : Stretch) (hs : s ∈ readChars l₁) : s ∈ valid := by
      rw [hvalid]
      simp [hs]
    simp only [List.any_eq_true, Bool.and_eq_true, beq_iff_eq] at hfront hback
    obtain ⟨s, hs, hfirst, hlast⟩ := hfront
    obtain ⟨t, ht, hfirst', hlast'⟩ := hback
    by_cases hlow : c.toNat < 0x41
    · exact ⟨s, hmem s hs, by simp only [Bool.and_eq_true, decide_eq_true_eq]; omega⟩
    · exact ⟨t, hmem t ht, by simp only [Bool.and_eq_true, decide_eq_true_eq]; omega⟩

theorem replacement?_of_covers {c : Char} (h : valid.covers c = true) :
    replacement? c = some [c] := by
  rw [replacement?, if_pos h]

theorem covers_of_isAllowed {label : List Char} (h : isAllowed label = true) {c : Char}
    (hc : c ∈ label) : valid.covers c = true := by
  simp only [isAllowed, Bool.and_eq_true] at h
  exact List.all_eq_true.mp h.1.1 c hc

end Idna

namespace Domain

/-! ### Answers for all members of a list -/

theorem ne_nil_of_mapM {α β : Type} {f : α → Option β} {xs : List α} {ys : List β}
    (h : xs.mapM f = some ys) (hne : xs ≠ []) : ys ≠ [] := by
  obtain ⟨x, xs, rfl⟩ := List.exists_cons_of_ne_nil hne
  rw [List.mapM_cons] at h
  obtain ⟨first, -, h⟩ := Option.bind_eq_some_iff.mp h
  obtain ⟨rest, -, h⟩ := Option.bind_eq_some_iff.mp h
  exact Option.some.inj h ▸ List.cons_ne_nil first rest

theorem exists_of_mem_mapM {α β : Type} {f : α → Option β} {xs : List α} {ys : List β}
    (h : xs.mapM f = some ys) {y : β} (hy : y ∈ ys) : ∃ x ∈ xs, f x = some y := by
  induction xs generalizing ys with
  | nil =>
      cases h
      cases hy
  | cons x xs ih =>
      rw [List.mapM_cons] at h
      obtain ⟨first, hfirst, h⟩ := Option.bind_eq_some_iff.mp h
      obtain ⟨rest, hrest, h⟩ := Option.bind_eq_some_iff.mp h
      cases h
      rcases List.mem_cons.mp hy with rfl | hy
      · exact ⟨x, List.mem_cons_self, hfirst⟩
      · obtain ⟨z, hz, hfz⟩ := ih hrest hy
        exact ⟨z, List.mem_cons_of_mem x hz, hfz⟩

theorem mapM_eq_some {α β : Type} {f : α → Option β} {g : α → β} {xs : List α}
    (h : ∀ x ∈ xs, f x = some (g x)) : xs.mapM f = some (xs.map g) := by
  induction xs with
  | nil => rfl
  | cons x xs ih =>
      rw [List.mapM_cons, h x List.mem_cons_self, ih fun y hy => h y (List.mem_cons_of_mem x hy)]
      rfl

/-! ### Forbidden characters -/

theorem not_isForbidden_of_isAlphanum {c : Char} (h : c.isAlphanum = true) :
    isForbidden c = false := by
  have hrange := Text.isAlphanum_iff.mp h
  by_contra hforbidden
  simp only [isForbidden, Bool.or_eq_true, decide_eq_true_eq, beq_iff_eq, List.contains_iff_mem,
    Bool.not_eq_false] at hforbidden
  rcases hforbidden with (hlow | hdelete) | hmem
  · omega
  · omega
  · have hnone : "%#/:<>?@[\\]^|".toList.all (!·.isAlphanum) = true := by decide
    have hnot := List.all_eq_true.mp hnone c hmem
    rw [h] at hnot
    cases hnot

theorem any_isForbidden_of_forall {s : List Char} (h : ∀ c ∈ s, isForbidden c = false) :
    s.any isForbidden = false :=
  List.any_eq_false.mpr fun c hc => by rw [h c hc]; exact Bool.false_ne_true

theorem toNat_toLower (c : Char) : c.toLower.toNat =
    if 0x41 ≤ c.toNat ∧ c.toNat ≤ 0x5A then c.toNat + 32 else c.toNat := by
  have hcapital : (c.val ≥ 'A'.val ∧ c.val ≤ 'Z'.val) ↔ 0x41 ≤ c.toNat ∧ c.toNat ≤ 0x5A := by
    simp [UInt32.le_iff_toNat_le]
  unfold Char.toLower
  split
  · next h =>
      have hrange := hcapital.mp h
      rw [if_pos hrange, ← Char.toNat_val, UInt32.toNat_add, Char.toNat_val]
      change (c.toNat + 32) % 4294967296 = _
      omega
  · next h => rw [if_neg (mt hcapital.mpr h)]

theorem not_isForbidden_toLower {c : Char} (h : isForbidden c = false) :
    isForbidden c.toLower = false := by
  by_cases hcapital : 0x41 ≤ c.toNat ∧ c.toNat ≤ 0x5A
  · refine not_isForbidden_of_isAlphanum (Text.isAlphanum_iff.mpr ?_)
    rw [toNat_toLower, if_pos hcapital]
    omega
  · have hsame : c.toLower = c := by
      rw [← Char.toNat_inj, toNat_toLower, if_neg hcapital]
    rw [hsame]
    exact h

/-- What an encoded label spells is read from its Punycode, and is not ASCII. -/
theorem decodeLabel?_eq_some {label spelled : List Char} (h : decodeLabel? label = some spelled) :
    Punycode.decode? (label.drop encodedMark.length) = some spelled ∧
      spelled.all Percent.isAscii = false := by
  rw [decodeLabel?] at h
  obtain ⟨read, hread, h⟩ := Option.bind_eq_some_iff.mp h
  cases hascii : read.all Percent.isAscii with
  | true => simp [hascii] at h
  | false =>
      by_cases hcomposed : Idna.compose read = read
      · by_cases hvalid : read.mapM Idna.replacement? = some (read.map ([·]))
        · obtain rfl : read = spelled := by simpa [hascii, hcomposed, hvalid] using h
          exact ⟨hread, hascii⟩
        · simp [hascii, hcomposed, hvalid] at h
      · simp [hascii, hcomposed] at h

/-- How a label has its spellings: a plain one has two equal ones, another one is encoded, and an
encoded one is decoded. -/
theorem spellings?_eq_some {label : List Char} {l : List Char × List Char}
    (h : spellings? label = some l) :
    (l = (label, label) ∧ Idna.isAllowed label = true ∧ label.all Percent.isAscii = true) ∨
    (l = (label, encodedMark ++ Punycode.encode label) ∧ Idna.isAllowed label = true ∧
      label.all Percent.isAscii = false) ∨
    (isEncoded label = true ∧ ∃ spelled, l = (spelled, label) ∧
      decodeLabel? label = some spelled ∧ Idna.isAllowed spelled = true) := by
  rw [spellings?] at h
  split at h
  · next hencoded =>
      obtain ⟨spelled, hspelled, hl⟩ := Option.bind_eq_some_iff.mp h
      cases hallowed : Idna.isAllowed spelled with
      | false => simp [hallowed] at hl
      | true =>
          simp only [hallowed, (decodeLabel?_eq_some hspelled).2] at hl
          exact .inr (.inr ⟨hencoded, spelled, (Option.some.inj hl).symm, hspelled, hallowed⟩)
  · next hencoded =>
      obtain ⟨spelled, hspelled, hl⟩ := Option.bind_eq_some_iff.mp h
      obtain rfl : label = spelled := Option.some.inj hspelled
      cases hallowed : Idna.isAllowed label with
      | false => simp [hallowed] at hl
      | true =>
          cases hascii : label.all Percent.isAscii with
          | true =>
              simp only [hallowed, hascii] at hl
              exact .inl ⟨(Option.some.inj hl).symm, rfl, rfl⟩
          | false =>
              simp only [hallowed, hascii] at hl
              exact .inr (.inl ⟨(Option.some.inj hl).symm, rfl, rfl⟩)

/-- The ASCII spelling of a label is the label, or its encoding behind the mark of one. -/
theorem snd_of_spellings? {label : List Char} {l : List Char × List Char}
    (h : spellings? label = some l) :
    l.2 = label ∨ l.2 = encodedMark ++ Punycode.encode label := by
  rcases spellings?_eq_some h with ⟨rfl, -⟩ | ⟨rfl, -⟩ | ⟨-, spelled, rfl, -⟩
  · exact .inl rfl
  · exact .inr rfl
  · exact .inl rfl

theorem not_isForbidden_of_spellings? {label : List Char} {l : List Char × List Char}
    (h : spellings? label = some l) (hlabel : ∀ c ∈ label, isForbidden c = false) :
    ∀ c ∈ l.2, isForbidden c = false := by
  intro c hc
  rcases snd_of_spellings? h with heq | heq
  · exact hlabel c (heq ▸ hc)
  · rw [heq] at hc
    rcases List.mem_append.mp hc with hc | hc
    · have hmark : encodedMark.all (!isForbidden ·) = true := by decide
      simpa using List.all_eq_true.mp hmark c hc
    · rcases Punycode.mem_encode hc with hc | rfl | hc
      · exact hlabel c hc
      · decide
      · exact not_isForbidden_of_isAlphanum (Text.isAlphanum_iff.mpr (by
          have hrange := Punycode.isDigit_iff.mp hc
          omega))

/-- Labels that contain characters from right to left are in their place. -/
def DirectionsFit (labels : List (List Char × List Char)) : Prop :=
  (labels.any (fun l => Idna.hasRightToLeft l.1) &&
    !labels.all (fun l => Idna.directionsAgree l.1)) = false

/-- How a name has its ASCII spelling. -/
theorem internationalToAscii?_eq_some_iff {name domain : List Char} :
    internationalToAscii? name = some domain ↔ ∃ mapped labels,
      name.mapM Idna.replacement? = some mapped ∧
      (Idna.compose mapped.flatten).any isForbidden = false ∧
      (Text.splitOn '.' (Idna.compose mapped.flatten)).mapM spellings? = some labels ∧
      DirectionsFit labels ∧ Text.joinWith ['.'] (labels.map (·.2)) = domain := by
  rw [internationalToAscii?]
  constructor
  · intro h
    obtain ⟨mapped, hmapped, h⟩ := Option.bind_eq_some_iff.mp h
    cases hforbidden : (Idna.compose mapped.flatten).any isForbidden with
    | true => simp [hforbidden] at h
    | false =>
        simp only [hforbidden] at h
        obtain ⟨labels, hlabels, h⟩ := Option.bind_eq_some_iff.mp h
        split at h
        · cases h
        · next hfit =>
            exact ⟨mapped, labels, hmapped, hforbidden, hlabels, Bool.eq_false_of_not_eq_true hfit,
              Option.some.inj h⟩
  · rintro ⟨mapped, labels, hmapped, hforbidden, hlabels, hfit, hdomain⟩
    rw [DirectionsFit] at hfit
    simp only [hmapped, Option.bind_eq_bind, Option.bind_some, hforbidden, hlabels, hfit, hdomain]
    rfl

theorem not_isForbidden_of_internationalToAscii? {name domain : List Char}
    (h : internationalToAscii? name = some domain) : ∀ c ∈ domain, isForbidden c = false := by
  obtain ⟨mapped, labels, -, hforbidden, hlabels, -, rfl⟩ := internationalToAscii?_eq_some_iff.mp h
  intro c hc
  rcases Text.mem_joinWith hc with hdot | ⟨text, htext, hc⟩
  · rw [List.mem_singleton.mp hdot]
    decide
  · obtain ⟨l, hl, rfl⟩ := List.mem_map.mp htext
    obtain ⟨label, hlabel, hspellings⟩ := exists_of_mem_mapM hlabels hl
    refine not_isForbidden_of_spellings? hspellings ?_ c hc
    intro d hd
    have hmem := (Text.mem_of_mem_splitWhere hlabel hd).1
    simpa using List.any_eq_false.mp hforbidden d hmem

theorem not_isForbidden_of_mem_toAscii? {name domain : List Char}
    (h : toAscii? name = some domain) : ∀ c ∈ domain, isForbidden c = false := by
  rw [toAscii?] at h
  split at h
  · split at h
    · cases h
    · next hforbidden =>
        cases h
        intro c hc
        obtain ⟨d, hd, rfl⟩ := List.mem_map.mp hc
        refine not_isForbidden_toLower ?_
        by_contra hbad
        exact hforbidden (List.any_eq_true.mpr ⟨d, hd, Bool.not_eq_false _ ▸ hbad⟩)
  · exact not_isForbidden_of_internationalToAscii? h

/-! ### Labels -/

/-- A character of the ASCII spelling: a plain one that stands for itself. -/
def IsSettled (c : Char) : Prop := c.toNat < 0x80 ∧ Idna.valid.covers c = true

theorem isSettled_iff {c : Char} :
    IsSettled c ↔ c.toNat < 0x80 ∧ ¬(0x41 ≤ c.toNat ∧ c.toNat ≤ 0x5A) :=
  and_congr_right Idna.covers_valid_iff

theorem isSettled_of_isDigit {c : Char} (h : Punycode.IsDigit c) : IsSettled c := by
  have hrange := Punycode.isDigit_iff.mp h
  rw [isSettled_iff]
  omega

theorem mapM_replacement? {s : List Char} (h : ∀ c ∈ s, Idna.valid.covers c = true) :
    s.mapM Idna.replacement? = some (s.map ([·])) :=
  mapM_eq_some fun c hc => Idna.replacement?_of_covers (h c hc)

theorem isEncoded_iff {label : List Char} :
    isEncoded label = true ↔ ∃ rest, label = encodedMark ++ rest := by
  rw [isEncoded, List.isPrefixOf_iff_prefix]
  exact ⟨fun ⟨rest, h⟩ => ⟨rest, h.symm⟩, fun ⟨rest, h⟩ => ⟨rest, h.symm⟩⟩

/-- A label that may be encoded is the one that its encoding spells. -/
theorem decodeLabel?_encode {label : List Char} (hallowed : Idna.isAllowed label = true)
    (hascii : label.all Percent.isAscii = false) (hcomposed : Idna.compose label = label) :
    decodeLabel? (encodedMark ++ Punycode.encode label) = some label := by
  have hmapped := mapM_replacement? fun c hc => Idna.covers_of_isAllowed hallowed hc
  rw [decodeLabel?, List.drop_left, Punycode.decode?_encode, Option.bind_eq_bind, Option.bind_some,
    hascii, if_neg Bool.false_ne_true, hcomposed, if_neg (not_not_intro rfl), if_pos hmapped]

/-- The ASCII spelling of a canonical label has the spellings of the label. -/
theorem spellings?_of_spellings? {label : List Char} {l : List Char × List Char}
    (h : spellings? label = some l) (hcomposed : Idna.compose label = label) :
    spellings? l.2 = some l := by
  rcases spellings?_eq_some h with ⟨rfl, -⟩ | ⟨rfl, hallowed, hascii⟩ | ⟨-, spelled, rfl, -⟩
  · exact h
  · have hencoded : isEncoded (encodedMark ++ Punycode.encode label) = true :=
      isEncoded_iff.mpr ⟨_, rfl⟩
    rw [spellings?, if_pos hencoded, decodeLabel?_encode hallowed hascii hcomposed]
    simp only [Option.bind_eq_bind, Option.bind_some, hallowed, hascii, hencoded]
    rfl
  · exact h

/-- The label that is decoded shows which characters the encoded one has. -/
theorem isSettled_of_decodeLabel? {label spelled : List Char} (hencoded : isEncoded label = true)
    (h : decodeLabel? label = some spelled) (hallowed : Idna.isAllowed spelled = true) :
    ∀ c ∈ label, IsSettled c := by
  obtain ⟨rest, rfl⟩ := isEncoded_iff.mp hencoded
  have hread := (decodeLabel?_eq_some h).1
  rw [List.drop_left] at hread
  have hmark : encodedMark.all (fun c =>
      decide (c.toNat < 0x80 ∧ ¬(0x41 ≤ c.toNat ∧ c.toNat ≤ 0x5A))) = true := by decide
  rw [List.forall_mem_append]
  constructor
  · intro c hc
    exact isSettled_iff.mpr (of_decide_eq_true (List.all_eq_true.mp hmark c hc))
  · intro c hc
    rcases Punycode.mem_of_decode? hread hc with ⟨hc, hplain⟩ | rfl | hdigit
    -- A plain character of the encoding stands in the label that it spells as well.
    · exact ⟨by simpa [Punycode.isPlain] using hplain, Idna.covers_of_isAllowed hallowed hc⟩
    · exact isSettled_iff.mpr (by decide)
    · exact isSettled_of_isDigit hdigit

theorem isSettled_of_spellings? {label : List Char} {l : List Char × List Char}
    (h : spellings? label = some l) (hcomposed : Idna.compose label = label) :
    ∀ c ∈ l.2, IsSettled c := by
  rcases spellings?_eq_some h with
    ⟨rfl, hallowed, hascii⟩ | ⟨rfl, hallowed, hascii⟩ | ⟨hencoded, spelled, rfl, hdecoded, hallowed⟩
  · intro c hc
    have hplain : Percent.isAscii c = true := List.all_eq_true.mp hascii c hc
    exact ⟨by simpa [Percent.isAscii] using hplain, Idna.covers_of_isAllowed hallowed hc⟩
  · exact isSettled_of_decodeLabel? (isEncoded_iff.mpr ⟨_, rfl⟩)
      (decodeLabel?_encode hallowed hascii hcomposed) hallowed
  · exact isSettled_of_decodeLabel? hencoded hdecoded hallowed

theorem dot_not_mem_spellings? {label : List Char} {l : List Char × List Char}
    (h : spellings? label = some l) (hdot : '.' ∉ label) : '.' ∉ l.2 := by
  rcases snd_of_spellings? h with heq | heq
  · rwa [heq]
  · rw [heq, List.mem_append]
    rintro (hmark | hencode)
    · exact absurd hmark (by decide)
    · rcases Punycode.mem_encode hencode with hlabel | hhyphen | hdigit
      · exact hdot hlabel
      · exact absurd hhyphen (by decide)
      · exact absurd (Punycode.isDigit_iff.mp hdigit) (by decide)

/-- The ASCII spelling is that of a label with these spellings, and can stand in a name. -/
structure Respelled (l : List Char × List Char) : Prop where
  again : spellings? l.2 = some l
  noDot : '.' ∉ l.2
  settled : ∀ c ∈ l.2, IsSettled c

/-! ### Names -/

section labels

variable {labels : List (List Char × List Char)} (h : ∀ l ∈ labels, Respelled l)

include h

theorem splitOn_joinWith_labels (hne : labels ≠ []) :
    Text.splitOn '.' (Text.joinWith ['.'] (labels.map (·.2))) = labels.map (·.2) := by
  refine Text.splitOn_joinWith (mt List.map_eq_nil_iff.mp hne) fun text htext => ?_
  obtain ⟨l, hl, rfl⟩ := List.mem_map.mp htext
  exact (h l hl).noDot

theorem mapM_spellings? : (labels.map (·.2)).mapM spellings? = some labels := by
  have hid : labels.mapM (spellings? ∘ (·.2)) = some (labels.map id) :=
    mapM_eq_some fun l hl => (h l hl).again
  rw [List.mapM_map, hid, List.map_id]

theorem isSettled_of_mem_joinWith {c : Char}
    (hc : c ∈ Text.joinWith ['.'] (labels.map (·.2))) : IsSettled c := by
  rcases Text.mem_joinWith hc with hdot | ⟨text, htext, hc⟩
  · rw [List.mem_singleton.mp hdot]
    exact isSettled_iff.mpr (by decide)
  · obtain ⟨l, hl, rfl⟩ := List.mem_map.mp htext
    exact (h l hl).settled c hc

end labels

/-- Mapping and composition leave settled text alone. -/
theorem canonical_of_isSettled {s : List Char} (h : ∀ c ∈ s, IsSettled c) :
    s.mapM Idna.replacement? = some (s.map ([·])) ∧
      Idna.compose (s.map ([·])).flatten = s := by
  refine ⟨mapM_replacement? fun c hc => (h c hc).2, ?_⟩
  rw [← List.flatMap_def, List.flatMap_singleton', Idna.compose_plain fun c hc => (h c hc).1]

/-- The labels of a canonical name have their ASCII spellings again. -/
theorem respelled_of_mapM {s : List Char} {labels : List (List Char × List Char)}
    (h : (Text.splitOn '.' (Idna.compose s)).mapM spellings? = some labels) :
    ∀ l ∈ labels, Respelled l := by
  intro l hl
  obtain ⟨label, hmem, hspellings⟩ := exists_of_mem_mapM h hl
  have hcomposed := Idna.compose_of_mem_splitOn hmem
  have hdot : '.' ∉ label := fun hdot =>
    absurd (Text.mem_of_mem_splitWhere hmem hdot).2 (by decide)
  exact ⟨spellings?_of_spellings? hspellings hcomposed, dot_not_mem_spellings? hspellings hdot,
    isSettled_of_spellings? hspellings hcomposed⟩

/-- The ASCII spelling of a name has the labels of the name. -/
theorem internationalToAscii?_of_internationalToAscii? {name domain : List Char}
    (h : internationalToAscii? name = some domain) :
    internationalToAscii? domain = some domain ∧ ∀ c ∈ domain, IsSettled c := by
  have hallowed := not_isForbidden_of_internationalToAscii? h
  obtain ⟨mapped, labels, -, -, hlabels, hfit, rfl⟩ := internationalToAscii?_eq_some_iff.mp h
  have hrespelled := respelled_of_mapM hlabels
  have hne : labels ≠ [] := ne_nil_of_mapM hlabels (Text.splitWhere_ne_nil _ _)
  have hsettled : ∀ c ∈ Text.joinWith ['.'] (labels.map (·.2)), IsSettled c := fun _ =>
    isSettled_of_mem_joinWith hrespelled
  obtain ⟨hmapped, hcomposed⟩ := canonical_of_isSettled hsettled
  refine ⟨internationalToAscii?_eq_some_iff.mpr ⟨_, labels, hmapped, ?_, ?_, hfit, rfl⟩, hsettled⟩
  · rw [hcomposed]
    exact any_isForbidden_of_forall hallowed
  · rw [hcomposed, splitOn_joinWith_labels hrespelled hne, mapM_spellings? hrespelled]

theorem toLower_of_isSettled {c : Char} (h : IsSettled c) : c.toLower = c := by
  rw [← Char.toNat_inj, toNat_toLower, if_neg (isSettled_iff.mp h).2]

theorem isSettled_toLower {c : Char} (h : c.toNat < 0x80) : IsSettled c.toLower := by
  rw [isSettled_iff, toNat_toLower]
  split <;> omega

theorem map_toLower_of_isSettled {s : List Char} (h : ∀ c ∈ s, IsSettled c) :
    s.map Char.toLower = s :=
  (List.map_congr_left fun c hc => toLower_of_isSettled (h c hc)).trans (List.map_id _)

/-- A plain name in lower case is its own ASCII spelling. -/
theorem toAscii?_of_plain {s : List Char} (hsettled : ∀ c ∈ s, IsSettled c)
    (hallowed : ∀ c ∈ s, isForbidden c = false)
    (hencoded : (Text.splitOn '.' s).any isEncoded = false) : toAscii? s = some s := by
  have hascii : s.all Percent.isAscii = true :=
    List.all_eq_true.mpr fun c hc => by simpa [Percent.isAscii] using (hsettled c hc).1
  have hplain : isPlain s = true := by
    rw [isPlain, map_toLower_of_isSettled hsettled, hascii, hencoded]
    rfl
  rw [toAscii?, if_pos hplain, any_isForbidden_of_forall hallowed, if_neg Bool.false_ne_true,
    map_toLower_of_isSettled hsettled]

/-- What is in its ASCII spelling is its own ASCII spelling. -/
theorem toAscii?_of_toAscii? {name domain : List Char} (h : toAscii? name = some domain) :
    toAscii? domain = some domain := by
  have hallowed := not_isForbidden_of_mem_toAscii? h
  rw [toAscii?] at h
  split at h
  · next hplain =>
      split at h
      · cases h
      · cases h
        rw [isPlain, Bool.and_eq_true, List.all_eq_true, Bool.not_eq_true'] at hplain
        refine toAscii?_of_plain (fun c hc => ?_) hallowed hplain.2
        obtain ⟨d, hd, rfl⟩ := List.mem_map.mp hc
        exact isSettled_toLower (by simpa [Percent.isAscii] using hplain.1 d hd)
  · obtain ⟨hagain, hsettled⟩ := internationalToAscii?_of_internationalToAscii? h
    rw [toAscii?]
    split
    · rw [any_isForbidden_of_forall hallowed, if_neg Bool.false_ne_true,
        map_toLower_of_isSettled hsettled]
    · exact hagain

end Domain

end LoginGateway
