import LoginGateway.Log.Console
import LoginGateway.Proofs.Text.Splitting

/-!
What becomes of the records of a program. They are handled one after the other; each is withheld,
or it is written on one of the outputs behind those that came before it. So none is lost, doubled
or out of order, and the filter of silent parts is never in the way of the program's own. Main
statement: `output_delivers`.
-/

namespace LoginGateway

/-! ### Lines -/

namespace Text

/-- A line feed ends the lines before it, whatever comes behind it. -/
theorem lines_append (s t : List Char) :
    lines (s ++ '\n' :: t) = (splitOn '\n' s).map withoutReturn ++ lines t := by
  have hsplit : splitOn '\n' (s ++ '\n' :: t) = splitOn '\n' s ++ splitOn '\n' t :=
    splitWhere_append_cons (by exact beq_self_eq_true _) s t
  obtain ⟨pieces, last, ht⟩ : ∃ pieces last, splitOn '\n' t = pieces ++ [last] :=
    ⟨_, _, (List.dropLast_append_getLast (splitWhere_ne_nil _ t)).symm⟩
  rw [lines, lines, hsplit, ht, ← List.append_assoc, List.getLast?_concat, List.getLast?_concat,
    List.dropLast_concat, List.dropLast_concat, List.map_append]
  cases last with
  | nil => rfl
  | cons c rest => exact List.append_assoc _ _ _

theorem lines_nil : lines [] = [] := rfl

/-- The text without its carriage returns. -/
def unreturned (s : List Char) : List Char := s.filter (· != '\r')

theorem unreturned_append (s t : List Char) : unreturned (s ++ t) = unreturned s ++ unreturned t :=
  List.filter_append _ _

theorem unreturned_withoutReturn (line : List Char) :
    unreturned (withoutReturn line) = unreturned line := by
  rw [withoutReturn]
  split
  · next hlast =>
      obtain ⟨front, rfl⟩ := List.getLast?_eq_some_iff.mp hlast
      rw [List.dropLast_concat, unreturned_append]
      exact (List.append_nil _).symm
  · rfl

theorem unreturned_joinWith (glue : List Char) (pieces : List (List Char)) :
    unreturned (joinWith glue (pieces.map withoutReturn)) = unreturned (joinWith glue pieces) := by
  induction pieces with
  | nil => rfl
  | cons piece rest ih =>
      by_cases hrest : rest = []
      · subst hrest
        exact unreturned_withoutReturn piece
      · have hmap : rest.map withoutReturn ≠ [] := by simpa using hrest
        rw [List.map_cons, joinWith_cons hmap, joinWith_cons hrest, unreturned_append,
          unreturned_append, unreturned_append, unreturned_append, unreturned_withoutReturn, ih]

end Text

namespace Log

/-- The lines that a record leaves. -/
def Record.lines (r : Record) : List String := renderAll [r]

theorem renderAll_append (records after : List Record) :
    renderAll (records ++ after) = renderAll records ++ renderAll after := by
  induction records with
  | nil => rfl
  | cons r rest ih =>
      have hcons (more : List Record) : renderAll (r :: more) =
          ((Text.splitOn '\n' r.render.toList).map Text.withoutReturn).map String.ofList ++
            renderAll more := by
        rw [renderAll, List.flatMap_cons, String.toList_append, List.append_assoc,
          show "\n".toList = ['\n'] from rfl, List.singleton_append, Text.lines_append,
          List.map_append]
        rfl
      rw [List.cons_append, hcons, hcons, ih, List.append_assoc]

theorem renderAll_eq (records : List Record) :
    renderAll records = records.flatMap Record.lines := by
  induction records with
  | nil => rfl
  | cons r rest ih => exact (renderAll_append [r] rest).trans (congrArg (r.lines ++ ·) ih)

/-- The record with what a console makes of its message, such as colours for the marks in it. -/
def Record.styled (style : String → String) (r : Record) : Record :=
  { r with message := style r.message }

/-- Joined again, the lines of a record are its text, but for carriage returns. -/
theorem unreturned_lines (r : Record) :
    Text.unreturned (Text.joinWith ['\n'] (r.lines.map String.toList)) =
      Text.unreturned r.render.toList := by
  have hlines : r.lines.map String.toList =
      (Text.splitOn '\n' r.render.toList).map Text.withoutReturn := by
    rw [Record.lines, renderAll, List.flatMap_singleton, String.toList_append,
      show "\n".toList = ['\n'] from rfl, Text.lines_append, Text.lines_nil, List.append_nil,
      List.map_map]
    simp
  rw [hlines, Text.unreturned_joinWith, Text.joinWith_splitOn]

/-! ### What the lines say -/

/-- What the text of a record says: its level, where it comes from if the level is more detailed than
that of information, and then its message. -/
inductive Record.Tells (r : Record) : List Char → Prop
  | briefly (hlevel : r.level.rank ≤ Level.info.rank) :
      r.Tells (("[" ++ r.level.name ++ "] ").toList ++ r.message.toList)
  | fully {place : List Char} (hlevel : Level.info.rank < r.level.rank)
      (hplace : r.target.toList <:+: place) :
      r.Tells (("[" ++ r.level.name ++ "] ").toList ++ place ++ r.message.toList)

theorem Record.tells_render (r : Record) : r.Tells r.render.toList := by
  rw [Record.render]
  split
  · next hlevel =>
      have htext : (s!"[DEBUG] (1) {r.target}: {r.message}").toList =
          ("[" ++ r.level.name ++ "] ").toList ++
            ("(1) ".toList ++ r.target.toList ++ ": ".toList) ++ r.message.toList := by
        simp [hlevel, Level.name, toString]
      rw [htext]
      exact .fully (by rw [hlevel]; decide) ⟨_, _, rfl⟩
  · next hlevel =>
      have htext : (s!"[TRACE] (1) {r.target}: [<unknown>:<unknown>] {r.message}").toList =
          ("[" ++ r.level.name ++ "] ").toList ++
            ("(1) ".toList ++ r.target.toList ++ ": [<unknown>:<unknown>] ".toList) ++
            r.message.toList := by
        simp [hlevel, Level.name, toString]
      rw [htext]
      exact .fully (by rw [hlevel]; decide) ⟨_, _, rfl⟩
  · next hdebug htrace =>
      have hlevel : r.level.rank ≤ Level.info.rank := by
        cases h : r.level with
        | debug => exact absurd h hdebug
        | trace => exact absurd h htrace
        | _ => decide
      have htext : (s!"[{r.level.name}] {r.message}").toList =
          ("[" ++ r.level.name ++ "] ").toList ++ r.message.toList := by
        simp [toString]
      rw [htext]
      exact .briefly hlevel

/-- Joined again, the lines of a record are a text that tells of it, but for carriage returns. -/
theorem legible_lines (r : Record) : ∃ text, r.Tells text ∧
    Text.unreturned (Text.joinWith ['\n'] (r.lines.map String.toList)) = Text.unreturned text :=
  ⟨_, r.tells_render, unreturned_lines r⟩

theorem Record.Tells.exists_eq {r : Record} {text : List Char} (h : r.Tells text) :
    ∃ rest, text = '[' :: (r.level.name.toList ++ ']' :: rest) := by
  cases h with
  | briefly => exact ⟨' ' :: r.message.toList, by simp⟩
  | @fully place => exact ⟨' ' :: (place ++ r.message.toList), by simp⟩

theorem Level.name_injective : Function.Injective Level.name := by
  intro a b
  cases a <;> cases b <;> decide

/-- The level of a record can be read off its lines. -/
theorem level_eq_of_lines {r r' : Record} (h : r.lines = r'.lines) : r.level = r'.level := by
  have hread (r : Record) : (Text.unreturned r.render.toList).takeWhile (· != ']') =
      '[' :: r.level.name.toList := by
    obtain ⟨rest, htext⟩ := r.tells_render.exists_eq
    rw [htext]
    cases r.level <;> rfl
  have htext : Text.unreturned r.render.toList = Text.unreturned r'.render.toList := by
    rw [← unreturned_lines, ← unreturned_lines, h]
  have hname : '[' :: r.level.name.toList = '[' :: r'.level.name.toList := by
    rw [← hread, ← hread, htext]
  exact Level.name_injective (String.toList_injective (List.cons.inj hname).2)

/-! ### Which records are written -/

/-- The target begins with one of the names. -/
def BeginsWith (names : List String) (target : String) : Prop :=
  ∃ name ∈ names, name.toList <+: target.toList

/-- The names with which the targets of the program's own parts begin. -/
def ownTargets : List String := ["social_auth", "web", "service", "social_login_rs"]

/-- The record is to be written: its level is within the threshold, and unless everything is shown,
its target does not begin with the name of a silent part. -/
structure Written (t : Threshold) (r : Record) : Prop where
  level : r.level.rank ≤ t.rank
  target : t ≠ .upTo .trace → ¬BeginsWith silentTargets r.target

theorem shows_iff (t : Threshold) (r : Record) : shows t r = true ↔ Written t r := by
  have hsilent : isSilent t r.target = true ↔
      t ≠ .upTo .trace ∧ BeginsWith silentTargets r.target := by
    rw [isSilent, Bool.and_eq_true, bne_iff_ne, List.any_eq_true]
    simp only [String.startsWith_string_iff, BeginsWith]
  rw [shows, Bool.and_eq_true, Bool.not_eq_true', ← Bool.not_eq_true, hsilent, not_and,
    Threshold.admits, decide_eq_true_eq]
  exact ⟨fun h => ⟨h.1, h.2⟩, fun h => ⟨h.level, h.target⟩⟩

instance (t : Threshold) (r : Record) : Decidable (Written t r) :=
  decidable_of_iff _ (shows_iff t r)

theorem written_styled (t : Threshold) (style : String → String) (r : Record) :
    Written t (r.styled style) ↔ Written t r :=
  ⟨fun h => ⟨h.level, h.target⟩, fun h => ⟨h.level, h.target⟩⟩

/-- A part is silent with all whose names it begins, and no other part is. -/
example : ¬Written (.upTo .debug) ⟨.error, "hyper_util::client", "text"⟩ ∧
    Written (.upTo .debug) ⟨.debug, "h2::client", "text"⟩ := by decide +kernel

/-- No name of an own part and none of a silent one can begin the same target. -/
theorem not_silent_of_own {target : String} (h : BeginsWith ownTargets target) :
    ¬BeginsWith silentTargets target := by
  rintro ⟨silent, hsilent, hfront⟩
  obtain ⟨own, hown, hfront'⟩ := h
  have hapart : ∀ own ∈ ownTargets, ∀ silent ∈ silentTargets,
      ¬own.toList <+: silent.toList ∧ ¬silent.toList <+: own.toList := by decide
  obtain ⟨hnot, hnot'⟩ := hapart own hown silent hsilent
  rcases List.prefix_or_prefix_of_prefix hfront' hfront with hprefix | hprefix
  · exact hnot hprefix
  · exact hnot' hprefix

/-! ### One record after the other -/

/-- The records that stand on the outputs are those to be written, each as often as it was logged.
Errors stand on the error output and all others on the standard output, in the order of logging, and
each of them leaves lines there that tell what it says. -/
structure Delivers (style : String → String) (t : Threshold) (records standard error : List Record)
    (o : Output) : Prop where
  written_iff : ∀ r, r ∈ standard ++ error ↔ r ∈ records ∧ Written t r
  once : ∀ r ∈ standard ++ error, (standard ++ error).count r = records.count r
  standard_level : ∀ r ∈ standard, r.level ≠ .error
  error_level : ∀ r ∈ error, r.level = .error
  standard_order : standard.Sublist records
  error_order : error.Sublist records
  standard_lines : o.standard = standard.flatMap fun r => (r.styled style).lines
  error_lines : o.error = error.flatMap fun r => (r.styled style).lines
  legible : ∀ r ∈ standard ++ error, ∃ text, (r.styled style).Tells text ∧
    Text.unreturned (Text.joinWith ['\n'] ((r.styled style).lines.map String.toList)) =
      Text.unreturned text
  levels_apart : ∀ r ∈ standard ++ error, ∀ r' ∈ standard ++ error,
    (r.styled style).lines = (r'.styled style).lines → r.level = r'.level

section step

variable {style : String → String} {t : Threshold} {records standard error : List Record}
  {o : Output} {r : Record}

theorem Delivers.withheld (h : Delivers style t records standard error o) (hr : ¬Written t r) :
    Delivers style t (records ++ [r]) standard error o where
  written_iff other := by
    rw [h.written_iff, List.mem_append, List.mem_singleton, or_and_right]
    refine (or_iff_left ?_).symm
    rintro ⟨rfl, hother⟩
    exact hr hother
  once other hother := by
    have hne : other ≠ r := by
      rintro rfl
      exact hr ((h.written_iff other).mp hother).2
    rw [h.once other hother, List.count_append, List.count_singleton,
      if_neg (by simpa using hne.symm), Nat.add_zero]
  standard_level := h.standard_level
  error_level := h.error_level
  standard_order := h.standard_order.trans (List.sublist_append_left _ _)
  error_order := h.error_order.trans (List.sublist_append_left _ _)
  standard_lines := h.standard_lines
  error_lines := h.error_lines
  legible := h.legible
  levels_apart := h.levels_apart

/-- A record that is written, on whichever output, is there once more than before. -/
theorem Delivers.once_more (h : Delivers style t records standard error o) (hr : Written t r)
    {shown : List Record} (hshown : shown.Perm (standard ++ error ++ [r])) :
    (∀ other, other ∈ shown ↔ other ∈ records ++ [r] ∧ Written t other) ∧
      ∀ other ∈ shown, shown.count other = (records ++ [r]).count other := by
  have hmem (other : Record) : other ∈ shown ↔ other ∈ records ++ [r] ∧ Written t other := by
    rw [hshown.mem_iff, List.mem_append, h.written_iff, List.mem_append, List.mem_singleton,
      or_and_right]
    refine or_congr_right (iff_self_and.mpr ?_)
    rintro rfl
    exact hr
  refine ⟨hmem, fun other hother => ?_⟩
  have hcount : (standard ++ error).count other = records.count other := by
    by_cases hlogged : other ∈ standard ++ error
    · exact h.once other hlogged
    · have hnot : other ∉ records := fun hrecords =>
        hlogged ((h.written_iff other).mpr ⟨hrecords, ((hmem other).mp hother).2⟩)
      rw [List.count_eq_zero_of_not_mem hlogged, List.count_eq_zero_of_not_mem hnot]
  rw [hshown.count_eq, List.count_append, hcount, List.count_append]

theorem Delivers.toStandard (h : Delivers style t records standard error o) (hr : Written t r)
    (hlevel : r.level ≠ .error) :
    Delivers style t (records ++ [r]) (standard ++ [r]) error
      { o with standard := o.standard ++ (r.styled style).lines } := by
  have hshown : (standard ++ [r] ++ error).Perm (standard ++ error ++ [r]) := by
    rw [List.append_assoc, List.append_assoc]
    exact List.perm_append_comm.append_left standard
  obtain ⟨hmem, hcount⟩ := h.once_more hr hshown
  refine ⟨hmem, hcount, ?_, h.error_level, h.standard_order.append (.refl _),
    h.error_order.trans (List.sublist_append_left _ _), ?_, h.error_lines,
    fun _ _ => legible_lines _, fun _ _ _ _ h => (level_eq_of_lines h :)⟩
  · intro other hother
    rcases List.mem_append.mp hother with hother | hother
    · exact h.standard_level other hother
    · rw [List.mem_singleton.mp hother]
      exact hlevel
  · rw [List.flatMap_append, List.flatMap_singleton, h.standard_lines]

theorem Delivers.toError (h : Delivers style t records standard error o) (hr : Written t r)
    (hlevel : r.level = .error) :
    Delivers style t (records ++ [r]) standard (error ++ [r])
      { o with error := o.error ++ (r.styled style).lines } := by
  have hshown : (standard ++ (error ++ [r])).Perm (standard ++ error ++ [r]) := by
    rw [List.append_assoc]
  obtain ⟨hmem, hcount⟩ := h.once_more hr hshown
  refine ⟨hmem, hcount, h.standard_level, ?_, h.standard_order.trans (List.sublist_append_left _ _),
    h.error_order.append (.refl _), h.standard_lines, ?_, fun _ _ => legible_lines _,
    fun _ _ _ _ h => (level_eq_of_lines h :)⟩
  · intro other hother
    rcases List.mem_append.mp hother with hother | hother
    · exact h.error_level other hother
    · rw [List.mem_singleton.mp hother]
      exact hlevel
  · rw [List.flatMap_append, List.flatMap_singleton, h.error_lines]

end step

/-- What one more record adds to the outputs. -/
theorem output_concat (t : Threshold) (records : List Record) (r : Record) :
    output t (records ++ [r]) =
      if Written t r then
        if r.level = .error then
          { output t records with error := (output t records).error ++ r.lines }
        else { output t records with standard := (output t records).standard ++ r.lines }
      else output t records := by
  have hfilter : (records ++ [r]).filter (shows t) =
      records.filter (shows t) ++ if Written t r then [r] else [] := by
    rw [List.filter_append, List.filter_singleton, Bool.cond_eq_ite]
    exact congrArg _ (if_congr (shows_iff t r) rfl rfl)
  rw [output, output, hfilter]
  by_cases hr : Written t r
  · by_cases hlevel : r.level = .error
    · simp [hr, hlevel, List.filter_append, renderAll_append, Record.lines]
    · simp [hr, hlevel, List.filter_append, renderAll_append, Record.lines]
  · simp [hr]

theorem exists_delivers (style : String → String) (t : Threshold) (records : List Record) :
    ∃ standard error,
      Delivers style t records standard error (output t (records.map (Record.styled style))) := by
  -- The outputs are those of the records before the last one, and what that one adds.
  induction records using List.reverseRecOn with
  | nil => exact ⟨[], [], by constructor <;> simp [output, renderAll_eq]⟩
  | append_singleton records r ih =>
      obtain ⟨standard, error, h⟩ := ih
      rw [List.map_append, List.map_singleton, output_concat]
      by_cases hr : Written t r
      · rw [if_pos ((written_styled t style r).mpr hr)]
        by_cases hlevel : r.level = .error
        · rw [if_pos (by exact hlevel)]
          exact ⟨standard, error ++ [r], h.toError hr hlevel⟩
        · rw [if_neg (by exact hlevel)]
          exact ⟨standard ++ [r], error, h.toStandard hr hlevel⟩
      · rw [if_neg (mt (written_styled t style r).mp hr)]
        exact ⟨standard, error, h.withheld hr⟩

/-- Whatever is logged, at whatever threshold, and whatever the console makes of messages, the
records that are to be written are delivered. Of records of the program's own parts, these are all
whose level is within the threshold. -/
theorem output_delivers (style : String → String) (t : Threshold) (records : List Record) :
    ∃ standard error,
      Delivers style t records standard error (output t (records.map (Record.styled style))) ∧
      ∀ r ∈ records, BeginsWith ownTargets r.target →
        (r ∈ standard ++ error ↔ r.level.rank ≤ t.rank) := by
  obtain ⟨standard, error, h⟩ := exists_delivers style t records
  refine ⟨standard, error, h, fun r hr hown => ?_⟩
  rw [h.written_iff]
  constructor
  · rintro ⟨-, hwritten⟩
    exact hwritten.level
  · intro hlevel
    exact ⟨hr, hlevel, fun _ => not_silent_of_own hown⟩

end Log

end LoginGateway
