import TimelineFilter.Proofs.Report.Cells
import Mathlib.Algebra.GroupWithZero.Nat
import Mathlib.Algebra.Order.BigOperators.Group.List

namespace TimelineFilter

namespace Text

def breakRanges : Ranges := [(0xA, 0xD), (0x85, 0x85), (0x2028, 0x2029)]

def isLineBreak (c : Char) : Bool := breakRanges.has c.toNat

/-- What stands in front of, between and behind the line breaks, each of which counts by itself. -/
def pieces (text : String) : List String :=
  (text.toList.splitOnP isLineBreak).map String.ofList

/-- The lines of a text. Behind the last line break there is no line unless something stands
there. -/
def linesOf (text : String) : List String :=
  if (pieces text).getLast? = some "" then (pieces text).dropLast else pieces text

def breaks (text : String) : Nat := text.toList.countP isLineBreak

variable {text : String}

theorem isLineBreak_iff {c : Char} : isLineBreak c = true ↔
    10 ≤ c.toNat ∧ c.toNat ≤ 13 ∨ c.toNat = 0x85 ∨ c.toNat = 0x2028 ∨ c.toNat = 0x2029 := by
  simp only [isLineBreak, breakRanges, Ranges.has]
  grind

theorem blank_of_isLineBreak {c : Char} (ends : isLineBreak c = true) :
    c ≠ ' ' ∧ isBlank c = true := by
  have range := isLineBreak_iff.1 ends
  constructor
  · rintro rfl
    simp at range
  · have each : ∀ n ∈ [10, 11, 12, 13, 0x85, 0x2028, 0x2029], blankRanges.has n = true := by decide
    apply each
    simp only [List.mem_cons, List.not_mem_nil, or_false]
    omega

@[simp]
theorem breaks_append (a b : String) : breaks (a ++ b) = breaks a + breaks b := by
  rw [breaks, String.toList_append, List.countP_append]
  rfl

theorem breaks_eq_zero_iff : breaks text = 0 ↔ ∀ c ∈ text.toList, isLineBreak c = false := by
  rw [breaks, List.countP_eq_zero]
  simp

theorem breaks_of_printable (printable : Printable text) : breaks text = 0 := by
  rw [breaks_eq_zero_iff]
  intro c mem
  have visible := printable c mem
  rw [Bool.eq_false_iff, ne_eq, isLineBreak_iff]
  omega

@[simp]
theorem breaks_padRight (width : Nat) (text : String) :
    breaks (padRight width text) = breaks text := by
  have filling : breaks (spaces (width - text.length)) = 0 := by
    rw [breaks_eq_zero_iff, spaces, String.toList_ofList]
    intro c mem
    rw [(List.mem_replicate.1 mem).2]
    decide
  rw [padRight_eq, breaks_append, filling, Nat.add_zero]

theorem pieces_ne_nil (text : String) : pieces text ≠ [] := by
  simp [pieces]

theorem length_pieces (text : String) : (pieces text).length = breaks text + 1 := by
  rw [pieces, List.length_map, breaks]
  induction text.toList with
  | nil => rfl
  | cons c cs ih =>
    rw [List.splitOnP_cons_eq_if_modifyHead, List.countP_cons]
    split
    · rw [List.length_cons, ih]
    · rw [List.length_modifyHead, ih]

theorem pieces_of_whole (whole : breaks text = 0) : pieces text = [text] := by
  rw [pieces, List.splitOnP_eq_singleton (breaks_eq_zero_iff.1 whole), List.map_singleton,
    String.ofList_toList]

theorem linesOf_ended (text more : String) :
    linesOf (text ++ "\n" ++ more) = pieces text ++ linesOf more := by
  have split : pieces (text ++ "\n" ++ more) = pieces text ++ pieces more := by
    have apart := List.splitOnP_append_cons text.toList more.toList
      (show isLineBreak '\n' = true by decide)
    simpa [pieces] using congrArg (List.map String.ofList) apart
  -- Whether the last piece is a line is settled by what follows alone.
  have last : (pieces text ++ pieces more).getLast? = (pieces more).getLast? :=
    List.getLast?_append_of_ne_nil _ (pieces_ne_nil more)
  rw [linesOf, linesOf, split, last, List.dropLast_append_of_ne_nil (pieces_ne_nil more)]
  split <;> rfl

end Text

namespace Report

open Text

theorem length_linesOf_lines (ls : List String) :
    (linesOf (lines ls)).length = ls.length + (ls.map breaks).sum := by
  induction ls with
  | nil => rfl
  | cons l ls ih =>
    rw [lines_cons, linesOf_ended, List.length_append, length_pieces, ih, List.map_cons,
      List.sum_cons, List.length_cons]
    omega

theorem linesOf_lines {ls : List String} (whole : ∀ l ∈ ls, breaks l = 0) :
    linesOf (lines ls) = ls := by
  induction ls with
  | nil => rfl
  | cons l ls ih =>
    rw [lines_cons, linesOf_ended, pieces_of_whole (whole l List.mem_cons_self),
      ih fun other mem => whole other (List.mem_cons_of_mem _ mem)]
    rfl

def nameBreaks (t : Status) : Nat := ((shownNames t).map breaks).sum

theorem breaks_shownText (t : Status) : breaks (shownText t) = 0 := by
  rw [breaks_eq_zero_iff]
  intro c mem
  cases ends : isLineBreak c with
  | false => rfl
  | true =>
    obtain ⟨other, blank⟩ := blank_of_isLineBreak ends
    rcases mem_truncate mem with mem | rfl
    · rcases mem_singleLine mem with space | solid
      · exact absurd space other
      · exact absurd (blank.symm.trans solid) (by decide)
    · exact absurd ends (by decide)

theorem breaks_row (id age user text : String) :
    breaks (row id age user text) = breaks id + breaks age + breaks user + breaks text := by
  have space : breaks " " = 0 := by decide
  simp [row, space]

theorem breaks_header : breaks (header false) = 0 := by
  change breaks (row "ID" "Age" (padRight 18 "User") "Text") = 0
  rw [breaks_row, breaks_padRight]
  decide

theorem breaks_statusText (t : Status) :
    breaks (statusText false t) = ((t.retweeter?.map User.screenName).toList.map breaks).sum := by
  have mark :
      breaks (if t.post.isDirectMessage then paint false .magenta "DM" ++ " " else "") = 0 := by
    split <;> decide
  have around : breaks " (RT by @" = 0 ∧ breaks ")" = 0 := by decide
  change breaks (_ ++ shownText t ++ _) = _
  rw [breaks_append, breaks_append, breaks_shownText, mark]
  cases t.retweeter? with
  | none => rfl
  | some u => simp [around]

theorem breaks_statusRow (now : Instant) (t : Status) :
    breaks (statusRow false now t) = nameBreaks t := by
  have id := breaks_of_printable (printable_decimal t.post.id.toInt)
  have since := breaks_of_printable (printable_age t.post.createdAt now)
  have sign : breaks "@" = 0 := by decide
  change breaks (row _ _ (padRight 18 ("@" ++ truncate 16 t.author.screenName)) _) = _
  rw [breaks_row, id, since, breaks_padRight, breaks_append, sign, breaks_statusText]
  simp [nameBreaks, shownNames]

variable (now : Instant) (t : Status) (others : List Status)

theorem length_linesOf_statusTable :
    (linesOf (statusTable false now (t :: others))).length =
      1 + (t :: others).length + ((t :: others).map nameBreaks).sum := by
  rw [statusTable_cons]
  generalize t :: others = shown
  have rows : (shown.map (statusRow false now)).map breaks = shown.map nameBreaks := by
    simp only [List.map_map, Function.comp_def, breaks_statusRow]
  rw [length_linesOf_lines, List.map_cons, List.sum_cons, breaks_header, rows, List.length_cons,
    List.length_map]
  omega

variable {t others}

theorem linesOf_statusTable (whole : ∀ t' ∈ t :: others, nameBreaks t' = 0) :
    linesOf (statusTable false now (t :: others)) =
      header false :: (t :: others).map (statusRow false now) := by
  rw [statusTable_cons]
  apply linesOf_lines
  intro l mem
  rcases List.mem_cons.1 mem with rfl | mem
  · exact breaks_header
  · obtain ⟨t', listed, rfl⟩ := List.mem_map.1 mem
    exact (breaks_statusRow now t').trans (whole t' listed)

variable (t others)

/-- A table has one line for its header, one for each status, and one more for each line break in a
name. So there is one line for each status, in order, exactly if no name that is shown has a line
break. -/
theorem statusTable_lines :
    (linesOf (statusTable false now (t :: others))).length =
      1 + (t :: others).length + ((t :: others).map nameBreaks).sum ∧
    (linesOf (statusTable false now (t :: others)) =
        header false :: (t :: others).map (statusRow false now) ↔
      ∀ t' ∈ t :: others, nameBreaks t' = 0) := by
  have count := length_linesOf_statusTable now t others
  refine ⟨count, ?_, linesOf_statusTable now⟩
  intro each
  rw [each, List.length_cons, List.length_map] at count
  have none : ((t :: others).map nameBreaks).sum = 0 := by omega
  rw [List.sum_eq_zero_iff_forall_eq_nat] at none
  exact fun t' mem => none _ (List.mem_map_of_mem mem)

/-- A name of two lines makes two lines of its row. -/
theorem statusTable_split :
    linesOf (statusTable false (.ofNanoseconds 0)
        [.plain (.basic 3 (.basic 4 "bob\nsmith") "hi")]) =
      ["ID                   Age    User               Text",
        "3                           @bob", "smith         hi"] := by
  decide +kernel

end Report

end TimelineFilter
