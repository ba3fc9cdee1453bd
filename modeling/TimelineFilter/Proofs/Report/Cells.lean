import TimelineFilter.Proofs.Runs
import TimelineFilter.Proofs.Timeline.Instants
import TimelineFilter.Report.Statuses

namespace TimelineFilter

namespace Text

def Printable (text : String) : Prop := ∀ c ∈ text.toList, 32 ≤ c.toNat ∧ c.toNat ≤ 126

instance (text : String) : Decidable (Printable text) :=
  List.decidableBAll (fun c : Char => 32 ≤ c.toNat ∧ c.toNat ≤ 126) text.toList

theorem Printable.append {a b : String} (left : Printable a) (right : Printable b) :
    Printable (a ++ b) := by
  intro c mem
  rw [String.toList_append] at mem
  rcases List.mem_append.1 mem with mem | mem
  · exact left c mem
  · exact right c mem

theorem printable_of_digits {text : String} (digits : ∀ c ∈ text.toList, c.isDigit = true) :
    Printable text := by
  intro c mem
  have range : 48 ≤ c.toNat ∧ c.toNat ≤ 57 := by
    simpa [Char.isDigit, UInt32.le_iff_toNat_le] using digits c mem
  omega

theorem printable_decimal (n : Int) : Printable (decimal n) := by
  have digits (n : Nat) : Printable (String.ofList (Nat.toDigits 10 n)) := by
    apply printable_of_digits
    rw [String.toList_ofList]
    exact isDigit_of_toDigits
  cases n with
  | ofNat n => exact digits n
  | negSucc n =>
    have sign : decimal (.negSucc n) = "-" ++ String.ofList (Nat.toDigits 10 (n + 1)) := by
      apply String.toList_injective
      simp [decimal, decimalChars]
    rw [sign]
    exact .append (by decide) (digits (n + 1))

theorem length_toDigits_le {n width : Nat} (positive : 0 < width) (fits : n < 10 ^ width) :
    (Nat.toDigits 10 n).length ≤ width :=
  (Nat.length_toDigits_le_iff (by decide) positive).2 fits

theorem length_decimal_le {n width : Nat} (positive : 0 < width) (fits : n < 10 ^ width) :
    (decimal n).length ≤ width := by
  change (String.ofList (Nat.toDigits 10 n)).length ≤ width
  rw [String.length_ofList]
  exact length_toDigits_le positive fits

theorem length_decimal_int64 (n : Int64) : (decimal n.toInt).length ≤ 20 := by
  have low := n.le_toInt
  have high := n.toInt_lt
  cases value : n.toInt with
  | ofNat m =>
    rw [value, Int.ofNat_eq_natCast] at high
    exact length_decimal_le (by decide) (by omega)
  | negSucc m =>
    -- The least number has nineteen digits and a sign.
    change (String.ofList ('-' :: Nat.toDigits 10 (m + 1))).length ≤ 20
    rw [String.length_ofList, List.length_cons]
    have digits : (Nat.toDigits 10 (m + 1)).length ≤ 19 :=
      length_toDigits_le (by decide) (by omega)
    omega

def spaces (n : Nat) : String := String.ofList (List.replicate n ' ')

theorem padRight_eq (width : Nat) (text : String) :
    padRight width text = text ++ spaces (width - text.length) := by
  rw [padRight, String.length_toList, spaces]

theorem solid_of_mem_words {cs w : List Char} (mem : w ∈ words cs) :
    ∀ c ∈ w, isBlank c = false := by
  fun_induction words cs with
  | case1 cs none => cases mem
  | case2 cs first rest front _ ih =>
    rcases List.mem_cons.1 mem with rfl | mem
    · have solid : isBlank first = false := by
        have stop := List.head?_dropWhile_not isBlank cs
        rw [front] at stop
        simpa using stop
      intro c mem
      rcases List.mem_cons.1 mem with rfl | mem
      · exact solid
      · simpa using List.all_eq_true.1 List.all_takeWhile c mem
    · exact ih mem

theorem mem_intercalate {α : Type} {separator : List α} {pieces : List (List α)} {a : α}
    (mem : a ∈ separator.intercalate pieces) : a ∈ separator ∨ ∃ piece ∈ pieces, a ∈ piece := by
  induction pieces with
  | nil => simp at mem
  | cons piece pieces ih =>
    cases pieces with
    | nil =>
      rw [List.intercalate_singleton] at mem
      exact .inr ⟨piece, List.mem_cons_self, mem⟩
    | cons next pieces =>
      rw [List.intercalate_cons_cons, List.mem_append, List.mem_append] at mem
      rcases mem with (mem | mem) | mem
      · exact .inr ⟨piece, List.mem_cons_self, mem⟩
      · exact .inl mem
      · rcases ih mem with between | ⟨other, listed, mem⟩
        · exact .inl between
        · exact .inr ⟨other, List.mem_cons_of_mem _ listed, mem⟩

theorem mem_singleLine {text : String} {c : Char} (mem : c ∈ (singleLine text).toList) :
    c = ' ' ∨ isBlank c = false := by
  rw [singleLine, String.toList_intercalate] at mem
  rcases mem_intercalate mem with space | ⟨piece, listed, mem⟩
  · exact .inl (by simpa using space)
  · obtain ⟨word, spelled, rfl⟩ : ∃ word ∈ words text.toList, word = piece := by
      simpa [List.map_map, Function.comp_def] using listed
    exact .inr (solid_of_mem_words spelled c mem)

end Text

namespace Report

open Text

theorem mem_truncate {width : Nat} {text : String} {c : Char}
    (mem : c ∈ (truncate width text).toList) : c ∈ text.toList ∨ c = '.' := by
  unfold truncate at mem
  dsimp only at mem
  split at mem
  · rw [String.toList_append, String.toList_ofList, List.mem_append] at mem
    rcases mem with mem | mem
    · exact .inl (List.mem_of_mem_take mem)
    · exact .inr (by simpa using mem)
  · exact .inl mem

theorem length_truncate_le {width : Nat} (wide : 3 ≤ width) (text : String) :
    (truncate width text).length ≤ width := by
  unfold truncate
  dsimp only
  split
  · rw [String.length_append, String.length_ofList, List.length_take]
    have points : "...".length = 3 := rfl
    omega
  · rename_i narrow
    rw [← String.length_toList]
    omega

theorem monthName_fits (date : Date) : Printable date.monthName ∧ date.monthName.length = 3 := by
  have each : ∀ m < 13, 1 ≤ m →
      Printable (["Jan", "Feb", "Mar", "Apr", "May", "Jun", "Jul", "Aug", "Sep", "Oct", "Nov",
        "Dec"].getD (m - 1) "") ∧
      (["Jan", "Feb", "Mar", "Apr", "May", "Jun", "Jul", "Aug", "Sep", "Oct", "Nov",
        "Dec"].getD (m - 1) "").length = 3 := by decide
  obtain ⟨low, high⟩ := date.month_valid
  exact each date.month (by omega) low

theorem day_lt (date : Date) : date.day < 10 ^ 2 := by
  have high := Nat.le_trans date.day_valid.2 (Instant.monthLength_le _ _)
  omega

theorem shortDate_fits (t : Instant) : Printable (shortDate t) ∧ (shortDate t).length = 6 := by
  obtain ⟨printable, length⟩ := monthName_fits t.date
  obtain ⟨digits, two, -⟩ := zeroPadded_digits (by decide) (day_lt t.date)
  refine ⟨(printable.append (by decide)).append (printable_of_digits digits), ?_⟩
  rw [String.length_toList] at two
  have space : " ".length = 1 := rfl
  rw [shortDate, String.length_append, String.length_append, length, two, space]

theorem ageOf_cases (created now : Instant) :
    Instant.secondsFrom created now < 60 ∧ ageOf created now = "just now" ∨
    60 ≤ Instant.secondsFrom created now ∧
      ((∃ n : Nat, n < 10 ^ 2 ∧ ∃ unit ∈ ["m", "h", "d"], ageOf created now = decimal n ++ unit) ∨
        ageOf created now = shortDate created) := by
  unfold ageOf
  generalize Instant.secondsFrom created now = seconds
  dsimp only
  have counted {n : Int} (low : 0 ≤ n) (high : n < 100) (unit : String)
      (known : unit ∈ ["m", "h", "d"]) :
      ∃ m : Nat, m < 10 ^ 2 ∧
        ∃ unit' ∈ ["m", "h", "d"], decimal n ++ unit = decimal m ++ unit' := by
    obtain ⟨m, rfl⟩ := Int.eq_ofNat_of_zero_le low
    exact ⟨m, by omega, unit, known, rfl⟩
  split
  · exact .inl ⟨by assumption, rfl⟩
  · refine .inr ⟨by omega, ?_⟩
    split
    · exact .inl (counted (by omega) (by omega) "m" (by simp))
    · split
      · exact .inl (counted (by omega) (by omega) "h" (by simp))
      · split
        · exact .inl (counted (by omega) (by omega) "d" (by simp))
        · exact .inr rfl

theorem printable_age (created : Option Instant) (now : Instant) : Printable (age created now) := by
  cases created with
  | none => exact (by decide : Printable "")
  | some created =>
    have units : ∀ unit ∈ ["m", "h", "d"], Printable unit := by decide
    change Printable (ageOf created now)
    rcases ageOf_cases created now with ⟨-, new⟩ | ⟨-, ⟨n, -, unit, known, counted⟩ | date⟩
    · rw [new]
      decide
    · rw [counted]
      exact (printable_decimal n).append (units unit known)
    · rw [date]
      exact (shortDate_fits created).1

/-- Not a minute has passed since the status was created. -/
def isNew (now : Instant) (t : Status) : Bool :=
  match t.post.createdAt with
  | some created => Instant.secondsFrom created now < 60
  | none => false

theorem age_new {now : Instant} {t : Status} (new : isNew now t = true) :
    age t.post.createdAt now = "just now" := by
  unfold isNew at new
  split at new
  · rename_i created found
    have recent : Instant.secondsFrom created now < 60 := of_decide_eq_true new
    rw [found]
    rcases ageOf_cases created now with ⟨-, label⟩ | ⟨late, -⟩
    · exact label
    · omega
  · cases new

theorem length_age_le {now : Instant} {t : Status} (old : isNew now t = false) :
    (age t.post.createdAt now).length ≤ 6 := by
  unfold isNew at old
  split at old
  · rename_i created found
    have late : ¬ Instant.secondsFrom created now < 60 := of_decide_eq_false old
    have units : ∀ unit ∈ ["m", "h", "d"], unit.length = 1 := by decide
    rw [found]
    change (ageOf created now).length ≤ 6
    rcases ageOf_cases created now with ⟨recent, -⟩ | ⟨-, ⟨n, fits, unit, known, counted⟩ | date⟩
    · omega
    · have digits := length_decimal_le (by decide) fits
      rw [counted, String.length_append, units unit known]
      omega
    · exact Nat.le_of_eq ((congrArg String.length date).trans (shortDate_fits created).2)
  · rename_i unknown
    rw [unknown]
    exact Nat.zero_le 6

theorem lines_cons (l : String) (ls : List String) : lines (l :: ls) = l ++ "\n" ++ lines ls := by
  rw [lines, List.map_cons, String.join_cons, lines]

theorem statusTable_cons (colors : Bool) (now : Instant) (t : Status) (others : List Status) :
    statusTable colors now (t :: others) =
      lines (header colors :: (t :: others).map (statusRow colors now)) :=
  rfl

def shownNames (t : Status) : List String :=
  truncate 16 t.author.screenName :: (t.retweeter?.map User.screenName).toList

def shownText (t : Status) : String := truncate textWidth (singleLine t.origin.text)

end Report

end TimelineFilter
