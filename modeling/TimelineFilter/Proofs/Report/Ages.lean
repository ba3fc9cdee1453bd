import TimelineFilter.Proofs.Report.Cells
import TimelineFilter.Proofs.Timeline.Days

/-! What the label of an age says about the time that has passed. The labels share all times out
among them. Days are counted to the end of the eighth, so that dates do not begin behind a week. -/
namespace TimelineFilter

namespace Text

theorem toDigits_injective {n m : Nat} (same : Nat.toDigits 10 n = Nat.toDigits 10 m) : n = m := by
  have read := natural?_toDigits n
  rw [same, natural?_toDigits m] at read
  exact (Option.some.inj read).symm

theorem decimal_injective {n m : Int} (same : decimal n = decimal m) : n = m := by
  have same : decimalChars n = decimalChars m := String.ofList_injective same
  -- A sign is no digit.
  have unsigned {k l : Nat} : Nat.toDigits 10 k ≠ '-' :: Nat.toDigits 10 l := by
    intro same
    have digit : '-'.isDigit = true := isDigit_of_toDigits (n := k) '-' (by simp [same])
    exact absurd digit (by decide)
  cases n with
  | ofNat n =>
    cases m with
    | ofNat m => exact congrArg Int.ofNat (toDigits_injective same)
    | negSucc m => exact absurd same unsigned
  | negSucc n =>
    cases m with
    | ofNat m => exact absurd same.symm unsigned
    | negSucc m =>
      have digits := toDigits_injective (List.cons.inj same).2
      exact congrArg Int.negSucc (Nat.succ.inj digits)

end Text

theorem Instant.secondsFrom_cases (a b : Instant) :
    0 ≤ nanosecondsFrom a b ∧ secondsFrom a b = nanosecondsFrom a b / 1000000000 ∨
      nanosecondsFrom a b < 0 ∧ secondsFrom a b ≤ 0 := by
  unfold secondsFrom
  rw [Int.tdiv_eq_ediv]
  have sign : Int.sign 1000000000 = 1 := rfl
  rw [sign]
  split <;> omega

namespace Report

open Text

inductive AgeUnit
  | minute | hour | day

namespace AgeUnit

def letter : AgeUnit → Char
  | .minute => 'm'
  | .hour => 'h'
  | .day => 'd'

def length : AgeUnit → Int
  | .minute => 60 * 1000000000
  | .hour => 60 * 60 * 1000000000
  | .day => 24 * 60 * 60 * 1000000000

/-- What is as old as this is no longer counted in the unit. -/
def limit : AgeUnit → Int
  | .minute => length .hour
  | .hour => length .day
  | .day => 8 * length .day

theorem letter_injective {u v : AgeUnit} (same : u.letter = v.letter) : u = v := by
  cases u <;> cases v <;> first | rfl | exact absurd same (by decide)

theorem letter_plain (u : AgeUnit) : u.letter ≠ 'w' ∧ u.letter.isDigit = false := by
  cases u <;> decide

end AgeUnit

inductive AgeLabel
  | justNow
  | counted (unit : AgeUnit) (n : Int)
  | date

namespace AgeLabel

def text (created : Instant) : AgeLabel → String
  | .justNow => "just now"
  | .counted unit n => (decimal n).push unit.letter
  | .date => shortDate created

/-- What the label says about the nanoseconds that have passed. -/
def Fits (elapsed : Int) : AgeLabel → Prop
  | .justNow => elapsed < AgeUnit.length .minute
  | .counted unit n => unit.length ≤ elapsed ∧ elapsed < unit.limit ∧ n = elapsed / unit.length
  | .date => AgeUnit.limit .day ≤ elapsed

theorem exists_fits (elapsed : Int) : ∃ label : AgeLabel, label.Fits elapsed := by
  by_cases minute : elapsed < AgeUnit.length .minute
  · exact ⟨.justNow, minute⟩
  by_cases hour : elapsed < AgeUnit.limit .minute
  · exact ⟨.counted .minute _, Int.not_lt.1 minute, hour, rfl⟩
  by_cases day : elapsed < AgeUnit.limit .hour
  · exact ⟨.counted .hour _, Int.not_lt.1 hour, day, rfl⟩
  by_cases late : elapsed < AgeUnit.limit .day
  · exact ⟨.counted .day _, Int.not_lt.1 day, late, rfl⟩
  · exact ⟨.date, Int.not_lt.1 late⟩

theorem getLast?_shortDate (t : Instant) :
    ∃ c, (shortDate t).toList.getLast? = some c ∧ c.isDigit = true := by
  obtain ⟨digits, two, -⟩ := zeroPadded_digits (by decide) (day_lt t.date)
  cases last : (zeroPadded 2 t.date.day).toList.getLast? with
  | none =>
    rw [List.getLast?_eq_none_iff.1 last] at two
    cases two
  | some c =>
    refine ⟨c, ?_, digits c (List.mem_of_getLast? last)⟩
    rw [shortDate, String.toList_append, List.getLast?_append, last]
    rfl

def mark : AgeLabel → Option Char
  | .justNow => some 'w'
  | .counted unit _ => some unit.letter
  | .date => none

theorem mark_text (created : Instant) (label : AgeLabel) :
    (label.text created).toList.getLast?.filter (!·.isDigit) = label.mark := by
  cases label with
  | justNow =>
    have last : "just now".toList.getLast?.filter (!·.isDigit) = some 'w' := by decide
    exact last
  | counted unit n => simp [text, mark, unit.letter_plain.2]
  | date =>
    obtain ⟨c, last, digit⟩ := getLast?_shortDate created
    change Option.filter _ (shortDate created).toList.getLast? = none
    simp [last, digit]

theorem text_injective {created : Instant} {a b : AgeLabel}
    (same : a.text created = b.text created) : a = b := by
  have marks : a.mark = b.mark := by rw [← mark_text created, same, mark_text]
  cases a with
  | justNow =>
    cases b with
    | justNow => rfl
    | counted v m => exact absurd (Option.some.inj marks).symm v.letter_plain.1
    | date => cases marks
  | counted u n =>
    cases b with
    | justNow => exact absurd (Option.some.inj marks) u.letter_plain.1
    | counted v m =>
      obtain rfl := AgeUnit.letter_injective (Option.some.inj marks)
      have same : (decimal n).push u.letter = (decimal m).push u.letter := same
      rw [decimal_injective (String.push_inj.1 same).1]
    | date => cases marks
  | date =>
    cases b with
    | justNow => cases marks
    | counted v m => cases marks
    | date => rfl

end AgeLabel

theorem age_of_fits {created now : Instant} {label : AgeLabel}
    (fits : label.Fits (Instant.nanosecondsFrom created now)) :
    age (some created) now = label.text created := by
  change ageOf created now = _
  unfold ageOf
  have seconds := Instant.secondsFrom_cases created now
  generalize Instant.secondsFrom created now = s at seconds ⊢
  generalize Instant.nanosecondsFrom created now = elapsed at fits seconds
  dsimp only
  -- Dividing twice, first into seconds, cuts off as much as dividing once.
  cases label with
  | justNow =>
    simp only [AgeLabel.Fits, AgeUnit.length] at fits
    rw [if_pos (by omega)]
    rfl
  | counted unit n =>
    obtain ⟨low, high, rfl⟩ := fits
    cases unit with
    | minute =>
      simp only [AgeUnit.length, AgeUnit.limit] at low high ⊢
      have same : s / 60 = elapsed / (60 * 1000000000) := by omega
      rw [if_neg (by omega), if_pos (by omega), same]
      rfl
    | hour =>
      simp only [AgeUnit.length, AgeUnit.limit] at low high ⊢
      have same : s / (60 * 60) = elapsed / (60 * 60 * 1000000000) := by omega
      rw [if_neg (by omega), if_neg (by omega), if_pos (by omega), same]
      rfl
    | day =>
      simp only [AgeUnit.length, AgeUnit.limit] at low high ⊢
      have same : s / (24 * 60 * 60) = elapsed / (24 * 60 * 60 * 1000000000) := by omega
      rw [if_neg (by omega), if_neg (by omega), if_neg (by omega), if_pos (by omega), same]
      rfl
  | date =>
    simp only [AgeLabel.Fits, AgeUnit.length, AgeUnit.limit] at fits
    rw [if_neg (by omega), if_neg (by omega), if_neg (by omega), if_neg (by omega)]
    rfl

/-- Every time has a label, and it is the one that fits. -/
theorem age_partition (created now : Instant) :
    (∃ label : AgeLabel, age (some created) now = label.text created) ∧
      ∀ label : AgeLabel, age (some created) now = label.text created ↔
        label.Fits (Instant.nanosecondsFrom created now) := by
  obtain ⟨label, fits⟩ := AgeLabel.exists_fits (Instant.nanosecondsFrom created now)
  refine ⟨⟨label, age_of_fits fits⟩, ?_⟩
  intro other
  constructor
  · intro same
    rw [age_of_fits fits] at same
    rwa [← AgeLabel.text_injective same]
  · exact age_of_fits

/-- An hour more than a week is still counted in days. -/
theorem age_week_and_hour :
    let created := Instant.ofNanoseconds 0
    let now := Instant.ofNanoseconds ((7 * 24 + 1) * 3600 * 1000000000)
    7 * AgeUnit.length .day < Instant.nanosecondsFrom created now ∧
      age (some created) now = "7d" ∧ age (some created) now ≠ shortDate created := by
  intro created now
  have elapsed : Instant.nanosecondsFrom created now = (7 * 24 + 1) * 3600 * 1000000000 :=
    Instant.nanosecondsFrom_ofNanoseconds _ _
  have week : AgeLabel.Fits (Instant.nanosecondsFrom created now) (.counted .day 7) := by
    rw [elapsed]
    exact ⟨by decide, by decide, by decide⟩
  have label := age_of_fits week
  refine ⟨by rw [elapsed]; decide, label, ?_⟩
  rw [label]
  intro date
  cases AgeLabel.text_injective (a := .counted .day 7) (b := .date) date

end Report

end TimelineFilter
