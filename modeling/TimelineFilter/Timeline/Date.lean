namespace TimelineFilter

def isLeapYear (year : Int) : Bool := year % 4 == 0 && (year % 100 != 0 || year % 400 == 0)

def monthLength (year : Int) (month : Nat) : Nat :=
  if month = 2 then if isLeapYear year then 29 else 28
  else if month = 4 ∨ month = 6 ∨ month = 9 ∨ month = 11 then 30
  else 31

theorem monthLength_pos (year : Int) (month : Nat) : 1 ≤ monthLength year month := by
  unfold monthLength
  repeat' split
  all_goals decide

structure Date where
  year : Int
  month : Nat
  day : Nat
  month_valid : 1 ≤ month ∧ month ≤ 12
  day_valid : 1 ≤ day ∧ day ≤ monthLength year month
deriving DecidableEq

namespace Date

def ofNumbers? (year : Int) (month day : Nat) : Option Date :=
  if m : 1 ≤ month ∧ month ≤ 12 then
    if d : 1 ≤ day ∧ day ≤ monthLength year month then some ⟨year, month, day, m, d⟩ else none
  else none

/-- Counts days, with 0 for 1970-01-01. A year is taken to start in March. -/
def number (date : Date) : Int :=
  let year := if date.month ≤ 2 then date.year - 1 else date.year
  let month := (date.month + 9) % 12
  365 * year + year / 4 - year / 100 + year / 400
    + ((153 * month + 2) / 5 + date.day : Nat) - 719469

def next (date : Date) : Date :=
  if h : date.day < monthLength date.year date.month then
    { date with day := date.day + 1, day_valid := ⟨Nat.le_add_left _ _, h⟩ }
  else if h : date.month < 12 then
    ⟨date.year, date.month + 1, 1, ⟨Nat.le_add_left _ _, h⟩, ⟨Nat.le_refl _, monthLength_pos _ _⟩⟩
  else ⟨date.year + 1, 1, 1, by decide, ⟨Nat.le_refl _, monthLength_pos _ _⟩⟩

def previous (date : Date) : Date :=
  if h : 1 < date.day then
    { date with
      day := date.day - 1
      day_valid := by have := date.day_valid; omega }
  else if h : 1 < date.month then
    ⟨date.year, date.month - 1, monthLength date.year (date.month - 1),
      by have := date.month_valid; omega, ⟨monthLength_pos _ _, Nat.le_refl _⟩⟩
  else ⟨date.year - 1, 12, 31, by decide, by simp [monthLength]⟩

def plus (date : Date) (days : Nat) : Date := days.repeat next date

def epoch : Date := ⟨1970, 1, 1, by decide, by decide⟩

def monthName (date : Date) : String :=
  ["Jan", "Feb", "Mar", "Apr", "May", "Jun", "Jul", "Aug", "Sep", "Oct", "Nov", "Dec"].getD
    (date.month - 1) ""

end Date

example : (Date.ofNumbers? 1970 1 1).map Date.number = some 0 := by decide
example : (Date.ofNumbers? 2000 3 1).map Date.number = some 11017 := by decide
example : (Date.ofNumbers? 2023 2 29).isNone := by decide
example : (Date.epoch.plus 789).number = 789 := by decide +kernel

end TimelineFilter
