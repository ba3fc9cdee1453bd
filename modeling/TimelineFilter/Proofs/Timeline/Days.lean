import TimelineFilter.Timeline.Instant

namespace TimelineFilter

namespace Date

theorem number_next (date : Date) : date.next.number = date.number + 1 := by
  obtain ⟨year, month, day, month_valid, day_valid⟩ := date
  unfold next
  dsimp only
  split
  · simp only [number]
    omega
  · rename_i last
    obtain rfl : day = monthLength year month := by omega
    split
    · rename_i within
      by_cases february : month = 2
      · subst february
        have leap : isLeapYear year = true ↔ year % 4 = 0 ∧ (year % 100 ≠ 0 ∨ year % 400 = 0) := by
          simp [isLeapYear]
        cases extra : isLeapYear year
        all_goals
          simp [extra] at leap
          simp [number, monthLength, extra]
          omega
      · have others : month = 1 ∨ month = 3 ∨ month = 4 ∨ month = 5 ∨ month = 6 ∨ month = 7 ∨
            month = 8 ∨ month = 9 ∨ month = 10 ∨ month = 11 := by omega
        rcases others with rfl | rfl | rfl | rfl | rfl | rfl | rfl | rfl | rfl | rfl
        all_goals
          simp [number, monthLength]
          omega
    · obtain rfl : month = 12 := by omega
      simp [number, monthLength]
      omega

theorem number_plus (date : Date) (days : Nat) : (date.plus days).number = date.number + days := by
  induction days with
  | zero => simp [plus, Nat.repeat]
  | succ days ih =>
    change (date.plus days).next.number = _
    rw [number_next, ih]
    omega

end Date

theorem Instant.nanosecondsFrom_ofNanoseconds (m n : Nat) :
    nanosecondsFrom (ofNanoseconds m) (ofNanoseconds n) = n - m := by
  unfold nanosecondsFrom ofNanoseconds
  simp only [Date.number_plus]
  -- The clock knows no leap seconds.
  rw [if_neg (by omega), if_neg (by omega)]
  omega

end TimelineFilter
