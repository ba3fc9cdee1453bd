import TimelineFilter.Timeline.Instant
import TimelineFilter.Proofs.Runs

namespace TimelineFilter.Instant

open Text (zeroPadded zeroPadded_digits)

/-- The year is written without a sign. -/
def InFourDigits (t : Instant) : Prop := 0 ≤ t.date.year ∧ t.date.year ≤ 9999

theorem blank_of_isDigit {c : Char} (digit : c.isDigit = true) : Text.isBlank c = false := by
  have solid : ∀ n < 58, 48 ≤ n → Text.blankRanges.has n = false := by decide
  obtain ⟨low, high⟩ : 48 ≤ c.toNat ∧ c.toNat ≤ 57 := by
    simpa [Char.isDigit, UInt32.le_iff_toNat_le] using digit
  exact solid c.toNat (by omega) low

theorem trimBlanks_solid {c : Char} (solid : Text.isBlank c = false) (rest : List Char) :
    Text.trimBlanks (c :: rest) = c :: rest := by
  rw [Text.trimBlanks, List.dropWhile_cons_of_neg (by simp [solid])]

section

variable {w n : Nat} (positive : 0 < w) (fits : n < 10 ^ w) {rest : List Char}

include positive fits

theorem zeroPadded_cons : ∃ d more, (zeroPadded w n).toList = d :: more ∧ d.isDigit = true := by
  obtain ⟨all, length, -⟩ := zeroPadded_digits positive fits
  cases digits : (zeroPadded w n).toList with
  | nil =>
    rw [digits] at length
    simp only [List.length_nil] at length
    omega
  | cons d more => exact ⟨d, more, rfl, all d (by simp [digits])⟩

theorem readDigits_zeroPadded :
    readDigits w ((zeroPadded w n).toList ++ rest)
      = .ok ((zeroPadded w n).toList, rest) := by
  obtain ⟨all, length, -⟩ := zeroPadded_digits positive fits
  obtain ⟨d, more, digits, first⟩ := zeroPadded_cons positive fits
  have taken : (((zeroPadded w n).toList ++ rest).take w).takeWhile Char.isDigit
      = (zeroPadded w n).toList := by
    rw [List.take_left' length]
    have nothing : ∀ c ∈ ([] : List Char).head?, c.isDigit = false := by simp
    simpa using (Text.span_run all nothing).1
  have left : ((zeroPadded w n).toList ++ rest).drop (zeroPadded w n).toList.length = rest :=
    List.drop_left
  rw [digits] at taken left ⊢
  rw [List.cons_append] at taken left ⊢
  simp only [readDigits, first, if_true, taken, left]

theorem trimBlanks_zeroPadded :
    Text.trimBlanks ((zeroPadded w n).toList ++ rest) = (zeroPadded w n).toList ++ rest := by
  obtain ⟨d, more, digits, first⟩ := zeroPadded_cons positive fits
  rw [digits]
  exact trimBlanks_solid (blank_of_isDigit first) _

theorem readNumber_zeroPadded {low high : Nat} (within : low ≤ n ∧ n ≤ high) :
    readNumber w low high ((zeroPadded w n).toList ++ rest) = .ok (n, rest) := by
  obtain ⟨-, -, value⟩ := zeroPadded_digits positive fits
  unfold readNumber
  rw [trimBlanks_zeroPadded positive fits, readDigits_zeroPadded positive fits]
  simp only [value, if_pos within]

theorem readSeparator_zeroPadded {c : Char} (solid : Text.isBlank c = false) :
    readSeparator c (c :: ((zeroPadded w n).toList ++ rest))
      = .ok ((), (zeroPadded w n).toList ++ rest) := by
  simp only [readSeparator, trimBlanks_solid solid, trimBlanks_zeroPadded positive fits, if_true]

end

theorem readYear_zeroPadded {year : Nat} (fits : year < 10 ^ 4) {rest : List Char} :
    readYear ((zeroPadded 4 year).toList ++ rest) = .ok (year, rest) := by
  obtain ⟨-, -, value⟩ := zeroPadded_digits (by decide) fits
  have read : readDigits 4 ((zeroPadded 4 year).toList ++ rest)
      = .ok ((zeroPadded 4 year).toList, rest) := readDigits_zeroPadded (by decide) fits
  unfold readYear
  rw [trimBlanks_zeroPadded (by decide) fits]
  obtain ⟨d, more, digits, first⟩ := zeroPadded_cons (by decide) fits
  rw [digits] at read value ⊢
  split
  · rename_i negative
    obtain ⟨rfl, -⟩ := List.cons.inj negative
    cases first
  · rename_i positive
    obtain ⟨rfl, -⟩ := List.cons.inj positive
    cases first
  · simp only [read, value]

theorem readFraction_zeroPadded (width : Nat) {n : Nat} (positive : 0 < width) (narrow : width ≤ 9)
    (fits : n < 10 ^ width) :
    readFraction ('.' :: ((zeroPadded width n).toList ++ ['Z']))
      = .ok (n * 10 ^ (9 - width), ['Z']) := by
  obtain ⟨all, length, value⟩ := zeroPadded_digits positive fits
  obtain ⟨d, more, digits, first⟩ := zeroPadded_cons positive fits
  have stop : ∀ c ∈ (['Z'].take (9 - width)).head?, c.isDigit = false := by
    intro c mem
    obtain rfl : c = 'Z' := by simpa using List.mem_of_mem_take (List.mem_of_mem_head? mem)
    rfl
  have taken : (((zeroPadded width n).toList ++ ['Z']).take 9).takeWhile Char.isDigit
      = (zeroPadded width n).toList := by
    rw [List.take_append, List.take_of_length_le (by omega), length]
    exact (Text.span_run all stop).1
  have left : ((zeroPadded width n).toList ++ ['Z']).drop (zeroPadded width n).toList.length
      = ['Z'] := List.drop_left
  have read : readDigits 9 ((zeroPadded width n).toList ++ ['Z'])
      = .ok ((zeroPadded width n).toList, ['Z']) := by
    rw [digits, List.cons_append] at taken left ⊢
    simp only [readDigits, first, if_true, taken, left]
  simp only [readFraction, read, value, length]
  rfl

theorem readFraction_renderFraction {nano : Nat} (fits : nano < 10 ^ 9) :
    readFraction ((renderFraction nano).toList ++ ['Z']) = .ok (nano, ['Z']) := by
  unfold renderFraction
  split
  · rename_i none
    rw [none]
    rfl
  · split
    · rename_i millis
      have read := readFraction_zeroPadded 3 (n := nano / 1000000) (by decide) (by decide)
        (by omega)
      have whole : nano / 1000000 * 10 ^ (9 - 3) = nano := by omega
      rw [whole] at read
      simpa using read
    · split
      · rename_i micros
        have read := readFraction_zeroPadded 6 (n := nano / 1000) (by decide) (by decide)
          (by omega)
        have whole : nano / 1000 * 10 ^ (9 - 6) = nano := by omega
        rw [whole] at read
        simpa using read
      · have read := readFraction_zeroPadded 9 (by decide) (by decide) fits
        simpa using read

def numbers (t : Instant) : Numbers :=
  { year := t.date.year, month := t.date.month, day := t.date.day
    hour := t.second / 3600, minute := t.second / 60 % 60
    second := t.second % 60 + if 1000000000 ≤ t.nano then 1 else 0
    nano := t.nano % 1000000000, offset := 0 }

theorem monthLength_le (year : Int) (month : Nat) : monthLength year month ≤ 31 := by
  unfold monthLength
  repeat' split
  all_goals decide

theorem render_toList {t : Instant} {year : Nat} (same : t.date.year = year) (high : year ≤ 9999) :
    t.render.toList =
      (zeroPadded 4 year).toList ++ '-' :: ((zeroPadded 2 t.numbers.month).toList
        ++ '-' :: ((zeroPadded 2 t.numbers.day).toList
        ++ 'T' :: ((zeroPadded 2 t.numbers.hour).toList
        ++ ':' :: ((zeroPadded 2 t.numbers.minute).toList
        ++ ':' :: ((zeroPadded 2 t.numbers.second).toList
        ++ ((renderFraction t.numbers.nano).toList ++ ['Z'])))))) := by
  have unsigned : renderYear t.date.year = zeroPadded 4 year := by
    rw [renderYear, same, if_pos ⟨Int.natCast_nonneg year, by omega⟩, Int.toNat_natCast]
  simp [render, unsigned, numbers]

theorem readNumbers_render {t : Instant} (years : t.InFourDigits) :
    readNumbers t.render.toList = .ok t.numbers := by
  obtain ⟨low, high⟩ := years
  obtain ⟨year, same⟩ := Int.eq_ofNat_of_zero_le low
  have high : year ≤ 9999 := by omega
  obtain ⟨month_pos, month_le⟩ := t.date.month_valid
  obtain ⟨day_pos, day_le⟩ := t.date.day_valid
  have day_le := Nat.le_trans day_le (monthLength_le t.date.year t.date.month)
  have second_lt := t.second_lt
  have month : 1 ≤ t.numbers.month ∧ t.numbers.month ≤ 12 := ⟨month_pos, month_le⟩
  have day : 1 ≤ t.numbers.day ∧ t.numbers.day ≤ 31 := ⟨day_pos, day_le⟩
  have hour : 0 ≤ t.numbers.hour ∧ t.numbers.hour ≤ 23 := by
    simp only [numbers]
    omega
  have minute : 0 ≤ t.numbers.minute ∧ t.numbers.minute ≤ 59 := by
    simp only [numbers]
    omega
  have second : 0 ≤ t.numbers.second ∧ t.numbers.second ≤ 60 := by
    simp only [numbers]
    split <;> omega
  have fits : year < 10 ^ 4 := by omega
  have nano : t.numbers.nano < 10 ^ 9 := by
    simp only [numbers]
    omega
  have dash : Text.isBlank '-' = false := by decide
  have colon : Text.isBlank ':' = false := by decide
  have readFraction := readFraction_renderFraction nano
  have readOffset : readOffset ['Z'] = .ok (0, []) := rfl
  rw [render_toList same high]
  simp only [readNumbers, bind, Except.bind,
    readYear_zeroPadded fits,
    readSeparator_zeroPadded (w := 2) (n := t.numbers.month) (by decide) (by omega) dash,
    readNumber_zeroPadded (w := 2) (n := t.numbers.month) (by decide) (by omega) month,
    readSeparator_zeroPadded (w := 2) (n := t.numbers.day) (by decide) (by omega) dash,
    readNumber_zeroPadded (w := 2) (n := t.numbers.day) (by decide) (by omega) day,
    readMiddle, true_or, if_true,
    readNumber_zeroPadded (w := 2) (n := t.numbers.hour) (by decide) (by omega) hour,
    readSeparator_zeroPadded (w := 2) (n := t.numbers.minute) (by decide) (by omega) colon,
    readNumber_zeroPadded (w := 2) (n := t.numbers.minute) (by decide) (by omega) minute,
    readSeparator_zeroPadded (w := 2) (n := t.numbers.second) (by decide) (by omega) colon,
    readNumber_zeroPadded (w := 2) (n := t.numbers.second) (by decide) (by omega) second,
    readFraction, readOffset, Text.trimBlanks, List.dropWhile_nil]
  rw [← same]
  rfl

theorem ofNumbers?_date (date : Date) :
    Date.ofNumbers? date.year date.month date.day = some date := by
  rw [Date.ofNumbers?, dif_pos date.month_valid, dif_pos date.day_valid]

theorem ofLocal_within (t : Instant) {second : Int} (same : second = t.second)
    (leap : 1000000000 ≤ t.nano → second % 60 = 59) :
    ofLocal t.date second t.nano t.nano_lt leap = t := by
  subst same
  have within := t.second_lt
  have moved : (if (t.second : Int) < 0 then t.date.previous
      else if 86400 ≤ (t.second : Int) then t.date.next else t.date) = t.date := by
    rw [if_neg (by omega), if_neg (by omega)]
  have kept : ((t.second : Int) % 86400).toNat = t.second := by omega
  cases t
  simp only [ofLocal, Instant.mk.injEq]
  exact ⟨moved, kept, trivial⟩

/-- The numbers of a point in time name it. The sixtieth second tells a leap second. -/
theorem ofNumbers_numbers {t : Instant} (years : t.InFourDigits) : ofNumbers t.numbers = .ok t := by
  obtain ⟨low, high⟩ := years
  have inRange : yearInRange t.date.year = true := by
    simp only [yearInRange, Bool.and_eq_true, decide_eq_true_eq]
    omega
  have within := t.second_lt
  have leap := t.leap
  -- The extra second is written only in a leap second, which lies at the end of its minute.
  have isLeap : t.numbers.second = 60 ↔ 1000000000 ≤ t.nano := by
    simp only [numbers]
    split <;> omega
  have nano : (if t.numbers.second = 60 then t.numbers.nano + 1000000000 else t.numbers.nano)
      = t.nano := by
    have below := t.nano_lt
    simp only [isLeap]
    simp only [numbers]
    split <;> omega
  have second : (t.numbers.hour * 3600 + t.numbers.minute * 60
      + (if t.numbers.second = 60 then 59 else t.numbers.second) - t.numbers.offset : Int)
      = t.second := by
    simp only [isLeap]
    simp only [numbers]
    split <;> omega
  have date : Date.ofNumbers? t.numbers.year t.numbers.month t.numbers.day = some t.date :=
    ofNumbers?_date t.date
  have valid : t.nano < 2000000000 ∧ (1000000000 ≤ t.nano → (t.second : Int) % 60 = 59) :=
    ⟨t.nano_lt, by omega⟩
  unfold ofNumbers
  rw [if_neg (by simpa [numbers] using inRange), date]
  dsimp only
  rw [if_neg (by simp [numbers])]
  simp only [nano, second]
  rw [dif_pos valid, ofLocal_within t rfl valid.2, if_pos inRange]

theorem ofText_render {t : Instant} (years : t.InFourDigits) : ofText t.render = .ok t := by
  rw [ofText, readNumbers_render years]
  exact ofNumbers_numbers years

end TimelineFilter.Instant
