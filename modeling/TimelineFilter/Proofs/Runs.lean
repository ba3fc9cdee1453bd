import TimelineFilter.Text.Decimal
import Mathlib.Algebra.Group.Nat.Defs

namespace TimelineFilter.Text

theorem span_run {kind : Char → Bool} {run rest : List Char} (all : ∀ c ∈ run, kind c = true)
    (stop : ∀ c ∈ rest.head?, kind c = false) :
    (run ++ rest).takeWhile kind = run ∧ (run ++ rest).dropWhile kind = rest := by
  have stopped : rest.takeWhile kind = [] ∧ rest.dropWhile kind = rest := by
    cases rest with
    | nil => exact ⟨rfl, rfl⟩
    | cons c rest => simp [stop c rfl]
  rw [List.takeWhile_append_of_pos all, List.dropWhile_append_of_pos all, stopped.1, stopped.2,
    List.append_nil]
  exact ⟨rfl, rfl⟩

theorem isDigit_of_toDigits {n : Nat} : ∀ c ∈ Nat.toDigits 10 n, c.isDigit = true :=
  fun _ mem => Nat.isDigit_of_mem_toDigits (by decide) (by decide) mem

theorem digitChar_eq_zero : ∀ n < 10, n.digitChar = '0' → n = 0 := by decide

theorem toDigits_zero_leading {n : Nat} {tail : List Char}
    (digits : Nat.toDigits 10 n = '0' :: tail) : n = 0 := by
  induction n using Nat.strongRecOn generalizing tail with
  | ind n ih =>
    by_cases small : n < 10
    · rw [Nat.toDigits_of_lt_base small] at digits
      exact digitChar_eq_zero n small (List.cons.inj digits).1
    · rw [Nat.toDigits_of_base_le (by decide) (by omega)] at digits
      cases front : Nat.toDigits 10 (n / 10) with
      | nil => exact absurd front Nat.toDigits_ne_nil
      | cons d more =>
        rw [front] at digits
        obtain ⟨rfl, -⟩ := List.cons.inj digits
        have none : n / 10 = 0 := ih (n / 10) (by omega) front
        omega

theorem zeroPadded_digits {width n : Nat} (positive : 0 < width) (fits : n < 10 ^ width) :
    (∀ c ∈ (zeroPadded width n).toList, c.isDigit = true) ∧
      (zeroPadded width n).toList.length = width ∧
      Nat.ofDigitChars 10 (zeroPadded width n).toList 0 = n := by
  have narrow := (Nat.length_toDigits_le_iff (by decide : 1 < 10) positive).2 fits
  rw [zeroPadded, String.toList_ofList]
  refine ⟨?_, ?_, ?_⟩
  · intro c mem
    rcases List.mem_append.1 mem with zero | digit
    · rw [(List.mem_replicate.1 zero).2]
      decide
    · exact isDigit_of_toDigits c digit
  · rw [List.length_append, List.length_replicate]
    omega
  · rw [Nat.ofDigitChars_append, Nat.ofDigitChars_replicate_zero]
    simp [Nat.ofDigitChars_ten_toDigits]

end TimelineFilter.Text
