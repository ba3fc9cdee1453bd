import TimelineFilter.Proofs.Grammar.Names
import TimelineFilter.Text.Lower
import TimelineFilter.Token.Scan

namespace TimelineFilter.Text

variable {c d : Char} {cs ds : List Char}

theorem isAlpha_iff : c.isAlpha = true ↔ 65 ≤ c.val ∧ c.val ≤ 90 ∨ 97 ≤ c.val ∧ c.val ≤ 122 := by
  have upper : c.isUpper = true ↔ 65 ≤ c.val ∧ c.val ≤ 90 := decide_eq_true_iff
  have lower : c.isLower = true ↔ 97 ≤ c.val ∧ c.val ≤ 122 := by
    change (decide (97 ≤ c.val) && decide (c.val ≤ 122)) = true ↔ _
    rw [Bool.and_eq_true, decide_eq_true_iff, decide_eq_true_iff]
  change (c.isUpper || c.isLower) = true ↔ _
  rw [Bool.or_eq_true, upper, lower]

theorem eq_or_letters (same : c.toLower = d.toLower) :
    c = d ∨ c.isAlpha = true ∧ d.isAlpha = true := by
  have values : c.toLower.val = d.toLower.val := congrArg Char.val same
  rw [toLower_val, toLower_val] at values
  rw [isAlpha_iff, isAlpha_iff, Char.ext_iff]
  grind

theorem plain_congr {kind : Char → Bool} (plain : ∀ e, e.isAlpha = true → kind e = false)
    (same : c.toLower = d.toLower) : kind c = kind d := by
  rcases eq_or_letters same with rfl | ⟨letter, letter'⟩
  · rfl
  · rw [plain c letter, plain d letter']

theorem of_isAlpha {P : Char → Prop}
    (each : ∀ n < 128, 65 ≤ n ∧ n ≤ 90 ∨ 97 ≤ n ∧ n ≤ 122 → P (Char.ofNat n))
    (letter : c.isAlpha = true) : P c := by
  have range : 65 ≤ c.toNat ∧ c.toNat ≤ 90 ∨ 97 ≤ c.toNat ∧ c.toNat ≤ 122 := isAlpha_iff.1 letter
  rw [← Char.ofNat_toNat c]
  exact each c.toNat (by omega) range

theorem ascii_of_isAlpha (letter : c.isAlpha = true) : c.toNat < 128 :=
  of_isAlpha (P := fun c => c.toNat < 128) (by decide) letter

theorem cased_of_isAlpha (letter : c.isAlpha = true) :
    caseIgnorableRanges.has c.toNat = false ∧ casedRanges.has c.toNat = true :=
  of_isAlpha
    (P := fun c => caseIgnorableRanges.has c.toNat = false ∧ casedRanges.has c.toNat = true)
    (by decide) letter

theorem ne_of_isAlpha (letter : c.isAlpha = true) (other : d.isAlpha = false) : c ≠ d := by
  rintro rfl
  rw [letter] at other
  cases other

theorem eq_of_toLower_eq (other : c.isAlpha = false) (same : c.toLower = d.toLower) : d = c := by
  rcases eq_or_letters same with rfl | ⟨letter, -⟩
  · rfl
  · rw [letter] at other
    cases other

theorem isDelimiter_congr (same : c.toLower = d.toLower) : isDelimiter c = isDelimiter d :=
  plain_congr (fun _ => of_isAlpha (P := (isDelimiter · = false)) (by decide)) same

theorem isTokenBlank_congr (same : c.toLower = d.toLower) : isTokenBlank c = isTokenBlank d :=
  plain_congr (fun _ => of_isAlpha (P := (isTokenBlank · = false)) (by decide)) same

theorem lowerChar_congr (same : c.toLower = d.toLower) : lowerChar c = lowerChar d := by
  rcases eq_or_letters same with rfl | ⟨letter, letter'⟩
  · rfl
  · rw [lowerChar, lowerChar, if_pos (ascii_of_isAlpha letter), if_pos (ascii_of_isAlpha letter'),
      same]

theorem meetsCased_cons (c : Char) (cs : List Char) :
    meetsCased (c :: cs) =
      if caseIgnorableRanges.has c.toNat then meetsCased cs else casedRanges.has c.toNat := by
  unfold meetsCased
  rw [List.dropWhile_cons]
  cases caseIgnorableRanges.has c.toNat <;> rfl

theorem meetsCased_congr (same : cs.map Char.toLower = ds.map Char.toLower) :
    meetsCased cs = meetsCased ds := by
  induction cs generalizing ds with
  | nil => rw [List.map_eq_nil_iff.1 same.symm]
  | cons c cs ih =>
    obtain ⟨d, ds, rfl, first, rest⟩ := List.map_eq_cons_iff.1 same.symm
    rw [meetsCased_cons, meetsCased_cons, ih rest.symm]
    rcases eq_or_letters first with rfl | ⟨letter, letter'⟩
    · rfl
    · obtain ⟨solid, cased⟩ := cased_of_isAlpha letter
      obtain ⟨solid', cased'⟩ := cased_of_isAlpha letter'
      rw [solid, solid', cased, cased']

/-- Of its neighbours a sigma sees only whether they are letters. -/
theorem lowerAfter_congr {before before' : List Char}
    (front : before.map Char.toLower = before'.map Char.toLower)
    (same : cs.map Char.toLower = ds.map Char.toLower) :
    lowerAfter before cs = lowerAfter before' ds := by
  induction cs generalizing ds before before' with
  | nil => rw [List.map_eq_nil_iff.1 same.symm, lowerAfter, lowerAfter]
  | cons c cs ih =>
    obtain ⟨d, ds, rfl, first, rest⟩ := List.map_eq_cons_iff.1 same.symm
    have longer : (c :: before).map Char.toLower = (d :: before').map Char.toLower := by
      rw [List.map_cons, List.map_cons, first, front]
    rw [lowerAfter, lowerAfter, ih longer rest.symm, endsWord, endsWord, meetsCased_congr front,
      meetsCased_congr rest.symm, lowerChar_congr first.symm]
    rcases eq_or_letters first with rfl | ⟨letter, letter'⟩
    · rfl
    · rw [if_neg (ne_of_isAlpha letter (by decide)), if_neg (ne_of_isAlpha letter' (by decide))]

theorem lower_congr {a b : String} (same : sameIgnoringCase a b = true) : lower a = lower b :=
  congrArg String.ofList (lowerAfter_congr rfl (sameIgnoringCase_iff.1 same))

theorem isAlpha_of_isDigit (digit : c.isDigit = true) : c.isAlpha = false := by
  cases letter : c.isAlpha with
  | false => rfl
  | true =>
    rw [of_isAlpha (P := fun c => c.isDigit = false) (by decide) letter] at digit
    cases digit

theorem eq_of_digits (digits : ∀ c ∈ cs, c.isDigit = true)
    (same : cs.map Char.toLower = ds.map Char.toLower) : ds = cs := by
  induction cs generalizing ds with
  | nil => exact List.map_eq_nil_iff.1 same.symm
  | cons c cs ih =>
    obtain ⟨d, ds, rfl, first, rest⟩ := List.map_eq_cons_iff.1 same.symm
    obtain ⟨digit, digits⟩ := List.forall_mem_cons.1 digits
    rw [ih digits rest.symm, eq_of_toLower_eq (isAlpha_of_isDigit digit) first.symm]

end TimelineFilter.Text
