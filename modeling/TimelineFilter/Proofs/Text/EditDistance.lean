import TimelineFilter.Text.Distance
import Mathlib.Order.Bounds.Basic

namespace TimelineFilter.Text

/-- One character is inserted, deleted or replaced, at the front of a word or further behind. -/
inductive Edit : List Char → List Char → Prop
  | insert (c : Char) (rest : List Char) : Edit rest (c :: rest)
  | delete (c : Char) (rest : List Char) : Edit (c :: rest) rest
  | replace (c d : Char) (rest : List Char) : Edit (c :: rest) (d :: rest)
  | behind (c : Char) {rest rest' : List Char} (edit : Edit rest rest') :
      Edit (c :: rest) (c :: rest')

/-- So many edits, one after the other, lead from one word to the other. -/
inductive Edits : Nat → List Char → List Char → Prop
  | none (xs : List Char) : Edits 0 xs xs
  | edit {n : Nat} {xs ys zs : List Char} (first : Edit xs ys) (others : Edits n ys zs) :
      Edits (n + 1) xs zs

theorem edits_zero_iff {xs ys : List Char} : Edits 0 xs ys ↔ xs = ys := by
  constructor
  · rintro ⟨⟩
    rfl
  · rintro rfl
    exact .none xs

theorem Edits.behind (c : Char) {n : Nat} {xs ys : List Char} (edits : Edits n xs ys) :
    Edits n (c :: xs) (c :: ys) := by
  induction edits with
  | none xs => exact .none (c :: xs)
  | edit first _ ih => exact .edit (.behind c first) ih

def distances (xs ys : List Char) : List Nat :=
  ys.foldr (fun y row => distanceRow y xs row) (lengthRow xs)

theorem tail_distances (x : Char) (xs ys : List Char) :
    (distances (x :: xs) ys).tail = distances xs ys := by
  induction ys with
  | nil => rfl
  | cons y ys ih =>
    change distanceRow y xs (distances (x :: xs) ys).tail = distanceRow y xs (distances xs ys)
    rw [ih]

section Equations

variable (x y : Char) (xs ys : List Char)

@[simp] theorem distance_nil_right : distance xs [] = xs.length := by
  cases xs <;> rfl

@[simp] theorem distance_nil_left : distance [] ys = ys.length := by
  induction ys with
  | nil => rfl
  | cons y ys ih =>
    change distance [] ys + 1 = _
    rw [ih, List.length_cons]

theorem distance_cons_cons :
    distance (x :: xs) (y :: ys) =
      min (distance xs ys + if x = y then 0 else 1)
        (min (distance (x :: xs) ys + 1) (distance xs (y :: ys) + 1)) := by
  change min ((distances (x :: xs) ys).tail.headD 0 + _)
    (min (distance (x :: xs) ys + 1)
      ((distanceRow y xs (distances (x :: xs) ys).tail).headD 0 + 1)) = _
  rw [tail_distances]
  rfl

end Equations

theorem distance_self (xs : List Char) : distance xs xs = 0 := by
  induction xs with
  | nil => rfl
  | cons x xs ih => simp [distance_cons_cons, ih]

theorem distance_cons_right_le (xs : List Char) (y : Char) (ys : List Char) :
    distance xs (y :: ys) ≤ distance xs ys + 1 := by
  cases xs with
  | nil => simp
  | cons x xs =>
    rw [distance_cons_cons]
    omega

variable {xs ys : List Char}

theorem Edit.distance_le (edit : Edit xs ys) (zs : List Char) :
    distance xs zs ≤ distance ys zs + 1 := by
  -- The induction goes to the place of the edit, and at each place along the third word.
  induction edit generalizing zs with
  | insert c rest =>
    induction zs with
    | nil =>
      rw [distance_nil_right, distance_nil_right, List.length_cons]
      omega
    | cons z zs ih =>
      have longer := distance_cons_right_le rest z zs
      rw [distance_cons_cons]
      omega
  | delete c rest =>
    cases zs with
    | nil => simp
    | cons z zs =>
      rw [distance_cons_cons]
      omega
  | replace c d rest =>
    induction zs with
    | nil => simp
    | cons z zs ih =>
      rw [distance_cons_cons, distance_cons_cons]
      split <;> split <;> omega
  | @behind c rest rest' edit behind =>
    induction zs with
    | nil => simpa using behind []
    | cons z zs ih =>
      have both := behind zs
      have left := behind (z :: zs)
      rw [distance_cons_cons, distance_cons_cons]
      omega

theorem Edits.distance_le {n : Nat} (edits : Edits n xs ys) : distance xs ys ≤ n := by
  induction edits with
  | none xs => exact Nat.le_of_eq (distance_self xs)
  | @edit n xs ys zs first _ ih =>
    have step := first.distance_le zs
    omega

theorem edits_distance (xs ys : List Char) : Edits (distance xs ys) xs ys := by
  induction xs generalizing ys with
  | nil =>
    rw [distance_nil_left]
    induction ys with
    | nil => exact .none []
    | cons y ys ih => exact .edit (.insert y []) (ih.behind y)
  | cons x xs ihx =>
    induction ys with
    | nil =>
      have deleted := ihx []
      rw [distance_nil_right] at deleted ⊢
      exact .edit (.delete x xs) deleted
    | cons y ys ihy =>
      have inserted : Edits (distance (x :: xs) ys + 1) (x :: xs) (y :: ys) :=
        .edit (.insert y (x :: xs)) (ihy.behind y)
      have deleted : Edits (distance xs (y :: ys) + 1) (x :: xs) (y :: ys) :=
        .edit (.delete x xs) (ihx (y :: ys))
      have kept : Edits (distance xs ys + if x = y then 0 else 1) (x :: xs) (y :: ys) := by
        split
        · rename_i same
          exact same ▸ (ihx ys).behind x
        · exact .edit (.replace x y xs) ((ihx ys).behind y)
      -- The distance is one of the three lengths, whichever is the least.
      rw [distance_cons_cons]
      refine min_rec' (Edits · (x :: xs) (y :: ys)) kept ?_
      exact min_rec' (Edits · (x :: xs) (y :: ys)) inserted deleted

/-- The distance is the least number of edits from one word to the other. -/
theorem isLeast_distance (xs ys : List Char) : IsLeast {n | Edits n xs ys} (distance xs ys) :=
  ⟨edits_distance xs ys, fun _ edits => edits.distance_le⟩

end TimelineFilter.Text
