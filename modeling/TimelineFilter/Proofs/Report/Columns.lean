import TimelineFilter.Proofs.Report.Lines
import Mathlib.Data.List.Forall2

/-! Where the cells of a line of the status table begin. Ids and users always fit the width of
their column. Of the ages only the label of a new status does not, and moves what follows it. -/
namespace TimelineFilter

namespace Report

open Text

structure Cells where
  id : String
  age : String
  user : String
  text : String

structure Places where
  age : Nat
  user : Nat
  text : Nat
deriving DecidableEq

namespace Cells

/-- The line consists of the cells at these places, with nothing between them but spaces, and at
least one of these. -/
def StandAt (cs : Cells) (line : String) (p : Places) : Prop :=
  ∃ i a u : Nat,
    line = cs.id ++ (spaces (i + 1) ++ (cs.age ++ (spaces (a + 1) ++
      (cs.user ++ (spaces (u + 1) ++ cs.text))))) ∧
    p.age = cs.id.length + (i + 1) ∧
    p.user = p.age + cs.age.length + (a + 1) ∧
    p.text = p.user + cs.user.length + (u + 1)

end Cells

def headings : Cells := ⟨"ID", "Age", "User", "Text"⟩

def cellsOf (now : Instant) (t : Status) : Cells :=
  ⟨decimal t.post.id.toInt, age t.post.createdAt now, "@" ++ truncate 16 t.author.screenName,
    statusText false t⟩

/-- The cells of the line begin where the headings begin in theirs. -/
def LinesUp (heading line : String) (cs : Cells) : Prop :=
  ∃ p, headings.StandAt heading p ∧ cs.StandAt line p

theorem padRight_space (width : Nat) (text rest : String) :
    padRight width text ++ (" " ++ rest) = text ++ (spaces (width - text.length + 1) ++ rest) := by
  apply String.toList_injective
  simp [padRight_eq, spaces, List.replicate_succ']

theorem standAt_row {cs : Cells} (id : cs.id.length ≤ 20) (user : cs.user.length ≤ 18) :
    cs.StandAt (row cs.id cs.age (padRight 18 cs.user) cs.text)
      ⟨21, 22 + max 6 cs.age.length, 41 + max 6 cs.age.length⟩ := by
  refine ⟨20 - cs.id.length, 6 - cs.age.length, 18 - cs.user.length, ?_, ?_, ?_, ?_⟩
  · simp only [row, String.append_assoc, padRight_space]
  all_goals
    dsimp only
    omega

def Solid (text : String) : Prop := ∃ c ∈ text.toList.head?, c ≠ ' '

theorem Solid.append {text : String} (solid : Solid text) (more : String) :
    Solid (text ++ more) := by
  obtain ⟨c, first, other⟩ := solid
  refine ⟨c, ?_, other⟩
  rw [String.toList_append, List.head?_append, first]
  rfl

theorem spaces_inj {n m : Nat} {rest rest' : String} (solid : Solid rest) (solid' : Solid rest')
    (same : spaces n ++ rest = spaces m ++ rest') : n = m ∧ rest = rest' := by
  have run {k : Nat} {rest : String} (solid : Solid rest) :
      (spaces k ++ rest).toList.takeWhile (· == ' ') = List.replicate k ' ' ∧
        (spaces k ++ rest).toList.dropWhile (· == ' ') = rest.toList := by
    obtain ⟨c, first, other⟩ := solid
    rw [String.toList_append, spaces, String.toList_ofList]
    apply span_run
    · intro d mem
      simp [(List.mem_replicate.1 mem).2]
    · intro d mem
      cases first.symm.trans mem
      simpa using other
  obtain ⟨front, behind⟩ := run (k := n) solid
  obtain ⟨front', behind'⟩ := run (k := m) solid'
  rw [same] at front behind
  have lengths := congrArg List.length (front.symm.trans front')
  rw [List.length_replicate, List.length_replicate] at lengths
  exact ⟨lengths, String.toList_injective (behind.symm.trans behind')⟩

theorem Cells.StandAt.unique {cs : Cells} {line : String} {p p' : Places} (age : Solid cs.age)
    (user : Solid cs.user) (text : Solid cs.text) (stand : cs.StandAt line p)
    (stand' : cs.StandAt line p') : p = p' := by
  obtain ⟨i, a, u, rfl, atAge, atUser, atText⟩ := stand
  obtain ⟨i', a', u', same, atAge', atUser', atText'⟩ := stand'
  rw [String.append_right_inj] at same
  obtain ⟨first, same⟩ := spaces_inj (age.append _) (age.append _) same
  rw [String.append_right_inj] at same
  obtain ⟨second, same⟩ := spaces_inj (user.append _) (user.append _) same
  rw [String.append_right_inj] at same
  obtain ⟨third, -⟩ := spaces_inj text text same
  cases p
  cases p'
  simp only [Places.mk.injEq]
  dsimp only at *
  omega

theorem headings_stand : headings.StandAt (header false) ⟨21, 28, 47⟩ := by
  have id : headings.id.length ≤ 20 := by decide
  exact standAt_row id (by decide)

theorem headings_place {p : Places} (stand : headings.StandAt (header false) p) :
    p = ⟨21, 28, 47⟩ :=
  stand.unique ⟨'A', rfl, by decide⟩ ⟨'U', rfl, by decide⟩ ⟨'T', rfl, by decide⟩ headings_stand

variable (now : Instant) (t : Status)

theorem cellsOf_stand :
    (cellsOf now t).StandAt (statusRow false now t)
      (if isNew now t then ⟨21, 30, 49⟩ else ⟨21, 28, 47⟩) := by
  have id : (cellsOf now t).id.length ≤ 20 := length_decimal_int64 t.post.id
  have user : (cellsOf now t).user.length ≤ 18 := by
    have sign : "@".length = 1 := rfl
    have name := length_truncate_le (by decide : 3 ≤ 16) t.author.screenName
    change ("@" ++ truncate 16 t.author.screenName).length ≤ 18
    rw [String.length_append]
    omega
  have stand := standAt_row id user
  change (cellsOf now t).StandAt (statusRow false now t) _ at stand
  -- Ids and users fit, so only the width of the age is left in the places.
  cases new : isNew now t with
  | true =>
    have label : (cellsOf now t).age = "just now" := age_new new
    rw [label] at stand
    exact stand
  | false =>
    have narrow : (cellsOf now t).age.length ≤ 6 := length_age_le new
    rw [Nat.max_eq_left narrow] at stand
    exact stand

theorem linesUp_iff :
    LinesUp (header false) (statusRow false now t) (cellsOf now t) ↔ isNew now t = false := by
  have stand := cellsOf_stand now t
  constructor
  · rintro ⟨p, heading, i, a, u, -, atAge, atUser, -⟩
    cases headings_place heading
    cases new : isNew now t with
    | false => rfl
    | true =>
      have label : (cellsOf now t).age = "just now" := age_new new
      have long : "just now".length = 8 := rfl
      rw [label] at atUser
      dsimp only at atUser
      omega
  · intro old
    rw [old] at stand
    exact ⟨_, headings_stand, stand⟩

variable {t} {others : List Status}

/-- If no name that is shown has a line break, the lines of a table are the header and one line for
each status. The age begins below its heading. User and text do so too, except behind the label of a
new status, which moves both by two characters. -/
theorem statusTable_columns (whole : ∀ t' ∈ t :: others, nameBreaks t' = 0) :
    ∃ heading rows, linesOf (statusTable false now (t :: others)) = heading :: rows ∧
      headings.StandAt heading ⟨21, 28, 47⟩ ∧
      List.Forall₂ (fun t' line =>
        (cellsOf now t').StandAt line (if isNew now t' then ⟨21, 30, 49⟩ else ⟨21, 28, 47⟩) ∧
          (LinesUp heading line (cellsOf now t') ↔ isNew now t' = false)) (t :: others) rows := by
  refine ⟨_, _, linesOf_statusTable now whole, headings_stand, ?_⟩
  refine List.forall₂_map_right_iff.2 (List.forall₂_same.2 ?_)
  exact fun t' _ => ⟨cellsOf_stand now t', linesUp_iff now t'⟩

/-- The longest id there is, a minute ago, by someone whose name is cut. -/
theorem statusTable_columns_longest :
    let now : Instant := .ofNanoseconds 60000000000
    let t : Status := .plain { Post.basic Int64.minValue (.basic 9 "seventeen_letters") "a\nb" with
      createdAt := some (.ofNanoseconds 0) }
    (∀ t' ∈ [t], nameBreaks t' = 0) ∧
      ∃ heading line, linesOf (statusTable false now [t]) = [heading, line] ∧
        LinesUp heading line (cellsOf now t) := by
  intro now t
  have whole : ∀ t' ∈ [t], nameBreaks t' = 0 := by decide +kernel
  obtain ⟨heading, rows, each, -, columns⟩ := statusTable_columns now whole
  obtain ⟨line, _, ⟨-, up⟩, rest, rfl⟩ := List.forall₂_cons_left_iff.1 columns
  cases rest
  exact ⟨whole, heading, line, each, up.2 (by decide +kernel)⟩

/-- The label of a new status is wider than its column. -/
theorem statusTable_columns_moved :
    let now : Instant := .ofNanoseconds 0
    let t : Status := .plain { Post.basic 1 (.basic 2 "alice") "hi" with createdAt := some now }
    let heading := "ID                   Age    User               Text"
    let line := "1                    just now @alice             hi"
    linesOf (statusTable false now [t]) = [heading, line] ∧
      ¬ LinesUp heading line (cellsOf now t) := by
  intro now t heading line
  have each : linesOf (statusTable false now [t]) = [heading, line] := by decide +kernel
  have moved := linesUp_iff now t
  have front : header false = heading := by decide +kernel
  have behind : statusRow false now t = line := by decide +kernel
  rw [front, behind] at moved
  exact ⟨each, fun up => absurd (moved.1 up) (by decide +kernel)⟩

end Report

end TimelineFilter
