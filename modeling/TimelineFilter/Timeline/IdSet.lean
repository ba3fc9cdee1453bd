namespace TimelineFilter

def insertAscending (x : Int64) : List Int64 → List Int64
  | [] => [x]
  | y :: rest =>
    if x < y then x :: y :: rest
    else if x = y then y :: rest
    else y :: insertAscending x rest

theorem mem_insertAscending {x z : Int64} {ids : List Int64} :
    z ∈ insertAscending x ids ↔ z = x ∨ z ∈ ids := by
  induction ids with
  | nil => simp [insertAscending]
  | cons y rest ih =>
    simp only [insertAscending]
    split
    · simp
    · split
      · rename_i same
        simp [same]
      · simp only [List.mem_cons, ih]
        grind

theorem insertAscending_ascending {x : Int64} {ids : List Int64}
    (ascending : ids.Pairwise (· < ·)) : (insertAscending x ids).Pairwise (· < ·) := by
  induction ids with
  | nil => simp [insertAscending]
  | cons y rest ih =>
    obtain ⟨least, tail⟩ := List.pairwise_cons.1 ascending
    simp only [insertAscending]
    split
    · rename_i below
      exact List.pairwise_cons.2
        ⟨fun z mem => (List.mem_cons.1 mem).elim (fun h => h ▸ below)
          (fun h => Int64.lt_trans below (least z h)), ascending⟩
    · split
      · exact ascending
      · rename_i notBelow different
        refine List.pairwise_cons.2 ⟨fun z mem => ?_, ih tail⟩
        rcases mem_insertAscending.1 mem with rfl | old
        · rcases Int64.lt_or_eq_of_le (Int64.not_lt.1 notBelow) with h | h
          · exact h
          · exact absurd h.symm different
        · exact least z old

structure IdSet where
  ids : List Int64
  ascending : ids.Pairwise (· < ·)
deriving DecidableEq

namespace IdSet

def empty : IdSet := ⟨[], List.Pairwise.nil⟩

instance : Inhabited IdSet := ⟨empty⟩

def contains (s : IdSet) (id : Int64) : Bool := s.ids.contains id

def insert (id : Int64) (s : IdSet) : IdSet :=
  ⟨insertAscending id s.ids, insertAscending_ascending s.ascending⟩

def erase (id : Int64) (s : IdSet) : IdSet :=
  ⟨s.ids.filter (· != id), s.ascending.filter _⟩

def ofList (ids : List Int64) : IdSet := ids.foldr insert empty

def unions (sets : List IdSet) : IdSet := ofList (sets.flatMap IdSet.ids)

def includes (s t : IdSet) : Bool := t.ids.all s.contains

@[simp] theorem contains_iff {s : IdSet} {id : Int64} : s.contains id = true ↔ id ∈ s.ids := by
  simp [contains]

@[simp] theorem mem_insert {s : IdSet} {x z : Int64} :
    z ∈ (s.insert x).ids ↔ z = x ∨ z ∈ s.ids := mem_insertAscending

@[simp] theorem mem_erase {s : IdSet} {x z : Int64} :
    z ∈ (s.erase x).ids ↔ z ∈ s.ids ∧ z ≠ x := by simp [erase]

@[simp] theorem mem_ofList {ids : List Int64} {z : Int64} : z ∈ (ofList ids).ids ↔ z ∈ ids := by
  induction ids with
  | nil => simp [ofList, empty]
  | cons x rest ih =>
    have step : ofList (x :: rest) = (ofList rest).insert x := rfl
    rw [step, mem_insert, ih, List.mem_cons]

end IdSet

end TimelineFilter
