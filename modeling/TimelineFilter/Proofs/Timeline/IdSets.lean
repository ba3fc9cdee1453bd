import TimelineFilter.Timeline.IdSet
import Mathlib.Data.List.Sort

namespace TimelineFilter.IdSet

theorem eq_of_ids {s t : IdSet} (same : s.ids = t.ids) : s = t := by
  obtain ⟨ids, ascending⟩ := s
  cases same
  rfl

theorem eq_of_mem_iff {s t : IdSet} (same : ∀ id, id ∈ s.ids ↔ id ∈ t.ids) : s = t :=
  eq_of_ids (s.ascending.eq_of_mem_iff t.ascending same)

theorem ofList_eq {ids : List Int64} {s : IdSet} (same : ∀ id, id ∈ ids ↔ id ∈ s.ids) :
    ofList ids = s :=
  eq_of_mem_iff fun id => mem_ofList.trans (same id)

theorem contains_ofList (ids : List Int64) (id : Int64) :
    (ofList ids).contains id = ids.contains id := by
  rw [Bool.eq_iff_iff, contains_iff, mem_ofList, List.contains_iff_mem]

theorem mem_unions {sets : List IdSet} {id : Int64} :
    id ∈ (unions sets).ids ↔ ∃ s ∈ sets, id ∈ s.ids := by
  rw [unions, mem_ofList, List.mem_flatMap]

end TimelineFilter.IdSet
