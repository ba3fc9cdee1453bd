import TimelineFilter.NameMap

namespace TimelineFilter

theorem insertEntry_last {α : Type} {name : String} {a : α} {entries : List (String × α)}
    (last : ∀ e ∈ entries, e.1 < name) : insertEntry name a entries = entries ++ [(name, a)] := by
  induction entries with
  | nil => rfl
  | cons entry rest ih =>
    obtain ⟨k, b⟩ := entry
    obtain ⟨below, last⟩ := List.forall_mem_cons.1 last
    have notBelow : ¬ name < k := String.lt_asymm below
    have different : name ≠ k := by
      rintro rfl
      exact String.lt_irrefl _ below
    rw [insertEntry, if_neg notBelow, if_neg different, ih last, List.cons_append]

theorem lookup_eq_some_iff_mem {α : Type} {entries : List (String × α)} {name : String} {a : α}
    (distinct : (entries.map (·.1)).Nodup) :
    entries.lookup name = some a ↔ (name, a) ∈ entries := by
  induction entries with
  | nil => simp
  | cons entry rest ih =>
    obtain ⟨k, b⟩ := entry
    obtain ⟨fresh, distinct⟩ := List.nodup_cons.1 distinct
    rw [NameMap.lookup_entry, List.mem_cons, Prod.mk.injEq]
    split
    · rename_i same
      subst same
      have absent : (name, a) ∉ rest := fun mem => fresh (List.mem_map.2 ⟨(name, a), mem, rfl⟩)
      simp [absent, eq_comm]
    · rename_i different
      simp [different, ih distinct]

namespace NameMap

theorem entries_foldl_insert {α : Type} {entries : List (String × α)} (m : NameMap α)
    (ascending : Ascending (m.entries ++ entries)) :
    (entries.foldl (fun m (name, a) => m.insert name a) m).entries = m.entries ++ entries := by
  induction entries generalizing m with
  | nil => rw [List.foldl_nil, List.append_nil]
  | cons entry rest ih =>
    obtain ⟨name, a⟩ := entry
    have last : ∀ e ∈ m.entries, e.1 < name := by
      intro e mem
      rw [Ascending, List.map_append] at ascending
      exact (List.pairwise_append.1 ascending).2.2 e.1 (List.mem_map_of_mem mem) name
        (by simp)
    have inserted : (m.insert name a).entries = m.entries ++ [(name, a)] := insertEntry_last last
    rw [List.foldl_cons, ih (m.insert name a) (by rwa [inserted, List.append_assoc]), inserted,
      List.append_assoc]
    rfl

theorem ofList_entries {α : Type} (m : NameMap α) : ofList m.entries = m := by
  have same : (ofList m.entries).entries = m.entries :=
    entries_foldl_insert empty (by simpa [empty] using m.ascending)
  generalize ofList m.entries = m' at same
  obtain ⟨entries, ascending⟩ := m
  obtain ⟨entries', ascending'⟩ := m'
  cases same
  rfl

variable {α : Type}

theorem find?_foldl_insert (entries : List (String × α)) (m : NameMap α) (z : String) :
    (entries.foldl (fun m (name, a) => m.insert name a) m).find? z =
      (entries.reverse.lookup z).or (m.find? z) := by
  induction entries generalizing m with
  | nil => rfl
  | cons entry rest ih =>
    obtain ⟨name, a⟩ := entry
    rw [List.foldl_cons, ih, find?_insert, List.reverse_cons, List.lookup_append, Option.or_assoc,
      lookup_entry]
    split <;> rfl

theorem find?_ofList (entries : List (String × α)) (z : String) :
    (ofList entries).find? z = entries.reverse.lookup z := by
  rw [ofList, find?_foldl_insert, find?_empty, Option.or_none]

theorem names_nodup (m : NameMap α) : (m.entries.map (·.1)).Nodup := by
  refine List.Pairwise.imp ?_ m.ascending
  rintro name _ below rfl
  exact String.lt_irrefl name below

theorem find?_eq_some_iff {m : NameMap α} {name : String} {a : α} :
    m.find? name = some a ↔ (name, a) ∈ m.entries :=
  lookup_eq_some_iff_mem m.names_nodup

end NameMap

end TimelineFilter
