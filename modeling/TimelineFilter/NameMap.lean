namespace TimelineFilter

def insertEntry {α : Type} (name : String) (a : α) : List (String × α) → List (String × α)
  | [] => [(name, a)]
  | (k, b) :: rest =>
    if name < k then (name, a) :: (k, b) :: rest
    else if name = k then (name, a) :: rest
    else (k, b) :: insertEntry name a rest

theorem mem_names_insertEntry {α : Type} {name z : String} {a : α} {entries : List (String × α)} :
    z ∈ (insertEntry name a entries).map (·.1) ↔ z = name ∨ z ∈ entries.map (·.1) := by
  induction entries with
  | nil => simp [insertEntry]
  | cons entry rest ih =>
    obtain ⟨k, b⟩ := entry
    simp only [insertEntry]
    split
    · simp
    · split
      · rename_i same
        simp [same]
      · simp only [List.map_cons, List.mem_cons, ih]
        grind

def Ascending {α : Type} (entries : List (String × α)) : Prop :=
  (entries.map (·.1)).Pairwise (· < ·)

theorem insertEntry_ascending {α : Type} {name : String} {a : α} {entries : List (String × α)}
    (ascending : Ascending entries) : Ascending (insertEntry name a entries) := by
  induction entries with
  | nil => simp [insertEntry, Ascending]
  | cons entry rest ih =>
    obtain ⟨k, b⟩ := entry
    obtain ⟨least, tail⟩ := List.pairwise_cons.1 ascending
    simp only [insertEntry]
    split
    · rename_i below
      exact List.pairwise_cons.2
        ⟨fun z mem => (List.mem_cons.1 mem).elim (fun h => h ▸ below)
          (fun h => String.lt_trans below (least z h)), ascending⟩
    · split
      · rename_i same
        subst same
        exact List.pairwise_cons.2 ⟨least, tail⟩
      · rename_i notBelow different
        refine List.pairwise_cons.2 ⟨fun z mem => ?_, ih tail⟩
        rcases mem_names_insertEntry.1 mem with rfl | old
        · exact Std.lt_of_le_of_ne (String.not_lt.1 notBelow) (Ne.symm different)
        · exact least z old

structure NameMap (α : Type) where
  entries : List (String × α)
  ascending : Ascending entries
deriving DecidableEq

namespace NameMap

variable {α β : Type}

def empty : NameMap α := ⟨[], List.Pairwise.nil⟩

instance : Inhabited (NameMap α) := ⟨empty⟩

def isEmpty (m : NameMap α) : Bool := m.entries.isEmpty

def names (m : NameMap α) : List String := m.entries.map (·.1)

def find? (m : NameMap α) (name : String) : Option α := m.entries.lookup name

def insert (name : String) (a : α) (m : NameMap α) : NameMap α :=
  ⟨insertEntry name a m.entries, insertEntry_ascending m.ascending⟩

def erase (name : String) (m : NameMap α) : NameMap α :=
  ⟨m.entries.filter (·.1 != name), by
    have fewer := (List.filter_sublist (l := m.entries) (p := (·.1 != name))).map (·.1)
    exact List.Pairwise.sublist fewer m.ascending⟩

/-- The map of a list of entries, in which a later entry of a name replaces an earlier one. -/
def ofList (entries : List (String × α)) : NameMap α :=
  entries.foldl (fun m (name, a) => m.insert name a) empty

@[simp] theorem find?_empty (z : String) : (empty : NameMap α).find? z = none := rfl

theorem lookup_entry (z k : String) (b : α) (rest : List (String × α)) :
    List.lookup z ((k, b) :: rest) = if z = k then some b else List.lookup z rest := by
  rw [List.lookup_cons]
  by_cases h : z = k
  · simp [h]
  · have differ : (z == k) = false := by simp [h]
    simp [h, differ]

theorem find?_insert (m : NameMap α) (name z : String) (a : α) :
    (m.insert name a).find? z = if z = name then some a else m.find? z := by
  obtain ⟨entries, ascending⟩ := m
  simp only [find?, insert]
  clear ascending
  induction entries with
  | nil => rw [insertEntry, lookup_entry]
  | cons entry rest ih =>
    obtain ⟨k, b⟩ := entry
    simp only [insertEntry]
    split
    · rw [lookup_entry]
    · split
      · rename_i same
        subst same
        rw [lookup_entry, lookup_entry]
        split <;> rfl
      · rename_i different
        rw [lookup_entry, lookup_entry, ih]
        grind

theorem find?_erase (m : NameMap α) (name z : String) :
    (m.erase name).find? z = if z = name then none else m.find? z := by
  obtain ⟨entries, ascending⟩ := m
  simp only [find?, erase]
  clear ascending
  induction entries with
  | nil => simp
  | cons entry rest ih =>
    obtain ⟨k, b⟩ := entry
    rw [lookup_entry, List.filter_cons]
    by_cases removed : k = name
    · simp only [removed, bne_self_eq_false, Bool.false_eq_true, if_false, ih]
      grind
    · simp only [bne_iff_ne, ne_eq, removed, not_false_eq_true, if_true, lookup_entry, ih]
      grind

end NameMap

end TimelineFilter
