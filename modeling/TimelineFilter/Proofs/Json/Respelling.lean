import TimelineFilter.Proofs.Json.Filling

namespace TimelineFilter.Json

namespace Reading

variable {names : List String} {front behind : List (Except Malformed String × Reading)}
  {key : String} {v : Reading} {o : Option Reading}

theorem values_around (named : key ∈ names) :
    values names (front ++ (.ok key, v) :: behind) = o.toList ↔
      o = some v ∧ values names front = [] ∧ values names behind = [] := by
  rw [values_append, values_named named]
  cases o with
  | none => simp
  | some w =>
    simp only [Option.toList_some, List.append_eq_singleton_iff, List.cons.injEq, reduceCtorEq,
      and_false, or_false, Option.some.injEq]
    exact ⟨fun ⟨front, same, behind⟩ => ⟨same.symm, front, behind⟩,
      fun ⟨same, front, behind⟩ => ⟨front, same.symm, behind⟩⟩

theorem values_beside (other : key ∉ names) :
    values names (front ++ (.ok key, v) :: behind) = values names (front ++ behind) := by
  rw [values_append, values_other other, ← values_append]

end Reading

/-- The slot has this value in the object: that of its member, or a default if it has none. -/
def Slot.Has {κ : Type} (slot : Slot κ) (ms : List (Except Malformed String × Reading))
    (v : Reading) : Prop :=
  v ∈ Reading.values slot.names ms ∨ Reading.values slot.names ms = [] ∧ v ∈ slot.defaults

def Slot.HasDefault {κ : Type} (slot : Slot κ) (ms : List (Except Malformed String × Reading)) :
    Prop :=
  slot.defaults ≠ [] ∧ ∀ v ∈ Reading.values slot.names ms, v ∈ slot.defaults

/-- The values of the slots of an object, one after another. Those at the end may be missing if they
are defaults. -/
structure Listed {κ : Type} (slots : List (Slot κ)) (ms : List (Except Malformed String × Reading))
    (vs : List Reading) : Prop where
  length : vs.length ≤ slots.length
  given : ∀ (i : Nat) (slot : Slot κ) (v : Reading), slots[i]? = some slot → vs[i]? = some v →
    slot.Has ms v
  rest : ∀ (i : Nat) (slot : Slot κ), slots[i]? = some slot → vs.length ≤ i → slot.HasDefault ms

variable {κ σ : Type} {agree : κ → Nat → Reading → Reading → Prop} {slots : List (Slot κ)}
  {fields : List (RecordField σ)} {start t : σ} (L : Layout agree slots fields start)
  {title : String} {n i : Nat} {slot : Slot κ} {v v' : Reading} {p : Part}

/-! What a field makes of a value -/

namespace Layout

theorem gives_default (here : slots[i]? = some slot) (default : v ∈ slot.defaults)
    (gives : L.Gives n i v p) : (L.parts start)[i]? = some p := by
  obtain ⟨α, d, empty, suits, start_part, gives_iff⟩ := L.gives_iff here
  obtain ⟨a, read, rfl⟩ := (gives_iff n v p).1 gives
  rw [start_part, suits.empty v default n a read]

theorem exists_gives (here : slots[i]? = some slot) (default : v ∈ slot.defaults)
    (shallow : v.nesting ≤ n) : ∃ p, L.Gives n i v p := by
  obtain ⟨α, d, empty, suits, -, gives_iff⟩ := L.gives_iff here
  obtain ⟨a, read⟩ := suits.written v default n shallow
  exact ⟨⟨α, a⟩, (gives_iff n v _).2 ⟨a, read, rfl⟩⟩

theorem gives_agree (here : slots[i]? = some slot) (alike : agree slot.content n v v')
    (gives : L.Gives n i v p) : L.Gives n i v' p := by
  obtain ⟨α, d, empty, suits, -, gives_iff⟩ := L.gives_iff here
  obtain ⟨a, read, rfl⟩ := (gives_iff n v p).1 gives
  exact (gives_iff n v' _).2 ⟨a, suits.agrees n v v' alike a read, rfl⟩

/-- A default makes no difference to a field that need not be given. -/
theorem holds_none_of_default (here : slots[i]? = some slot) (default : v ∈ slot.defaults)
    (holds : L.Holds n i slot (some v) t) : L.Holds n i slot none t := by
  obtain ⟨⟨p, gives, part⟩, -⟩ := holds
  refine ⟨part.trans (L.gives_default here default gives).symm, fun _ => ?_⟩
  exact List.ne_nil_of_mem default

theorem holds_default_of_none (here : slots[i]? = some slot) (default : v ∈ slot.defaults)
    (shallow : v.nesting ≤ n) (holds : L.Holds n i slot none t) : L.Holds n i slot (some v) t := by
  obtain ⟨p, gives⟩ := L.exists_gives here default shallow
  exact ⟨⟨p, gives, Eq.trans holds.1 (L.gives_default here default gives)⟩, by simp⟩

theorem holds_of_gives (alike : ∀ p, L.Gives n i v p → L.Gives n i v' p)
    (holds : L.Holds n i slot (some v) t) : L.Holds n i slot (some v') t := by
  obtain ⟨⟨p, gives, part⟩, -⟩ := holds
  exact ⟨⟨p, alike p gives, part⟩, by simp⟩

/-! Objects -/

section

include L

variable {ms ms' front behind : List (Except Malformed String × Reading)} {key key' : String}

omit L in
theorem legal_around : Legal slots (front ++ (.ok key, v) :: behind) ↔
    ((∀ slot ∈ slots, key ∉ slot.names) → v.skip = .ok ()) ∧ Legal slots (front ++ behind) := by
  rw [← legal_cons]
  exact forall_congr' fun m => imp_congr_left List.perm_middle.mem_iff

theorem reordered (order : ms'.Perm ms)
    (read : Decoder.record title fields start (n + 1) (.object ms none) = .ok t) :
    Decoder.record title fields start (n + 1) (.object ms' none) = .ok t := by
  obtain ⟨-, legal, all⟩ := (L.record_object_iff title).1 read
  refine (L.record_object_iff title).2 ⟨rfl, fun m mem => legal m (order.subset mem), ?_⟩
  intro i slot here
  obtain ⟨o, only, holds⟩ := all i slot here
  have same : (Reading.values slot.names ms').Perm o.toList := only ▸ Reading.values_perm order
  refine ⟨o, ?_, holds⟩
  cases o with
  | none => exact same.eq_nil
  | some v => exact List.perm_singleton.1 same

theorem extended (unknown : ∀ slot ∈ slots, key ∉ slot.names) (passed : v.skip = .ok ())
    (read : Decoder.record title fields start (n + 1) (.object (front ++ behind) none) = .ok t) :
    Decoder.record title fields start (n + 1) (.object (front ++ (.ok key, v) :: behind) none)
      = .ok t := by
  obtain ⟨-, legal, all⟩ := (L.record_object_iff title).1 read
  refine (L.record_object_iff title).2 ⟨rfl, legal_around.2 ⟨fun _ => passed, legal⟩, ?_⟩
  intro i slot here
  rw [Reading.values_beside (unknown slot (List.mem_of_getElem? here))]
  exact all i slot here

theorem dropped (here : slots[i]? = some slot) (named : key ∈ slot.names)
    (default : v ∈ slot.defaults)
    (read : Decoder.record title fields start (n + 1)
      (.object (front ++ (.ok key, v) :: behind) none) = .ok t) :
    Decoder.record title fields start (n + 1) (.object (front ++ behind) none) = .ok t := by
  obtain ⟨-, legal, all⟩ := (L.record_object_iff title).1 read
  refine (L.record_object_iff title).2 ⟨rfl, (legal_around.1 legal).2, fun j slot' there => ?_⟩
  obtain ⟨o, only, holds⟩ := all j slot' there
  by_cases same : j = i
  · subst same
    cases here.symm.trans there
    obtain ⟨rfl, before, after⟩ := (Reading.values_around named).1 only
    refine ⟨none, ?_, L.holds_none_of_default here default holds⟩
    rw [Reading.values_append, before, after]
    rfl
  · have other : key ∉ slot'.names := fun mine => same (L.eq_of_named there here mine named)
    rw [Reading.values_beside other] at only
    exact ⟨o, only, holds⟩

theorem replaced (here : slots[i]? = some slot) (named : key ∈ slot.names)
    (named' : key' ∈ slot.names) (alike : ∀ p, L.Gives n i v p → L.Gives n i v' p)
    (read : Decoder.record title fields start (n + 1)
      (.object (front ++ (.ok key, v) :: behind) none) = .ok t) :
    Decoder.record title fields start (n + 1) (.object (front ++ (.ok key', v') :: behind) none)
      = .ok t := by
  obtain ⟨-, legal, all⟩ := (L.record_object_iff title).1 read
  have known : (∀ slot ∈ slots, key' ∉ slot.names) → v'.skip = .ok () :=
    fun unknown => absurd named' (unknown slot (List.mem_of_getElem? here))
  refine (L.record_object_iff title).2
    ⟨rfl, legal_around.2 ⟨known, (legal_around.1 legal).2⟩, fun j slot' there => ?_⟩
  obtain ⟨o, only, holds⟩ := all j slot' there
  by_cases same : j = i
  · subst same
    cases here.symm.trans there
    obtain ⟨rfl, before, after⟩ := (Reading.values_around named).1 only
    exact ⟨some v', (Reading.values_around named').2 ⟨rfl, before, after⟩,
      L.holds_of_gives alike holds⟩
  · have other : key ∉ slot'.names := fun mine => same (L.eq_of_named there here mine named)
    have other' : key' ∉ slot'.names := fun mine => same (L.eq_of_named there here mine named')
    rw [Reading.values_beside other] at only
    rw [Reading.values_beside other']
    exact ⟨o, only, holds⟩

/-! Arrays -/

theorem listed {vs : List Reading} (lists : Listed slots ms vs) (shallow : ∀ v ∈ vs, v.nesting ≤ n)
    (read : Decoder.record title fields start (n + 1) (.object ms none) = .ok t) :
    Decoder.record title fields start (n + 1) (.array vs none) = .ok t := by
  obtain ⟨-, -, all⟩ := (L.record_object_iff title).1 read
  refine (L.record_array_iff title).2 ⟨rfl, lists.length, fun i slot here => ?_⟩
  obtain ⟨o, only, holds⟩ := all i slot here
  cases place : vs[i]? with
  | some v =>
    rcases lists.given i slot v here place with told | ⟨nothing, default⟩
    · rw [only, Option.mem_toList] at told
      exact told ▸ holds
    · obtain rfl : o = none := by
        rw [nothing] at only
        exact Option.toList_eq_nil_iff.1 only.symm
      exact L.holds_default_of_none here default (shallow v (List.mem_of_getElem? place)) holds
  | none =>
    obtain ⟨optional, defaults⟩ := lists.rest i slot here (List.getElem?_eq_none_iff.1 place)
    cases o with
    | none => exact holds
    | some v => exact L.holds_none_of_default here (defaults v (by simp [only])) holds

theorem replacedItem {before after : List Reading}
    (alike : ∀ p, L.Gives n before.length v p → L.Gives n before.length v' p)
    (read : Decoder.record title fields start (n + 1) (.array (before ++ v :: after) none)
      = .ok t) :
    Decoder.record title fields start (n + 1) (.array (before ++ v' :: after) none) = .ok t := by
  obtain ⟨-, length, all⟩ := (L.record_array_iff title).1 read
  refine (L.record_array_iff title).2 ⟨rfl, by simpa using length, fun i slot' there => ?_⟩
  have holds := all i slot' there
  by_cases same : i = before.length
  · subst same
    have place (w : Reading) : (before ++ w :: after)[before.length]? = some w := by simp
    rw [place] at holds ⊢
    exact L.holds_of_gives alike holds
  · have set : (before ++ v :: after).set before.length v' = before ++ v' :: after := by simp
    rwa [← set, List.getElem?_set_ne (Ne.symm same)]

end

end Layout

end TimelineFilter.Json
