import TimelineFilter.Proofs.Json.Records

namespace TimelineFilter.Json

namespace Reading

mutual

def nesting : Reading → Nat
  | .array items _ => itemsNesting items + 1
  | .object members _ => membersNesting members + 1
  | _ => 0

def itemsNesting : List Reading → Nat
  | [] => 0
  | item :: rest => max (nesting item) (itemsNesting rest)

def membersNesting : List (Except Malformed String × Reading) → Nat
  | [] => 0
  | (_, value) :: rest => max (nesting value) (membersNesting rest)

end

theorem itemsNesting_le_iff {items : List Reading} {n : Nat} :
    itemsNesting items ≤ n ↔ ∀ r ∈ items, r.nesting ≤ n := by
  induction items with
  | nil => simp [itemsNesting]
  | cons item items ih => simp [itemsNesting, ih]

theorem membersNesting_le_iff {members : List (Except Malformed String × Reading)} {n : Nat} :
    membersNesting members ≤ n ↔ ∀ m ∈ members, m.2.nesting ≤ n := by
  induction members with
  | nil => simp [membersNesting]
  | cons m members ih => simp [membersNesting, ih]

theorem skipItems_of_all {items : List Reading} (all : ∀ r ∈ items, r.skip = .ok ()) :
    skipItems items = .ok () := by
  induction items with
  | nil => rfl
  | cons item items ih =>
    obtain ⟨first, others⟩ := List.forall_mem_cons.1 all
    rw [skipItems, first]
    exact ih others

theorem skipMembers_of_all {members : List (Except Malformed String × Reading)}
    (all : ∀ m ∈ members, m.2.skip = .ok ()) : skipMembers members = .ok () := by
  induction members with
  | nil => rfl
  | cons m members ih =>
    obtain ⟨first, others⟩ := List.forall_mem_cons.1 all
    rw [skipMembers, first]
    exact ih others

theorem skip_of_wellFormed {r : Reading} (formed : r.WellFormed) : r.skip = .ok () := by
  induction formed with
  | array _ ih => simp only [skip, skipItems_of_all ih]
  | object _ ih => simp only [skip, skipMembers_of_all ih]
  | null | bool | whole | real | text | void => rfl

def values (names : List String) (ms : List (Except Malformed String × Reading)) : List Reading :=
  ms.filterMap fun m =>
    match m.1 with
    | .ok key => if key ∈ names then some m.2 else none
    | .error _ => none

section

variable {names : List String} {ms ms' front behind : List (Except Malformed String × Reading)}
  {key : String} {v : Reading}

@[simp] theorem values_nil : values names [] = [] := rfl

theorem values_append :
    values names (front ++ behind) = values names front ++ values names behind :=
  List.filterMap_append

theorem values_named (mem : key ∈ names) :
    values names ((.ok key, v) :: ms) = v :: values names ms := by
  simp [values, mem]

theorem values_other (other : key ∉ names) :
    values names ((.ok key, v) :: ms) = values names ms := by
  simp [values, other]

theorem values_perm (order : ms'.Perm ms) : (values names ms').Perm (values names ms) :=
  order.filterMap _

theorem mem_values : v ∈ values names ms ↔ ∃ key ∈ names, (.ok key, v) ∈ ms := by
  induction ms with
  | nil => simp
  | cons m ms ih =>
    obtain ⟨key | key, r⟩ := m
    · simp [values, ← ih]
    · by_cases named : key ∈ names
      · rw [values_named named, List.mem_cons, ih]
        aesop
      · rw [values_other named, ih]
        aesop

end

end Reading

theorem map_eq_ok_iff {ε α β : Type} {f : α → β} {x : Except ε α} {b : β} :
    x.map f = .ok b ↔ ∃ a, x = .ok a ∧ f a = b := by
  cases x <;> simp [Except.map]

/-! A record is read at a single depth -/

section

variable {σ : Type} {fields : List (RecordField σ)} {n : Nat}

/-- The field, as it reads at this depth, whatever the depth. -/
def RecordField.at (n : Nat) (f : RecordField σ) : RecordField σ :=
  { f with store := fun _ => f.store n }

theorem RecordField.fill_at {seen : List String} {s : σ}
    {ms : List (Except Malformed String × Reading)} :
    fill (fields.map (.at n)) n seen s ms = fill fields n seen s ms := by
  induction ms generalizing seen s with
  | nil => rfl
  | cons m ms ih =>
    obtain ⟨key | key, r⟩ := m
    · rfl
    · have owner : (fields.map (RecordField.at n)).find? (fun f => f.answersTo key) =
          (fields.find? (fun f => f.answersTo key)).map (RecordField.at n) := by
        rw [List.find?_map]
        rfl
      simp only [fill, owner, ih]
      cases fields.find? (fun f => f.answersTo key) <;> simp [RecordField.at]

theorem RecordField.firstMissing?_at {seen : List String} :
    firstMissing? (fields.map (.at n)) seen = firstMissing? fields seen := by
  rw [firstMissing?, List.find?_map, Option.map_map]
  rfl

theorem RecordField.fillInOrder_at {title : String} {count place : Nat} {s : σ}
    {rs : List Reading} {ending : Option Malformed} :
    fillInOrder title count n place s (fields.map (.at n)) rs ending =
      fillInOrder title count n place s fields rs ending := by
  induction fields generalizing place s rs with
  | nil => rfl
  | cons f fields ih => cases rs <;> cases ending <;> simp [fillInOrder, ih, RecordField.at]

theorem record_at {title : String} {start : σ} {r : Reading} :
    Decoder.record title (fields.map (.at n)) start (n + 1) r =
      Decoder.record title fields start (n + 1) r := by
  cases r with
  | object => simp only [Decoder.record, RecordField.fill_at, RecordField.firstMissing?_at]
  | array => simp only [Decoder.record, RecordField.fillInOrder_at, List.length_map]
  | _ => rfl

end

structure Slot (κ : Type) where
  name : String
  aliases : List String
  /-- The ways to write its default. A field that has none has to be given. -/
  defaults : List Reading
  content : κ

def Slot.names {κ : Type} (slot : Slot κ) : List String := slot.name :: slot.aliases

abbrev Part := Σ α : Type, α

section

variable {κ σ α : Type}

/-- The decoder makes the same of every way to write the default, which it can read unless it is too
deep, and the same of values that agree for the content of the slot. -/
structure Suits (agree : κ → Nat → Reading → Reading → Prop) (slot : Slot κ) (d : Decoder α)
    (empty : α) : Prop where
  empty : ∀ v ∈ slot.defaults, ∀ n a, d n v = .ok a → a = empty
  written : ∀ v ∈ slot.defaults, ∀ n, v.nesting ≤ n → ∃ a, d n v = .ok a
  agrees : ∀ n v v', agree slot.content n v v' → ∀ a, d n v = .ok a → d n v' = .ok a

theorem Suits.map {β : Type} {agree : κ → Nat → Reading → Reading → Prop} {slot : Slot κ}
    {d : Decoder α} {empty : α} (suits : Suits agree slot d empty) (f : α → β) :
    Suits agree slot (fun n r => (d n r).map f) (f empty) where
  empty v default n b mapped := by
    obtain ⟨a, read, rfl⟩ := map_eq_ok_iff.1 mapped
    rw [suits.empty v default n a read]
  written v default n shallow := by
    obtain ⟨a, read⟩ := suits.written v default n shallow
    exact ⟨f a, map_eq_ok_iff.2 ⟨a, read, rfl⟩⟩
  agrees n v v' alike b mapped := by
    obtain ⟨a, read, rfl⟩ := map_eq_ok_iff.1 mapped
    exact map_eq_ok_iff.2 ⟨a, suits.agrees n v v' alike a read, rfl⟩

inductive Fits (agree : κ → Nat → Reading → Reading → Prop) (parts : σ → List Part) (start : σ)
    (i : Nat) (f : RecordField σ) (slot : Slot κ) : Prop
  | intro {α : Type} {d : Decoder α} {put : α → σ → σ} {empty : α}
    (suits : Suits agree slot d empty)
    (store : f.store = fun n r s => (d n r).map fun a => put a s)
    (declared : (f.name, f.aliases, f.required, f.requiredInArray) =
      (slot.name, slot.aliases, slot.defaults.isEmpty, slot.defaults.isEmpty))
    (put_parts : ∀ a s, parts (put a s) = (parts s).set i ⟨α, a⟩)
    (start_parts : (parts start)[i]? = some ⟨α, empty⟩)

/-- The fields read into the parts from this index on. -/
inductive Laid (agree : κ → Nat → Reading → Reading → Prop) (parts : σ → List Part) (start : σ) :
    Nat → List (RecordField σ) → List (Slot κ) → Prop
  | nil {i : Nat} : Laid agree parts start i [] []
  | cons {i : Nat} {f : RecordField σ} {fields : List (RecordField σ)} {slot : Slot κ}
    {slots : List (Slot κ)} (fits : Fits agree parts start i f slot)
    (others : Laid agree parts start (i + 1) fields slots) :
    Laid agree parts start i (f :: fields) (slot :: slots)

structure Layout (agree : κ → Nat → Reading → Reading → Prop) (slots : List (Slot κ))
    (fields : List (RecordField σ)) (start : σ) where
  parts : σ → List Part
  ext : ∀ s t, parts s = parts t → s = t
  size : ∀ s, (parts s).length = slots.length
  laid : Laid agree parts start 0 fields slots
  apart : (slots.flatMap Slot.names).Nodup

namespace Laid

variable {agree : κ → Nat → Reading → Reading → Prop} {parts : σ → List Part} {start : σ} {j : Nat}
  {fields : List (RecordField σ)} {slots : List (Slot κ)}

theorem length (laid : Laid agree parts start j fields slots) : fields.length = slots.length := by
  induction laid with
  | nil => rfl
  | cons _ _ ih => simp [ih]

theorem fits (laid : Laid agree parts start j fields slots) {i : Nat} {slot : Slot κ}
    (here : slots[i]? = some slot) :
    ∃ f, fields[i]? = some f ∧ Fits agree parts start (j + i) f slot := by
  induction laid generalizing i with
  | nil => simp at here
  | cons fits _ ih =>
    cases i with
    | zero =>
      cases here
      exact ⟨_, rfl, fits⟩
    | succ i =>
      obtain ⟨f, found, fits⟩ := ih here
      exact ⟨f, found, by rwa [Nat.add_assoc, Nat.add_comm 1] at fits⟩

end Laid

namespace Layout

variable {agree : κ → Nat → Reading → Reading → Prop} {slots : List (Slot κ)}
  {fields : List (RecordField σ)} {start s t : σ} (L : Layout agree slots fields start)
  {n i : Nat} {f : RecordField σ} {slot : Slot κ} {r : Reading} {p : Part}

def Gives (n i : Nat) (r : Reading) (p : Part) : Prop :=
  ∃ f t, fields[i]? = some f ∧ f.store n r start = .ok t ∧ (L.parts t)[i]? = some p

theorem fits_at (here : slots[i]? = some slot) :
    ∃ f, fields[i]? = some f ∧ Fits agree L.parts start i f slot := by
  obtain ⟨f, found, fits⟩ := L.laid.fits here
  exact ⟨f, found, by rwa [Nat.zero_add] at fits⟩

theorem part_lt (s : σ) (here : slots[i]? = some slot) : i < (L.parts s).length := by
  rw [L.size]
  exact (List.getElem?_eq_some_iff.1 here).1

variable {L}

theorem Gives.unique {q : Part} (gives : L.Gives n i r p) (gives' : L.Gives n i r q) : p = q := by
  obtain ⟨f, t, found, stored, part⟩ := gives
  obtain ⟨f', t', found', stored', part'⟩ := gives'
  cases found.symm.trans found'
  cases stored.symm.trans stored'
  exact Option.some.inj (part.symm.trans part')

theorem store_cases (here : slots[i]? = some slot) (found : fields[i]? = some f) (n : Nat)
    (r : Reading) : (∀ s t, f.store n r s ≠ .ok t) ∨
      ∃ p, L.Gives n i r p ∧ ∀ s, ∃ t, f.store n r s = .ok t ∧ L.parts t = (L.parts s).set i p := by
  obtain ⟨f', found', fits⟩ := L.fits_at here
  cases found.symm.trans found'
  obtain @⟨α, d, put, empty, -, store, -, put_parts, -⟩ := fits
  cases read : d n r with
  | error e =>
    refine .inl fun s t => ?_
    simp [store, read, Except.map]
  | ok a =>
    have stored (s : σ) : f.store n r s = .ok (put a s) := by simp [store, read, Except.map]
    refine .inr ⟨⟨α, a⟩, ⟨f, put a start, found, stored start, ?_⟩, fun s => ?_⟩
    · rw [put_parts, List.getElem?_set_self (L.part_lt start here)]
    · exact ⟨put a s, stored s, put_parts a s⟩

theorem gives_iff (here : slots[i]? = some slot) : ∃ (α : Type) (d : Decoder α) (empty : α),
    Suits agree slot d empty ∧ (L.parts start)[i]? = some ⟨α, empty⟩ ∧
      ∀ n r p, L.Gives n i r p ↔ ∃ a, d n r = .ok a ∧ p = ⟨α, a⟩ := by
  obtain ⟨f, found, @⟨α, d, put, empty, suits, store, -, put_parts, start_part⟩⟩ := L.fits_at here
  refine ⟨α, d, empty, suits, start_part, fun n r p => ?_⟩
  have made (a : α) : (L.parts (put a start))[i]? = some ⟨α, a⟩ := by
    rw [put_parts, List.getElem?_set_self (L.part_lt start here)]
  constructor
  · rintro ⟨f', t, found', stored, part⟩
    cases found.symm.trans found'
    rw [store] at stored
    obtain ⟨a, read, rfl⟩ := map_eq_ok_iff.1 stored
    exact ⟨a, read, Option.some.inj (part.symm.trans (made a))⟩
  · rintro ⟨a, read, rfl⟩
    exact ⟨f, put a start, found, by simp [store, read, Except.map], made a⟩

theorem store_eq_ok_iff (here : slots[i]? = some slot) (found : fields[i]? = some f) :
    f.store n r s = .ok t ↔ ∃ p, L.Gives n i r p ∧ L.parts t = (L.parts s).set i p := by
  rcases L.store_cases here found n r with never | ⟨p, gives, stores⟩
  · constructor
    · exact fun stored => absurd stored (never s t)
    · rintro ⟨p, ⟨f', u, found', stored, -⟩, -⟩
      cases found.symm.trans found'
      exact absurd stored (never start u)
  · obtain ⟨u, stored, parts⟩ := stores s
    rw [stored, Except.ok.injEq]
    constructor
    · rintro rfl
      exact ⟨p, gives, parts⟩
    · rintro ⟨q, gives', parts'⟩
      cases gives.unique gives'
      exact L.ext _ _ (parts.trans parts'.symm)

theorem Gives.exists_set (gives : L.Gives n i r p) (here : slots[i]? = some slot) (s : σ) :
    ∃ t, L.parts t = (L.parts s).set i p := by
  obtain ⟨f, u, found, stored, -⟩ := id gives
  rcases L.store_cases here found n r with never | ⟨q, gives', stores⟩
  · exact absurd stored (never start u)
  · cases gives.unique gives'
    exact (stores s).imp fun _ => And.right

/-- What is given for a part, if anything, makes the part what it is behind; else it stays. -/
def Given (L : Layout agree slots fields start) (n i : Nat) (s t : σ) : Option Reading → Prop
  | some r => ∃ p, L.Gives n i r p ∧ (L.parts t)[i]? = some p
  | none => (L.parts t)[i]? = (L.parts s)[i]?

/-- The members have names, and those that belong to no field can be passed over. -/
def Legal (slots : List (Slot κ)) (ms : List (Except Malformed String × Reading)) : Prop :=
  ∀ m ∈ ms, ∃ key, m.1 = .ok key ∧ ((∀ slot ∈ slots, key ∉ slot.names) → m.2.skip = .ok ())

theorem eq_of_parts (same : ∀ (i : Nat) (slot : Slot κ), slots[i]? = some slot →
    (L.parts t)[i]? = (L.parts s)[i]?) :
    s = t := by
  apply L.ext
  apply List.ext_getElem?
  intro i
  cases here : slots[i]? with
  | some slot => exact (same i slot here).symm
  | none =>
    have outside : slots.length ≤ i := List.getElem?_eq_none_iff.1 here
    rw [List.getElem?_eq_none (by rwa [L.size]), List.getElem?_eq_none (by rwa [L.size])]

theorem names_eq (L : Layout agree slots fields start) (here : slots[i]? = some slot)
    (found : fields[i]? = some f) :
    f.name = slot.name ∧ f.aliases = slot.aliases ∧ f.required = slot.defaults.isEmpty ∧
      f.requiredInArray = slot.defaults.isEmpty := by
  obtain ⟨f', found', -, -, declared, -, -⟩ := L.fits_at here
  cases found.symm.trans found'
  simpa using declared

theorem answersTo_iff (L : Layout agree slots fields start) (here : slots[i]? = some slot)
    (found : fields[i]? = some f) {key : String} : f.answersTo key = true ↔ key ∈ slot.names := by
  obtain ⟨name, aliases, -⟩ := L.names_eq here found
  simp only [RecordField.answersTo, Slot.names, name, aliases, Bool.or_eq_true, beq_iff_eq,
    List.contains_iff_mem, List.mem_cons]
  exact or_congr_left eq_comm

theorem eq_of_named (L : Layout agree slots fields start) {j : Nat} {slot' : Slot κ} {key : String}
    (here : slots[i]? = some slot) (there : slots[j]? = some slot') (named : key ∈ slot.names)
    (named' : key ∈ slot'.names) : i = j := by
  have apart := List.pairwise_iff_getElem.1 (List.nodup_flatMap.1 L.apart).2
  obtain ⟨inside, rfl⟩ := List.getElem?_eq_some_iff.1 here
  obtain ⟨inside', rfl⟩ := List.getElem?_eq_some_iff.1 there
  rcases Nat.lt_trichotomy i j with before | same | behind
  · exact absurd named' (apart i j inside inside' before named)
  · exact same
  · exact absurd named (apart j i inside' inside behind named')

end Layout

end

end TimelineFilter.Json
