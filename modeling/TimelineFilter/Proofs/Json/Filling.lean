import TimelineFilter.Proofs.Json.Layouts

namespace TimelineFilter.Json.Layout

variable {κ σ : Type} {agree : κ → Nat → Reading → Reading → Prop} {slots : List (Slot κ)}
  {fields : List (RecordField σ)} {start s t : σ} {n i : Nat} {f : RecordField σ} {slot : Slot κ}
  {r : Reading} {p : Part}

/-- What the members make of a field that has been seen or not. -/
def Fills (L : Layout agree slots fields start) (n i : Nat) (slot : Slot κ) (seen : List String)
    (ms : List (Except Malformed String × Reading)) (s t : σ) : Prop :=
  ∃ o : Option Reading, Reading.values slot.names ms = o.toList ∧ L.Given n i s t o ∧
    (o.isSome → slot.name ∉ seen) ∧ (o = none → slot.defaults = [] → slot.name ∈ seen)

theorem slot_at (L : Layout agree slots fields start) (found : fields[i]? = some f) :
    ∃ slot, slots[i]? = some slot := by
  have inside : i < slots.length := L.laid.length ▸ (List.getElem?_eq_some_iff.1 found).1
  exact ⟨_, List.getElem?_eq_getElem inside⟩

theorem firstMissing?_iff (L : Layout agree slots fields start) {seen : List String} :
    RecordField.firstMissing? fields seen = none ↔
      ∀ (i : Nat) (slot : Slot κ), slots[i]? = some slot → slot.defaults = [] →
        slot.name ∈ seen := by
  rw [RecordField.firstMissing?, Option.map_eq_none_iff, List.find?_eq_none]
  constructor
  · intro none i slot here needed
    obtain ⟨f, found, -⟩ := L.fits_at here
    obtain ⟨name, -, required, -⟩ := L.names_eq here found
    have seen := none f (List.mem_of_getElem? found)
    simpa [required, needed, name] using seen
  · intro all f mem
    obtain ⟨i, found⟩ := List.mem_iff_getElem?.1 mem
    obtain ⟨slot, here⟩ := L.slot_at found
    obtain ⟨name, -, required, -⟩ := L.names_eq here found
    simpa [required, name] using all i _ here

section

variable {ms : List (Except Malformed String × Reading)} {seen : List String} {key : String}

theorem legal_cons : Legal slots ((.ok key, r) :: ms) ↔
    ((∀ slot ∈ slots, key ∉ slot.names) → r.skip = .ok ()) ∧ Legal slots ms := by
  simp [Legal]

theorem fills_same (L : Layout agree slots fields start) (here : slots[i]? = some slot)
    (named : key ∈ slot.names) {u : σ} (gives : L.Gives n i r p)
    (parts : L.parts u = (L.parts s).set i p) :
    L.Fills n i slot seen ((.ok key, r) :: ms) s t ↔
      slot.name ∉ seen ∧ L.Fills n i slot (slot.name :: seen) ms u t := by
  have part : (L.parts u)[i]? = some p := by
    rw [parts, List.getElem?_set_self (L.part_lt s here)]
  constructor
  · rintro ⟨o, only, given, fresh, -⟩
    rw [Reading.values_named named] at only
    obtain _ | r' := o
    · cases only
    · obtain ⟨rfl, none⟩ := List.cons.inj only
      obtain ⟨q, gives', part'⟩ := given
      cases gives.unique gives'
      exact ⟨fresh rfl, Option.none, none, part'.trans part.symm, by simp, by simp⟩
  · rintro ⟨fresh, o, only, given, unseen, -⟩
    obtain _ | r' := o
    · refine ⟨some r, ?_, ⟨p, gives, ?_⟩, fun _ => fresh, by simp⟩
      · rw [Reading.values_named named, only]
        rfl
      · exact Eq.trans given part
    · exact absurd List.mem_cons_self (unseen rfl)

theorem fills_other (L : Layout agree slots fields start) {j : Nat} {slot' : Slot κ}
    (here : slots[i]? = some slot) (there : slots[j]? = some slot') (other : i ≠ j)
    (named : key ∈ slot'.names) {u : σ} (parts : L.parts u = (L.parts s).set j p) :
    L.Fills n i slot seen ((.ok key, r) :: ms) s t ↔
      L.Fills n i slot (slot'.name :: seen) ms u t := by
  have unnamed : key ∉ slot.names := fun mine => other (L.eq_of_named here there mine named)
  have part : (L.parts u)[i]? = (L.parts s)[i]? := by
    rw [parts, List.getElem?_set_ne other.symm]
  have name : slot.name ≠ slot'.name := by
    intro same
    exact other (L.eq_of_named here there List.mem_cons_self (same ▸ List.mem_cons_self))
  unfold Fills
  rw [Reading.values_other unnamed]
  refine exists_congr fun o => ?_
  cases o <;> simp [Given, part, name]

/-- The members are read into the record, and no field that has to be given is missing. -/
def Completes (fields : List (RecordField σ)) (n : Nat) (seen : List String)
    (ms : List (Except Malformed String × Reading)) (s t : σ) : Prop :=
  ∃ seen', RecordField.fill fields n seen s ms = .ok (seen', t) ∧
    RecordField.firstMissing? fields seen' = none

theorem completes_nil (L : Layout agree slots fields start) : Completes fields n seen [] s t ↔
    ∀ (i : Nat) (slot : Slot κ), slots[i]? = some slot → L.Fills n i slot seen [] s t := by
  constructor
  · rintro ⟨seen', filled, complete⟩ i slot here
    cases filled
    exact ⟨none, rfl, rfl, by simp, fun _ => L.firstMissing?_iff.1 complete i slot here⟩
  · intro all
    have stays (i : Nat) (slot : Slot κ) (here : slots[i]? = some slot) :
        (L.parts t)[i]? = (L.parts s)[i]? ∧ (slot.defaults = [] → slot.name ∈ seen) := by
      obtain ⟨o, nothing, given, -, seen⟩ := all i slot here
      obtain rfl : o = none := by cases o <;> simp_all
      exact ⟨given, seen rfl⟩
    obtain rfl : s = t := eq_of_parts fun i slot here => (stays i slot here).1
    exact ⟨seen, rfl, L.firstMissing?_iff.2 fun i slot here => (stays i slot here).2⟩

theorem completes_unknown (L : Layout agree slots fields start)
    (unknown : ∀ slot ∈ slots, key ∉ slot.names) :
    Completes fields n seen ((.ok key, r) :: ms) s t ↔
      r.skip = .ok () ∧ Completes fields n seen ms s t := by
  have owner : fields.find? (fun f => f.answersTo key) = none := by
    rw [List.find?_eq_none]
    intro f mem answers
    obtain ⟨i, found⟩ := List.mem_iff_getElem?.1 mem
    obtain ⟨slot, here⟩ := L.slot_at found
    exact unknown _ (List.mem_of_getElem? here) ((L.answersTo_iff here found).1 answers)
  unfold Completes
  rw [RecordField.fill, owner]
  cases r.skip <;> simp

theorem find?_named (L : Layout agree slots fields start) (here : slots[i]? = some slot)
    (named : key ∈ slot.names) (found : fields[i]? = some f) :
    fields.find? (fun f => f.answersTo key) = some f := by
  cases owner : fields.find? (fun f => f.answersTo key) with
  | none =>
    have deaf := List.find?_eq_none.1 owner f (List.mem_of_getElem? found)
    exact absurd ((L.answersTo_iff here found).2 named) deaf
  | some g =>
    obtain ⟨j, found'⟩ := List.mem_iff_getElem?.1 (List.mem_of_find?_eq_some owner)
    obtain ⟨slot', there⟩ := L.slot_at found'
    have answers : g.answersTo key = true := by simpa using List.find?_some owner
    cases L.eq_of_named here there named ((L.answersTo_iff there found').1 answers)
    exact found'.symm.trans found

theorem completes_known (L : Layout agree slots fields start) (here : slots[i]? = some slot)
    (named : key ∈ slot.names) :
    Completes fields n seen ((.ok key, r) :: ms) s t ↔
      slot.name ∉ seen ∧ ∃ p u, L.Gives n i r p ∧ L.parts u = (L.parts s).set i p ∧
        Completes fields n (slot.name :: seen) ms u t := by
  obtain ⟨f, found, -⟩ := L.fits_at here
  unfold Completes
  rw [RecordField.fill, L.find?_named here named found]
  dsimp only
  rw [(L.names_eq here found).1]
  by_cases old : slot.name ∈ seen
  · simp [old]
  rw [if_neg (by simpa using old)]
  cases stored : f.store n r s with
  | error e =>
    constructor
    · rintro ⟨_, filled, -⟩
      cases filled
    · rintro ⟨-, p, u, gives, parts, -⟩
      cases stored.symm.trans ((store_eq_ok_iff here found).2 ⟨p, gives, parts⟩)
  | ok u =>
    constructor
    · intro completes
      obtain ⟨p, gives, parts⟩ := (store_eq_ok_iff here found).1 stored
      exact ⟨old, p, u, gives, parts, completes⟩
    · rintro ⟨-, p, u', gives, parts, completes⟩
      cases stored.symm.trans ((store_eq_ok_iff here found).2 ⟨p, gives, parts⟩)
      exact completes

theorem completes_iff (L : Layout agree slots fields start) : Completes fields n seen ms s t ↔
    Legal slots ms ∧ ∀ (i : Nat) (slot : Slot κ), slots[i]? = some slot →
      L.Fills n i slot seen ms s t := by
  -- A field that is read is seen from then on, so that no other member may be its own.
  induction ms generalizing s seen with
  | nil =>
    rw [L.completes_nil]
    simp [Legal]
  | cons m ms ih =>
    obtain ⟨key | key, r⟩ := m
    · simp [Completes, RecordField.fill, Legal]
    rw [legal_cons]
    by_cases known : ∃ slot ∈ slots, key ∈ slot.names
    · obtain ⟨slot, mem, named⟩ := known
      obtain ⟨j, there⟩ := List.mem_iff_getElem?.1 mem
      have due : (∀ slot ∈ slots, key ∉ slot.names) → r.skip = .ok () :=
        fun unknown => absurd named (unknown slot mem)
      rw [L.completes_known there named]
      constructor
      · rintro ⟨fresh, p, u, gives, parts, completes⟩
        obtain ⟨legal, all⟩ := ih.1 completes
        refine ⟨⟨due, legal⟩, fun i slot' here => ?_⟩
        by_cases same : i = j
        · subst same
          cases here.symm.trans there
          exact (L.fills_same here named gives parts).2 ⟨fresh, all i _ here⟩
        · exact (L.fills_other here there same named parts).2 (all i slot' here)
      · rintro ⟨⟨-, legal⟩, all⟩
        obtain ⟨p, gives⟩ : ∃ p, L.Gives n j r p := by
          obtain ⟨o, only, given, -⟩ := all j slot there
          rw [Reading.values_named named] at only
          obtain _ | r' := o
          · cases only
          · obtain ⟨rfl, -⟩ := List.cons.inj only
            exact given.imp fun _ => And.left
        obtain ⟨u, parts⟩ := gives.exists_set there s
        refine ⟨?_, p, u, gives, parts, ih.2 ⟨legal, fun i slot' here => ?_⟩⟩
        · exact ((L.fills_same there named gives parts).1 (all j slot there)).1
        by_cases same : i = j
        · subst same
          cases here.symm.trans there
          exact ((L.fills_same here named gives parts).1 (all i _ here)).2
        · exact (L.fills_other here there same named parts).1 (all i slot' here)
    · have unknown : ∀ slot ∈ slots, key ∉ slot.names := by simpa using known
      have same (i : Nat) (slot : Slot κ) (here : slots[i]? = some slot) :
          L.Fills n i slot seen ms s t ↔ L.Fills n i slot seen ((.ok key, r) :: ms) s t := by
        unfold Fills
        rw [Reading.values_other (unknown slot (List.mem_of_getElem? here))]
      rw [L.completes_unknown unknown, ih, and_assoc]
      have passes : r.skip = .ok () ↔
          ((∀ slot ∈ slots, key ∉ slot.names) → r.skip = .ok ()) :=
        ⟨fun passed _ => passed, fun passed => passed unknown⟩
      refine and_congr passes (and_congr_right fun _ => ?_)
      exact forall_congr' fun i => forall_congr' fun slot => forall_congr' (same i slot)

/-- What is given for a field makes its part what it is in the record. Only a default need not be
given. -/
def Holds (L : Layout agree slots fields start) (n i : Nat) (slot : Slot κ) (o : Option Reading)
    (t : σ) : Prop :=
  L.Given n i start t o ∧ (o = none → slot.defaults ≠ [])

theorem record_object_iff (L : Layout agree slots fields start) (title : String)
    {ending : Option Malformed} :
    Decoder.record title fields start (n + 1) (.object ms ending) = .ok t ↔
      ending = none ∧ Legal slots ms ∧ ∀ (i : Nat) (slot : Slot κ), slots[i]? = some slot →
        ∃ o, Reading.values slot.names ms = o.toList ∧ L.Holds n i slot o t := by
  have fresh : (∀ (i : Nat) (slot : Slot κ), slots[i]? = some slot →
      L.Fills n i slot [] ms start t) ↔ ∀ (i : Nat) (slot : Slot κ), slots[i]? = some slot →
        ∃ o, Reading.values slot.names ms = o.toList ∧ L.Holds n i slot o t := by
    simp [Fills, Holds]
  rw [← fresh, ← L.completes_iff]
  unfold Decoder.record Completes
  cases filled : RecordField.fill fields n [] start ms with
  | error e => simp [filled]
  | ok found =>
    obtain ⟨seen, s⟩ := found
    cases ending with
    | some why => simp [filled, ends]
    | none =>
      cases missing : RecordField.firstMissing? fields seen <;>
        simp [filled, ends, missing, eq_comm]

/-- What the items make of the parts from an index on. The parts in front stay. -/
def Orders (L : Layout agree slots fields start) (n j : Nat) (rs : List Reading) (s t : σ) : Prop :=
  (∀ i < j, (L.parts t)[i]? = (L.parts s)[i]?) ∧
    ∀ (i : Nat) (slot : Slot κ), slots[j + i]? = some slot →
      L.Given n (j + i) s t rs[i]? ∧ (rs[i]? = none → slot.defaults ≠ [])

variable {j : Nat} {rs : List Reading}

theorem orders_nil (L : Layout agree slots fields start) (here : slots[j]? = some slot) :
    L.Orders n j [] s t ↔ slot.defaults ≠ [] ∧ L.Orders n (j + 1) [] s t := by
  constructor
  · rintro ⟨front, behind⟩
    obtain ⟨stays, optional⟩ := behind 0 slot here
    refine ⟨optional rfl, fun i before => ?_, fun i slot' there => ?_⟩
    · rcases Nat.lt_or_eq_of_le (Nat.le_of_lt_succ before) with before | rfl
      · exact front i before
      · exact stays
    · rw [Nat.add_assoc] at there ⊢
      exact behind (1 + i) slot' there
  · rintro ⟨optional, front, behind⟩
    refine ⟨fun i before => front i (Nat.lt_succ_of_lt before), fun i slot' there => ?_⟩
    cases i with
    | zero =>
      cases here.symm.trans there
      exact ⟨front j (Nat.lt_succ_self j), fun _ => optional⟩
    | succ i =>
      rw [Nat.add_comm i, ← Nat.add_assoc] at there ⊢
      exact behind i slot' there

theorem orders_cons (L : Layout agree slots fields start) (here : slots[j]? = some slot)
    (gives : L.Gives n j r p) {u : σ} (parts : L.parts u = (L.parts s).set j p) :
    L.Orders n j (r :: rs) s t ↔ L.Orders n (j + 1) rs u t := by
  have part : (L.parts u)[j]? = some p := by
    rw [parts, List.getElem?_set_self (L.part_lt s here)]
  have other (i : Nat) (apart : j ≠ i) : (L.parts u)[i]? = (L.parts s)[i]? := by
    rw [parts, List.getElem?_set_ne apart]
  have given (i : Nat) (o : Option Reading) (apart : j ≠ i) :
      L.Given n i u t o ↔ L.Given n i s t o := by
    cases o <;> simp [Given, other i apart]
  constructor
  · rintro ⟨front, behind⟩
    refine ⟨fun i before => ?_, fun i slot' there => ?_⟩
    · rcases Nat.lt_or_eq_of_le (Nat.le_of_lt_succ before) with before | rfl
      · rw [front i before, other i (Nat.ne_of_gt before)]
      · obtain ⟨q, gives', part'⟩ := (behind 0 slot here).1
        cases gives.unique gives'
        exact Eq.trans part' part.symm
    · rw [Nat.add_assoc, Nat.add_comm 1] at there ⊢
      obtain ⟨given', optional⟩ := behind (i + 1) slot' there
      exact ⟨(given _ _ (by omega)).2 given', optional⟩
  · rintro ⟨front, behind⟩
    refine ⟨fun i before => ?_, fun i slot' there => ?_⟩
    · rw [front i (Nat.lt_succ_of_lt before), other i (Nat.ne_of_gt before)]
    · cases i with
      | zero => exact ⟨⟨p, gives, (front j (Nat.lt_succ_self j)).trans part⟩, by simp⟩
      | succ i =>
        have index : j + (i + 1) = j + 1 + i := by omega
        rw [index] at there ⊢
        obtain ⟨given', optional⟩ := behind i slot' there
        exact ⟨(given _ _ (by omega)).1 given', optional⟩

theorem fillInOrder_iff (L : Layout agree slots fields start) (title : String) (count place : Nat)
    {fs : List (RecordField σ)} (suffix : fs = fields.drop j) :
    RecordField.fillInOrder title count n place s fs rs none = .ok ([], t) ↔
      rs.length ≤ fs.length ∧ L.Orders n j rs s t := by
  induction fs generalizing j s rs place with
  | nil =>
    have whole : slots.length ≤ j := by
      rw [← L.laid.length]
      exact List.drop_eq_nil_iff.1 suffix.symm
    simp only [RecordField.fillInOrder, Except.ok.injEq, Prod.mk.injEq, List.length_nil,
      Nat.le_zero, List.length_eq_zero_iff]
    refine and_congr_right fun _ => ⟨?_, ?_⟩
    · rintro rfl
      refine ⟨fun _ _ => rfl, fun i slot there => ?_⟩
      have inside := (List.getElem?_eq_some_iff.1 there).1
      omega
    · rintro ⟨front, -⟩
      refine eq_of_parts fun i slot here => front i ?_
      have inside := (List.getElem?_eq_some_iff.1 here).1
      omega
  | cons f fs ih =>
    have found : fields[j]? = some f := by
      rw [← List.head?_drop, ← suffix]
      rfl
    have rest : fs = fields.drop (j + 1) := by
      rw [← List.tail_drop, ← suffix]
      rfl
    obtain ⟨slot, here⟩ := L.slot_at found
    cases rs with
    | nil =>
      rw [RecordField.fillInOrder, (L.names_eq here found).2.2.2, L.orders_nil here]
      by_cases needed : slot.defaults = []
      · simp [needed]
      · rw [if_neg (by simpa using needed), ih (place + 1) rest]
        simp [needed]
    | cons r rs =>
      rw [RecordField.fillInOrder]
      cases stored : f.store n r s with
      | error e =>
        constructor
        · intro failed
          cases failed
        · rintro ⟨-, -, behind⟩
          obtain ⟨p, gives, -⟩ := (behind 0 slot here).1
          obtain ⟨u, parts⟩ := gives.exists_set here s
          cases stored.symm.trans ((store_eq_ok_iff here found).2 ⟨p, gives, parts⟩)
      | ok u =>
        obtain ⟨p, gives, parts⟩ := (store_eq_ok_iff here found).1 stored
        rw [L.orders_cons here gives parts, List.length_cons, List.length_cons,
          Nat.add_le_add_iff_right]
        exact ih (place + 1) rest

theorem record_array_iff (L : Layout agree slots fields start) (title : String)
    {ending : Option Malformed} :
    Decoder.record title fields start (n + 1) (.array rs ending) = .ok t ↔
      ending = none ∧ rs.length ≤ slots.length ∧
        ∀ (i : Nat) (slot : Slot κ), slots[i]? = some slot → L.Holds n i slot rs[i]? t := by
  have ordered : L.Orders n 0 rs start t ↔
      ∀ (i : Nat) (slot : Slot κ), slots[i]? = some slot → L.Holds n i slot rs[i]? t := by
    simp [Orders, Holds]
  rw [← ordered, ← L.laid.length]
  unfold Decoder.record
  cases ending with
  | some why =>
    dsimp only
    split <;> simp_all [ends, Except.map]
  | none =>
    rw [← L.fillInOrder_iff title fields.length 0 List.drop_zero.symm]
    dsimp only
    cases RecordField.fillInOrder title fields.length n 0 start fields rs none with
    | error e => simp
    | ok found =>
      obtain ⟨left, u⟩ := found
      cases left <;> simp [ends, Except.map]

end

end TimelineFilter.Json.Layout
