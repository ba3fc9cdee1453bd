import TimelineFilter.Json.Decoder
import TimelineFilter.Proofs.Json.Trees
import TimelineFilter.Proofs.Timeline.IdSets
import Mathlib.Data.List.Forall2

namespace TimelineFilter.Json

mutual

def depth : Json → Nat
  | .array items => itemsDepth items + 1
  | .object members => membersDepth members + 1
  | _ => 0

def itemsDepth : List Json → Nat
  | [] => 0
  | item :: rest => max (depth item) (itemsDepth rest)

def membersDepth : List (String × Json) → Nat
  | [] => 0
  | (_, value) :: rest => max (depth value) (membersDepth rest)

end

/-- The value can be written and read back, and the decoder makes `a` of it wherever it may go as
deep as the value does. -/
structure Decodes {α : Type} (d : Decoder α) (j : Json) (a : α) : Prop where
  plain : Plain j
  read : ∀ n, j.depth ≤ n → d n j.reading = .ok a

variable {α σ : Type}

theorem Decodes.ofText {d : Decoder α} {j : Json} {a : α} (decodes : Decodes d j a)
    (shallow : j.depth ≤ maxDepth) : d.ofText j.compact = .ok a ∧ d.ofText j.indented = .ok a := by
  have read := decodes.read maxDepth shallow
  constructor
  · simp [Decoder.ofText, Reading.ofText_compact decodes.plain, read]
  · simp [Decoder.ofText, Reading.ofText_indented decodes.plain, read]

theorem decodes_int64 (n : Int64) : Decodes .int64 (.whole n.toInt) n where
  plain := fitsWhole_int64 n
  read _ _ := by
    have low : Int64.minValue.toInt = -2 ^ 63 := by decide
    have high : Int64.maxValue.toInt = 2 ^ 63 - 1 := by decide
    have above := n.le_toInt
    have below := n.toInt_lt
    have fits : Int64.minValue.toInt ≤ n.toInt ∧ n.toInt ≤ Int64.maxValue.toInt := by
      rw [low, high]
      omega
    change (if _ then _ else _) = _
    rw [if_pos fits, Int64.ofInt_toInt]

theorem decodes_text (t : String) : Decodes .text (.text t) t where
  plain := trivial
  read _ _ := rfl

theorem decodes_boolean (b : Bool) : Decodes .boolean (.bool b) b where
  plain := trivial
  read _ _ := rfl

theorem decodes_some {d : Decoder α} {j : Json} {a : α} (decodes : Decodes d j a)
    (present : j.reading ≠ .null) : Decodes (.optional d) j (some a) where
  plain := decodes.plain
  read n shallow := by
    have read := decodes.read n shallow
    unfold Decoder.optional
    split
    · exact absurd ‹_› present
    · rw [read]
      rfl

theorem decodes_spelled {wanted : Wanted} {read : String → Except String α} {t : String} {a : α}
    (spelled : read t = .ok a) : Decodes (.spelled wanted read) (.text t) a where
  plain := trivial
  read _ _ := by simp [Decoder.spelled, reading, spelled]

theorem items_of_decodes {d : Decoder α} {js : List Json} {as : List α}
    (decodes : List.Forall₂ (Decodes d) js as) :
    PlainItems js ∧ ∀ n, itemsDepth js ≤ n → Decoder.items (d n) (itemReadings js) = .ok as := by
  induction decodes with
  | nil => exact ⟨trivial, fun _ _ => rfl⟩
  | @cons j a js as first others ih =>
    obtain ⟨plain, read⟩ := ih
    refine ⟨⟨first.plain, plain⟩, ?_⟩
    intro n shallow
    obtain ⟨shallow, shallows⟩ := Nat.max_le.1 shallow
    simp [Decoder.items, itemReadings, first.read n shallow, read n shallows, Except.map]

theorem decodes_list {d : Decoder α} {js : List Json} {as : List α}
    (decodes : List.Forall₂ (Decodes d) js as) : Decodes (.list d) (.array js) as where
  plain := (items_of_decodes decodes).1
  read n shallow := by
    obtain ⟨n, rfl⟩ : ∃ m, n = m + 1 := ⟨n - 1, by simp only [depth] at shallow; omega⟩
    have read := (items_of_decodes decodes).2 n (by simpa [depth] using shallow)
    simp [Decoder.list, reading, read, ends, Except.map]

theorem decodes_map {d : Decoder α} {encode : α → Json} (as : List α)
    (decodes : ∀ a ∈ as, Decodes d (encode a) a) : Decodes (.list d) (.array (as.map encode)) as :=
  decodes_list (List.forall₂_map_left_iff.2 (List.forall₂_same.2 decodes))

theorem members_of_decodes {d : Decoder α} {ms : List (String × Json)} {as : List (String × α)}
    (decodes : List.Forall₂ (fun m a => m.1 = a.1 ∧ Decodes d m.2 a.2) ms as) :
    PlainMembers ms ∧
      ∀ n, membersDepth ms ≤ n → Decoder.members (d n) (memberReadings ms) = .ok as := by
  induction decodes with
  | nil => exact ⟨trivial, fun _ _ => rfl⟩
  | @cons m a ms as first others ih =>
    obtain ⟨key, j⟩ := m
    obtain ⟨name, value⟩ := a
    obtain ⟨rfl, first⟩ := first
    obtain ⟨plain, read⟩ := ih
    refine ⟨⟨first.plain, plain⟩, ?_⟩
    intro n shallow
    obtain ⟨shallow, shallows⟩ := Nat.max_le.1 shallow
    simp [Decoder.members, memberReadings, first.read n shallow, read n shallows, Except.map]

theorem decodes_mapping {d : Decoder α} {ms : List (String × Json)} {as : List (String × α)}
    (decodes : List.Forall₂ (fun m a => m.1 = a.1 ∧ Decodes d m.2 a.2) ms as) :
    Decodes (.mapping d) (.object ms) as where
  plain := (members_of_decodes decodes).1
  read n shallow := by
    obtain ⟨n, rfl⟩ : ∃ m, n = m + 1 := ⟨n - 1, by simp only [depth] at shallow; omega⟩
    have read := (members_of_decodes decodes).2 n (by simpa [depth] using shallow)
    simp [Decoder.mapping, reading, read, ends, Except.map]

theorem decodes_choice {choices : List (String × α)} {name : String} {a : α}
    (found : choices.lookup name = some a) : Decodes (.choice choices) (.text name) a where
  plain := trivial
  read _ _ := by simp [Decoder.choice, Decoder.named, reading, found]

theorem decodes_idSet {ns : List Int64} {s : IdSet} (same : ∀ n, n ∈ ns ↔ n ∈ s.ids) :
    Decodes .idSet (numbers ns) s where
  plain := (decodes_map ns fun n _ => decodes_int64 n).plain
  read n shallow := by
    have read := (decodes_map ns fun n _ => decodes_int64 n).read n shallow
    rw [Decoder.idSet, numbers, read]
    exact congrArg Except.ok (IdSet.ofList_eq same)

def titles (fields : List (RecordField σ)) : List (String × List String) :=
  fields.map fun f => (f.name, f.aliases)

def Apart (fields : List (RecordField σ)) : Prop :=
  (titles fields).Pairwise fun g f => (g.1 == f.1 || g.2.contains f.1) = false

instance (fields : List (RecordField σ)) : Decidable (Apart fields) :=
  inferInstanceAs (Decidable ((titles fields).Pairwise _))

structure Stores (f : RecordField σ) (j : Json) (s t : σ) : Prop where
  plain : Plain j
  store : ∀ n, j.depth ≤ n → f.store n j.reading s = .ok t

/-- The members of an object in the order of the fields, some of which may be left out, and what
becomes of a record when they are read. -/
inductive Filled : List (RecordField σ) → List (String × Json) → σ → σ → Prop
  | done {s t : σ} (same : s = t) : Filled [] [] s t
  | given {f : RecordField σ} {fields : List (RecordField σ)} {j : Json}
      {ms : List (String × Json)} {s t u : σ} (stores : Stores f j s t)
      (others : Filled fields ms t u) : Filled (f :: fields) ((f.name, j) :: ms) s u
  | omitted {f : RecordField σ} {fields : List (RecordField σ)} {ms : List (String × Json)}
      {s t : σ} (optional : f.required = false) (others : Filled fields ms s t) :
      Filled (f :: fields) ms s t

namespace Filled

variable {f : RecordField σ} {fields : List (RecordField σ)} {ms front : List (String × Json)}
  {j : Json} {d : Decoder α} {put : α → σ → σ} {a : α} {s u : σ}

theorem field (store : f.store = fun n r s => (d n r).map fun a => put a s)
    (decodes : Decodes d j a) (others : Filled fields ms (put a s) u) :
    Filled (f :: fields) ((f.name, j) :: ms) s u := by
  refine .given ⟨decodes.plain, ?_⟩ others
  intro n shallow
  simp only [store, decodes.read n shallow]
  rfl

theorem field? {empty : α} (store : f.store = fun n r s => (d n r).map fun a => put a s)
    (optional : f.required = false) (already : put empty s = s)
    (either : front = [] ∧ a = empty ∨ ∃ j, front = [(f.name, j)] ∧ Decodes d j a)
    (others : Filled fields ms (put a s) u) : Filled (f :: fields) (front ++ ms) s u := by
  rcases either with ⟨rfl, rfl⟩ | ⟨j, rfl, decodes⟩
  · rw [already] at others
    exact .omitted optional others
  · exact .field store decodes others

end Filled

namespace RecordField

theorem answersTo_name (f : RecordField σ) : f.answersTo f.name = true := by simp [answersTo]

theorem name_ne {g : RecordField σ} {name : String} (deaf : g.answersTo name = false) :
    g.name ≠ name := by
  rintro rfl
  rw [answersTo_name] at deaf
  cases deaf

theorem deaf_of_apart {before fields : List (RecordField σ)} {f : RecordField σ}
    (apart : Apart (before ++ f :: fields)) : ∀ g ∈ before, g.answersTo f.name = false := by
  intro g mem
  rw [Apart, titles, List.pairwise_map] at apart
  exact (List.pairwise_append.1 apart).2.2 g mem f List.mem_cons_self

theorem find?_apart {before fields : List (RecordField σ)} {f : RecordField σ}
    (apart : Apart (before ++ f :: fields)) :
    (before ++ f :: fields).find? (·.answersTo f.name) = some f := by
  have deaf : ∀ g ∈ before, ¬ g.answersTo f.name = true := by
    intro g mem
    simp [deaf_of_apart apart g mem]
  rw [List.find?_append, List.find?_eq_none.2 deaf, Option.none_or]
  exact List.find?_cons_of_pos f.answersTo_name

def SeenIn (before : List (RecordField σ)) (seen : List String) : Prop :=
  ∀ name ∈ seen, ∃ g ∈ before, g.name = name

theorem SeenIn.nil (before : List (RecordField σ)) : SeenIn before [] := by simp [SeenIn]

theorem SeenIn.later {before : List (RecordField σ)} {seen : List String}
    (old : SeenIn before seen) (f : RecordField σ) : SeenIn (before ++ [f]) seen := by
  intro name mem
  obtain ⟨g, earlier, same⟩ := old name mem
  exact ⟨g, by simp [earlier], same⟩

theorem SeenIn.cons {before : List (RecordField σ)} {seen : List String}
    (old : SeenIn before seen) (f : RecordField σ) : SeenIn (before ++ [f]) (f.name :: seen) := by
  intro name mem
  rcases List.mem_cons.1 mem with rfl | mem
  · exact ⟨f, by simp, rfl⟩
  · exact old.later f name mem

theorem fill_of_filled {all before fields : List (RecordField σ)} {ms : List (String × Json)}
    {s t : σ} (filled : Filled fields ms s t) (whole : all = before ++ fields) (apart : Apart all)
    {n : Nat} (shallow : membersDepth ms ≤ n) {seen : List String} (old : SeenIn before seen) :
    ∃ seen', fill all n seen s (memberReadings ms) = .ok (seen', t) ∧
      (∀ name ∈ seen, name ∈ seen') ∧ ∀ f ∈ fields, f.required = true → f.name ∈ seen' := by
  -- The names seen belong to fields in front of those that are left, so no field comes up twice.
  induction filled generalizing before seen with
  | done same => exact ⟨seen, by rw [same]; rfl, fun _ mem => mem, by simp⟩
  | @given f fields j ms s t u stores others ih =>
    obtain ⟨shallow, shallows⟩ := Nat.max_le.1 shallow
    have fresh : f.name ∉ seen := by
      intro mem
      obtain ⟨g, earlier, same⟩ := old f.name mem
      rw [whole] at apart
      exact name_ne (deaf_of_apart apart g earlier) same
    obtain ⟨seen', filled, kept, required⟩ := ih (by simp [whole]) shallows (old.cons f)
    refine ⟨seen', ?_, fun name mem => kept name (List.mem_cons_of_mem _ mem), ?_⟩
    · have found : all.find? (·.answersTo f.name) = some f := by
        rw [whole] at apart ⊢
        exact find?_apart apart
      simp [memberReadings, fill, found, fresh, stores.store n shallow, filled]
    · intro g mem needed
      rcases List.mem_cons.1 mem with rfl | mem
      · exact kept _ List.mem_cons_self
      · exact required g mem needed
  | @omitted f fields ms s t optional others ih =>
    obtain ⟨seen', filled, kept, required⟩ := ih (by simp [whole]) shallow (old.later f)
    refine ⟨seen', filled, kept, ?_⟩
    intro g mem needed
    rcases List.mem_cons.1 mem with rfl | mem
    · rw [optional] at needed
      cases needed
    · exact required g mem needed

end RecordField

theorem plain_of_filled {fields : List (RecordField σ)} {ms : List (String × Json)} {s t : σ}
    (filled : Filled fields ms s t) : PlainMembers ms := by
  induction filled with
  | done => trivial
  | given stores _ ih => exact ⟨stores.plain, ih⟩
  | omitted _ _ ih => exact ih

theorem decodes_record {fields : List (RecordField σ)} {ms : List (String × Json)} {start t : σ}
    (name : String) (apart : Apart fields) (filled : Filled fields ms start t) :
    Decodes (.record name fields start) (.object ms) t where
  plain := plain_of_filled filled
  read n shallow := by
    obtain ⟨n, rfl⟩ : ∃ m, n = m + 1 := ⟨n - 1, by simp only [depth] at shallow; omega⟩
    have shallow : membersDepth ms ≤ n := by simpa [depth] using shallow
    obtain ⟨seen, read, -, required⟩ :=
      RecordField.fill_of_filled filled (List.nil_append fields).symm apart shallow (.nil [])
    have complete : RecordField.firstMissing? fields seen = none := by
      rw [RecordField.firstMissing?, Option.map_eq_none_iff, List.find?_eq_none]
      intro f mem
      have := required f mem
      cases needed : f.required <;> simp_all
    simp [Decoder.record, reading, read, ends, complete]

/-! Success taken apart -/

theorem ofText_ok_iff {d : Decoder α} {a : α} {text : String} :
    d.ofText text = .ok a ↔
      (Reading.ofText text).2 = false ∧ d maxDepth (Reading.ofText text).1 = .ok a := by
  unfold Decoder.ofText
  obtain ⟨r, more⟩ := Reading.ofText text
  dsimp only
  cases d maxDepth r <;> cases more <;> simp

theorem members_eq_ok_iff {read : Reading → Except Defect α}
    {ms : List (Except Malformed String × Reading)} {as : List (String × α)} :
    Decoder.members read ms = .ok as ↔
      List.Forall₂ (fun m a => m.1 = .ok a.1 ∧ read m.2 = .ok a.2) ms as := by
  induction ms generalizing as with
  | nil => simp [Decoder.members, eq_comm]
  | cons m ms ih =>
    obtain ⟨key, r⟩ := m
    cases key with
    | error why => simp [Decoder.members, List.forall₂_cons_left_iff]
    | ok name =>
      unfold Decoder.members
      cases found : read r with
      | error e => simp [List.forall₂_cons_left_iff, found]
      | ok a =>
        cases others : Decoder.members read ms with
        | error e => simp [List.forall₂_cons_left_iff, ← ih, others, Except.map]
        | ok as' => simp [List.forall₂_cons_left_iff, ← ih, others, found, Except.map, eq_comm]

theorem mapping_eq_ok_iff {d : Decoder α} {n : Nat} {r : Reading} {as : List (String × α)} :
    Decoder.mapping d (n + 1) r = .ok as ↔
      ∃ ms, r = .object ms none ∧
        List.Forall₂ (fun m a => m.1 = .ok a.1 ∧ d n m.2 = .ok a.2) ms as := by
  cases r with
  | object ms ending =>
    unfold Decoder.mapping
    dsimp only
    cases found : Decoder.members (d n) ms with
    | error e => simp [← members_eq_ok_iff, found]
    | ok as' => cases ending <;> simp [← members_eq_ok_iff, found, ends, Except.map]
  | _ => simp [Decoder.mapping, unwanted]

end TimelineFilter.Json
