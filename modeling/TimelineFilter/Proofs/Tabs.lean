import TimelineFilter.Proofs.CanonicalText
import TimelineFilter.Proofs.Json.Records
import TimelineFilter.Proofs.NameMaps
import TimelineFilter.Query.Encoding
import Mathlib

/-! Tabs that were read from some text, and what is read from the text that is written for them. The
two texts need not be equal: the names come in order, and the queries in their canonical form. -/
namespace TimelineFilter

namespace Query

theorem decoder_eq_ok_iff {n : Nat} {r : Json.Reading} {q : Query} :
    decoder n r = .ok q ↔ ∃ t, r = .text t ∧ compile t = .ok q := by
  cases r with
  | text t =>
    cases compiled : compile t <;> simp [decoder, Json.Decoder.spelled, compiled, Except.mapError]
  | _ => simp [decoder, Json.Decoder.spelled, Json.unwanted]

theorem decodes {text : String} {q : Query} (compiled : compile text = .ok q) :
    Json.Decodes decoder q.toJson q := by
  apply Json.decodes_spelled
  rw [compile_canonical compiled]
  rfl

end Query

namespace Tabs

/-- The text holds an object with these names and texts as its members, in this order. -/
def HoldsTexts (text : String) (members : List (String × String)) : Prop :=
  Json.Reading.ofText text =
    (.object (members.map fun (name, t) => (.ok name, .text t)) none, false)

/-- The entry has the name of the member and the query that its text compiles to. -/
def Compiles (member : String × String) (entry : String × Query) : Prop :=
  member.1 = entry.1 ∧ Query.compile member.2 = .ok entry.2

theorem exists_texts {n : Nat} {ms : List (Except Json.Malformed String × Json.Reading)}
    {entries : List (String × Query)}
    (each : List.Forall₂ (fun m e => m.1 = .ok e.1 ∧ Query.decoder n m.2 = .ok e.2) ms entries) :
    ∃ members, ms = members.map (fun (name, t) => (.ok name, .text t)) ∧
      List.Forall₂ Compiles members entries := by
  induction each with
  | nil => exact ⟨[], rfl, .nil⟩
  | @cons m e ms entries first others ih =>
    obtain ⟨key, r⟩ := m
    obtain ⟨name, q⟩ := e
    obtain ⟨rfl, read⟩ := first
    obtain ⟨t, rfl, compiled⟩ := Query.decoder_eq_ok_iff.1 read
    obtain ⟨members, rfl, compile⟩ := ih
    exact ⟨(name, t) :: members, rfl, .cons ⟨rfl, compiled⟩ compile⟩

theorem ofJsonText_eq_ok_iff {text : String} {tabs : Tabs} :
    ofJsonText text = .ok tabs ↔
      ∃ members entries, HoldsTexts text members ∧ List.Forall₂ Compiles members entries ∧
        tabs = .ofList entries := by
  unfold ofJsonText HoldsTexts
  rw [Json.ofText_ok_iff]
  constructor
  · rintro ⟨whole, read⟩
    unfold decoder at read
    cases found : Json.Decoder.mapping Query.decoder Json.maxDepth (Json.Reading.ofText text).1 with
    | error e =>
      rw [found] at read
      cases read
    | ok entries =>
      rw [found] at read
      obtain ⟨ms, object, each⟩ := Json.mapping_eq_ok_iff.1 found
      obtain ⟨members, rfl, compile⟩ := exists_texts each
      exact ⟨members, entries, Prod.ext object whole, compile, (Except.ok.inj read).symm⟩
  · rintro ⟨members, entries, holds, compile, rfl⟩
    have each : List.Forall₂ (fun m e => m.1 = .ok e.1 ∧ Query.decoder 126 m.2 = .ok e.2)
        (members.map fun (name, t) =>
          ((.ok name, .text t) : Except Json.Malformed String × Json.Reading)) entries := by
      refine List.forall₂_map_left_iff.2 (compile.imp ?_)
      rintro ⟨name, t⟩ ⟨_, q⟩ ⟨rfl, compiled⟩
      exact ⟨rfl, Query.decoder_eq_ok_iff.2 ⟨t, rfl, compiled⟩⟩
    have found := Json.mapping_eq_ok_iff.2 ⟨_, rfl, each⟩
    rw [holds]
    refine ⟨rfl, ?_⟩
    unfold decoder
    exact congrArg (Except.map NameMap.ofList) found

theorem toJson_eq (tabs : Tabs) :
    tabs.toJson = .object (tabs.entries.map fun e => (e.1, e.2.toJson)) :=
  rfl

theorem decodes {tabs : Tabs} (compiled : ∀ e ∈ tabs.entries, ∃ t, Query.compile t = .ok e.2) :
    Json.Decodes decoder tabs.toJson tabs := by
  have each : List.Forall₂ (fun m e => m.1 = e.1 ∧ Json.Decodes Query.decoder m.2 e.2)
      (tabs.entries.map fun e => (e.1, e.2.toJson)) tabs.entries := by
    refine List.forall₂_map_left_iff.2 (List.forall₂_same.2 ?_)
    intro e mem
    obtain ⟨t, compiled⟩ := compiled e mem
    exact ⟨rfl, Query.decodes compiled⟩
  have mapping := Json.decodes_mapping each
  refine ⟨mapping.plain, ?_⟩
  intro n shallow
  unfold decoder
  rw [toJson_eq, mapping.read n shallow]
  exact congrArg Except.ok (NameMap.ofList_entries tabs)

theorem toJson_depth (tabs : Tabs) : tabs.toJson.depth ≤ Json.maxDepth := by
  have flat (entries : List (String × Query)) :
      Json.membersDepth (entries.map fun e => (e.1, e.2.toJson)) = 0 := by
    induction entries with
    | nil => rfl
    | cons e entries ih =>
      rw [List.map_cons, Json.membersDepth, ih]
      rfl
  rw [toJson_eq, Json.depth, flat]
  decide

theorem find?_of_compiles {members : List (String × String)} {entries : List (String × Query)}
    (compile : List.Forall₂ Compiles members entries) (name : String) :
    (NameMap.ofList entries).find? name =
      (members.reverse.lookup name).bind fun t => (Query.compile t).toOption := by
  have backwards := List.rel_reverse compile
  rw [NameMap.find?_ofList]
  generalize members.reverse = members at backwards ⊢
  generalize entries.reverse = entries at backwards ⊢
  induction backwards with
  | nil => rfl
  | @cons m e members entries first others ih =>
    obtain ⟨key, t⟩ := m
    obtain ⟨_, q⟩ := e
    obtain ⟨rfl, compiled⟩ := first
    rw [NameMap.lookup_entry, NameMap.lookup_entry, ih]
    split
    · rw [Option.bind_some, compiled]
      rfl
    · rfl

/-- Tabs that were read are those of the last members of each name. Their names and queries are read
back from what is written for them, in both written forms, and are then written in the same way. -/
theorem ofJsonText_toJson {text : String} {tabs : Tabs} (read : ofJsonText text = .ok tabs) :
    (∃ members, HoldsTexts text members ∧ ∀ name, tabs.find? name =
      (members.reverse.lookup name).bind fun t => (Query.compile t).toOption) ∧
    ∀ write ∈ [Json.compact, Json.indented],
      ofJsonText (write tabs.toJson) = .ok tabs ∧
        ∀ again, ofJsonText (write tabs.toJson) = .ok again →
          write again.toJson = write tabs.toJson := by
  obtain ⟨members, entries, holds, compile, rfl⟩ := ofJsonText_eq_ok_iff.1 read
  have last := find?_of_compiles compile
  have compiled : ∀ e ∈ (NameMap.ofList entries).entries, ∃ t, Query.compile t = .ok e.2 := by
    rintro ⟨name, q⟩ mem
    have found := (last name).symm.trans (NameMap.find?_eq_some_iff.2 mem)
    obtain ⟨t, -, compiles⟩ := Option.bind_eq_some_iff.1 found
    refine ⟨t, ?_⟩
    cases compiled : Query.compile t <;> simp_all [Except.toOption]
  have both := (decodes compiled).ofText (toJson_depth _)
  refine ⟨⟨members, holds, last⟩, ?_⟩
  intro write form
  have back : ofJsonText (write (toJson (.ofList entries))) = .ok (.ofList entries) := by
    rcases List.mem_pair.1 form with rfl | rfl
    · exact both.1
    · exact both.2
  refine ⟨back, ?_⟩
  intro again found
  cases back.symm.trans found
  rfl

/-- An escaped name, a repeated name, and a query with a quote in it. -/
theorem ofJsonText_toJson_repeated :
    let text :=
      "\x7b\"tab\": \"()\", \"caf\\u00e9\": \"\\\"a\\\"\", \"tab\": \"\\\"\\\\\\\"\\\"\"\x7d"
    let tabs : Tabs := .ofList [("tab", ⟨[.implied], .value (.text "\"")⟩),
      ("café", ⟨[.implied], .value (.text "a")⟩)]
    ofJsonText text = .ok tabs ∧ ofJsonText tabs.toJson.compact = .ok tabs := by
  intro text tabs
  have read : ofJsonText text = .ok tabs := by cbv
  exact ⟨read, ((ofJsonText_toJson read).2 _ (by simp)).1⟩

end Tabs

end TimelineFilter
