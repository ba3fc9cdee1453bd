import TimelineFilter.NameMap
import TimelineFilter.Toml.Reader

namespace TimelineFilter.Toml

/-- No table of the value has two values under one key. -/
inductive Distinct : Toml → Prop
  | text {t : String} : Distinct (.text t)
  | whole {n : Int} : Distinct (.whole n)
  | real {x : Double} : Distinct (.real x)
  | bool {b : Bool} : Distinct (.bool b)
  | time {t : String} : Distinct (.time t)
  | array {items : List Toml} (each : ∀ v ∈ items, Distinct v) : Distinct (.array items)
  | table {entries : List (String × Toml)} (keys : (entries.map (·.1)).Nodup)
      (each : ∀ e ∈ entries, Distinct e.2) : Distinct (.table entries)

inductive Entry.Distinct : Entry → Prop
  | value {v : Toml} (ready : v.Distinct) : Entry.Distinct (.value v)
  | table {origin : Origin} {entries : Entries} (keys : (entries.map (·.1)).Nodup)
      (each : ∀ e ∈ entries, Entry.Distinct e.2) : Entry.Distinct (.table origin entries)
  | tables {latest : Entries} {earlier : List Entries}
      (keys : ∀ t ∈ latest :: earlier, (t.map (·.1)).Nodup)
      (each : ∀ t ∈ latest :: earlier, ∀ e ∈ t, Entry.Distinct e.2) :
      Entry.Distinct (.tables latest earlier)

structure Entries.Distinct (entries : Entries) : Prop where
  keys : (entries.map (·.1)).Nodup
  each : ∀ e ∈ entries, e.2.Distinct

theorem mem_of_lookup {α : Type} {entries : List (String × α)} {key : String} {a : α}
    (found : entries.lookup key = some a) : (key, a) ∈ entries := by
  obtain ⟨before, after, rfl, -⟩ := List.lookup_eq_some_iff.1 found
  simp

theorem Distinct.get? {t v : Toml} {key : String} (distinct : t.Distinct)
    (found : t.get? key = some v) : v.Distinct := by
  cases distinct with
  | table keys each => exact each _ (mem_of_lookup found)
  | _ => cases found

namespace Entries

variable {entries entries' : Entries} {key : String}

theorem Distinct.nil : Entries.Distinct [] := ⟨List.nodup_nil, by simp⟩

theorem Distinct.get (distinct : entries.Distinct) {e : Entry}
    (found : entries.lookup key = some e) : e.Distinct :=
  distinct.each _ (mem_of_lookup found)

theorem keys_put (key : String) (e : Entry) (entries : Entries) (k : String) :
    k ∈ (put key e entries).map (·.1) ↔ k = key ∨ k ∈ entries.map (·.1) := by
  induction entries with
  | nil => simp [put]
  | cons entry rest ih =>
    obtain ⟨k', old⟩ := entry
    unfold put
    split
    · rename_i same
      subst same
      simp
    · rw [List.map_cons, List.mem_cons, ih, List.map_cons, List.mem_cons]
      exact or_left_comm

theorem Distinct.put (distinct : entries.Distinct) {e : Entry} (ready : e.Distinct) :
    (put key e entries).Distinct := by
  induction entries with
  | nil => exact ⟨List.pairwise_singleton _ _, by simpa [Entries.put] using ready⟩
  | cons entry rest ih =>
    obtain ⟨k, old⟩ := entry
    obtain ⟨fresh, keys⟩ := List.nodup_cons.1 distinct.keys
    obtain ⟨first, each⟩ := List.forall_mem_cons.1 distinct.each
    unfold Entries.put
    split
    · exact ⟨distinct.keys, List.forall_mem_cons.2 ⟨ready, each⟩⟩
    · rename_i different
      have rest := ih ⟨keys, each⟩
      refine ⟨List.nodup_cons.2 ⟨fun mem => ?_, rest.keys⟩,
        List.forall_mem_cons.2 ⟨first, rest.each⟩⟩
      rcases (keys_put key e _ k).1 mem with same | mem
      · exact different same
      · exact fresh mem

theorem put_of_absent (absent : entries.lookup key = none) (e : Entry) :
    put key e entries = entries ++ [(key, e)] := by
  induction entries with
  | nil => rfl
  | cons entry rest ih =>
    obtain ⟨k, old⟩ := entry
    rw [NameMap.lookup_entry] at absent
    split at absent
    · cases absent
    · rename_i different
      rw [put, if_neg (Ne.symm different), ih absent, List.cons_append]

/-- A change of entries that keeps their keys apart. -/
def Keeps (change : Entries → Option Entries) : Prop :=
  ∀ {entries entries' : Entries}, entries.Distinct → change entries = some entries' →
    entries'.Distinct

theorem keeps_addNew {v : Toml} (ready : v.Distinct) : Keeps (addNew key v) := by
  intro entries entries' distinct found
  unfold addNew at found
  split at found
  · rename_i absent
    cases found
    rw [← put_of_absent absent]
    exact distinct.put (.value ready)
  · cases found

theorem keeps_changeAt {missing : Origin} {change : Origin → Entries → Option Entries}
    (keeps : ∀ origin, Keeps (change origin)) (path : List String) (origin : Origin) :
    Keeps (changeAt missing change origin path) := by
  intro entries entries' distinct found
  induction path generalizing origin entries entries' with
  | nil => exact keeps origin distinct found
  | cons key path ih =>
    unfold changeAt at found
    split at found
    · obtain ⟨inner, changed, rfl⟩ := Option.map_eq_some_iff.1 found
      have inner := ih _ .nil changed
      exact distinct.put (.table inner.keys inner.each)
    · cases found
    · rename_i latest earlier there
      obtain ⟨inner, changed, rfl⟩ := Option.map_eq_some_iff.1 found
      cases distinct.get there with
      | tables keys each =>
        obtain ⟨latestKeys, earlierKeys⟩ := List.forall_mem_cons.1 keys
        obtain ⟨latestEach, earlierEach⟩ := List.forall_mem_cons.1 each
        have inner := ih _ ⟨latestKeys, latestEach⟩ changed
        exact distinct.put (.tables (List.forall_mem_cons.2 ⟨inner.keys, earlierKeys⟩)
          (List.forall_mem_cons.2 ⟨inner.each, earlierEach⟩))
    · rename_i o inner there
      split at found
      · cases found
      · obtain ⟨inner, changed, rfl⟩ := Option.map_eq_some_iff.1 found
        cases distinct.get there with
        | table keys each =>
          have inner := ih _ ⟨keys, each⟩ changed
          exact distinct.put (.table inner.keys inner.each)

theorem keeps_assign (path : List String) {v : Toml} (ready : v.Distinct) :
    Keeps (assign path key v) := by
  intro entries entries' distinct found
  unfold assign at found
  split at found
  · exact keeps_addNew ready distinct found
  · refine keeps_changeAt (fun origin => ?_) path .header distinct found
    intro entries entries' distinct found
    split at found
    · exact keeps_addNew ready distinct found
    · cases found

theorem keeps_assignUnder (header path : List String) {v : Toml} (ready : v.Distinct) :
    Keeps (assignUnder header path key v) :=
  keeps_changeAt (fun _ => keeps_assign path ready) header .header

theorem keeps_openTable (path : List String) : Keeps (openTable path key) := by
  refine keeps_changeAt (fun _ => ?_) path .header
  intro entries entries' distinct found
  dsimp only at found
  split at found
  · cases found
    exact distinct.put (.table List.nodup_nil (by simp))
  · rename_i old there
    cases found
    cases distinct.get there with
    | table keys each => exact distinct.put (.table keys each)
  · cases found

theorem keeps_openNext (path : List String) : Keeps (openNext path key) := by
  refine keeps_changeAt (fun _ => ?_) path .header
  intro entries entries' distinct found
  dsimp only at found
  split at found
  · cases found
    exact distinct.put (.tables (by simp) (by simp))
  · rename_i latest earlier there
    cases found
    cases distinct.get there with
    | tables keys each =>
      exact distinct.put (.tables (List.forall_mem_cons.2 ⟨List.nodup_nil, keys⟩)
        (List.forall_mem_cons.2 ⟨by simp, each⟩))
  · cases found

/-! The values of tables that are complete -/

theorem values_eq (entries : Entries) :
    values entries = entries.map fun (key, e) => (key, entryValue e) := by
  induction entries with
  | nil => rfl
  | cons entry rest ih => rw [values, ih, List.map_cons]

theorem tableValues_eq (earlier : List Entries) (later : List Toml) :
    tableValues earlier later = earlier.reverse.map (fun t => .table (values t)) ++ later := by
  induction earlier generalizing later with
  | nil => rfl
  | cons t earlier ih => rw [tableValues, ih]; simp

theorem table_distinct {entries : Entries} (keys : (entries.map (·.1)).Nodup)
    (each : ∀ e ∈ entries, (entryValue e.2).Distinct) :
    Toml.Distinct (.table (values entries)) := by
  rw [values_eq]
  refine .table (by simpa [Function.comp_def] using keys) fun e mem => ?_
  obtain ⟨entry, there, rfl⟩ := List.mem_map.1 mem
  exact each entry there

theorem entryValue_distinct {e : Entry} (distinct : e.Distinct) : (entryValue e).Distinct := by
  induction distinct with
  | value ready => exact ready
  | table keys _ ih => exact table_distinct keys ih
  | @tables latest earlier keys _ ih =>
    rw [entryValue, tableValues_eq]
    refine .array fun v mem => ?_
    obtain ⟨t, there, rfl⟩ : ∃ t ∈ latest :: earlier, .table (values t) = v := by
      simpa [or_comm, eq_comm] using mem
    exact table_distinct (keys t there) (ih t there)

theorem Distinct.values (distinct : entries.Distinct) : Toml.Distinct (.table (values entries)) :=
  table_distinct distinct.keys fun e mem => entryValue_distinct (distinct.each e mem)

end Entries

/-! What is read -/

def ReadsDistinct (read : Reader Toml) : Prop :=
  ∀ {cs after : List Char} {v : Toml}, read cs = some (v, after) → v.Distinct

theorem scalar?_distinct {word : List Char} {v : Toml} (found : scalar? word = some v) :
    v.Distinct := by
  unfold scalar? at found
  split at found
  · cases found
    exact .bool
  · split at found
    · cases found
      exact .bool
    · split at found
      all_goals cases found
      · exact .whole
      · exact .real
      · exact .time

theorem readScalar_distinct : ReadsDistinct readScalar := by
  intro cs after v found
  unfold readScalar at found
  dsimp only at found
  split at found
  · rename_i longer
    split at longer
    · split at longer
      · obtain ⟨t, -, same⟩ := Option.map_eq_some_iff.1 longer
        cases same.trans (Option.some.inj found)
        exact .time
      · cases longer
    · cases longer
  · obtain ⟨w, spelled, same⟩ := Option.map_eq_some_iff.1 found
    cases same
    exact scalar?_distinct spelled

theorem readItems_distinct {read : Reader Toml} (reads : ReadsDistinct read) {cs after : List Char}
    {vs : List Toml} (found : readItems read cs = some (vs, after)) : ∀ v ∈ vs, v.Distinct := by
  fun_induction readItems read cs generalizing vs after with
  | case1 | case5 | case6 => cases found
  | case2 cs v behind first | case3 cs v behind first =>
    cases found
    exact List.forall_mem_singleton.2 (reads first)
  | case4 cs v behind first rest _ _ _ ih =>
    obtain ⟨⟨others, after'⟩, more, same⟩ := Option.map_eq_some_iff.1 found
    cases same
    exact List.forall_mem_cons.2 ⟨reads first, ih more⟩

theorem readEntries_distinct {read : Reader Toml} (reads : ReadsDistinct read)
    {cs after : List Char} {before entries : Entries} (distinct : before.Distinct)
    (found : readEntries read before cs = some (entries, after)) : entries.Distinct := by
  fun_induction readEntries read before cs generalizing entries after with
  | case1 | case2 | case5 | case6 | case7 | case8 => cases found
  | case3 before cs _ _ path _ v _ value _ _ assigned =>
    cases found
    exact Entries.keeps_assign path (reads value) distinct assigned
  | case4 before cs _ _ path _ v _ value _ _ assigned _ _ _ _ ih =>
    exact ih (Entries.keeps_assign path (reads value) distinct assigned) found

theorem readValue_distinct (depth : Nat) : ReadsDistinct (readValue depth) := by
  intro cs after v found
  induction depth using Nat.strongRecOn generalizing cs after v with
  | ind depth ih =>
    unfold readValue at found
    split at found
    · obtain ⟨_, -, same⟩ := Option.map_eq_some_iff.1 found
      cases same
      exact .text
    · obtain ⟨_, -, same⟩ := Option.map_eq_some_iff.1 found
      cases same
      exact .text
    · cases found
    · cases found
    · rename_i inner _
      have reads : ReadsDistinct (readValue inner) := ih inner (Nat.lt_succ_self inner)
      split at found
      · cases found
        exact .array (by simp)
      · obtain ⟨_, items, same⟩ := Option.map_eq_some_iff.1 found
        cases same
        exact .array (readItems_distinct reads items)
    · rename_i inner _
      have reads : ReadsDistinct (readValue inner) := ih inner (Nat.lt_succ_self inner)
      split at found
      · cases found
        exact .table List.nodup_nil (by simp)
      · obtain ⟨_, entries, same⟩ := Option.map_eq_some_iff.1 found
        cases same
        exact (readEntries_distinct reads .nil entries).values
    · exact readScalar_distinct found

def Statement.Distinct : Statement → Prop
  | .assign _ _ v => v.Distinct
  | .openTable _ _ | .openNext _ _ => True

theorem readStatement_distinct {cs after : List Char} {s : Statement}
    (found : readStatement cs = some (s, after)) : s.Distinct := by
  unfold readStatement at found
  split at found
  · split at found
    · obtain ⟨_, -, same⟩ := Option.map_eq_some_iff.1 found
      cases same
      trivial
    · cases found
  · split at found
    · obtain ⟨_, -, same⟩ := Option.map_eq_some_iff.1 found
      cases same
      trivial
    · cases found
  · split at found
    · split at found
      · rename_i value
        cases found
        exact readValue_distinct maxDepth value
      · cases found
    · cases found

theorem readStatements_distinct {cs : List Char} {statements : List Statement}
    (found : readStatements cs = some statements) : ∀ s ∈ statements, s.Distinct := by
  fun_induction readStatements cs generalizing statements with
  | case1 =>
    cases found
    exact List.forall_mem_nil _
  | case2 _ _ _ _ _ _ ih => exact ih found
  | case6 _ s _ _ _ _ _ _ first ih =>
    obtain ⟨others, more, rfl⟩ := Option.map_eq_some_iff.1 found
    exact List.forall_mem_cons.2 ⟨readStatement_distinct first, ih more⟩
  | case3 | case4 | case5 | case7 | case8 => cases found

theorem assemble_distinct {statements : List Statement} (each : ∀ s ∈ statements, s.Distinct)
    {header : List String} {before entries : Entries} (distinct : before.Distinct)
    (found : assemble header before statements = some entries) : entries.Distinct := by
  induction statements generalizing header before with
  | nil =>
    cases found
    exact distinct
  | cons s statements ih =>
    obtain ⟨first, others⟩ := List.forall_mem_cons.1 each
    cases s with
    | assign path key v =>
      obtain ⟨next, changed, found⟩ := Option.bind_eq_some_iff.1 found
      exact ih others (Entries.keeps_assignUnder header path first distinct changed) found
    | openTable path key =>
      obtain ⟨next, changed, found⟩ := Option.bind_eq_some_iff.1 found
      exact ih others (Entries.keeps_openTable path distinct changed) found
    | openNext path key =>
      obtain ⟨next, changed, found⟩ := Option.bind_eq_some_iff.1 found
      exact ih others (Entries.keeps_openNext path distinct changed) found

theorem ofText?_distinct {text : String} {t : Toml} (found : ofText? text = some t) :
    t.Distinct := by
  unfold ofText? at found
  dsimp only at found
  split at found
  · cases found
  · rename_i statements read
    obtain ⟨entries, built, rfl⟩ := Option.map_eq_some_iff.1 found
    exact (assemble_distinct (readStatements_distinct read) .nil built).values

end TimelineFilter.Toml
