import TimelineFilter.Proofs.NameMaps
import TimelineFilter.Proofs.Toml.Lines
import TimelineFilter.Settings.Stored

namespace TimelineFilter

namespace Toml.Entries

theorem lookup_put (key : String) (e : Entry) (entries : Entries) :
    (put key e entries).lookup key = some e := by
  induction entries with
  | nil => simp [put]
  | cons entry rest ih =>
    obtain ⟨k, old⟩ := entry
    unfold put
    split
    · rename_i same
      simp [same]
    · rename_i different
      rw [NameMap.lookup_entry, if_neg (Ne.symm different), ih]

theorem put_put (key : String) (e e' : Entry) (entries : Entries) :
    put key e (put key e' entries) = put key e entries := by
  induction entries with
  | nil => simp [put]
  | cons entry rest ih =>
    obtain ⟨k, old⟩ := entry
    by_cases same : k = key
    · simp [put, same]
    · simp [put, same, ih]

theorem put_lookup {key : String} {e : Entry} {entries : Entries}
    (there : entries.lookup key = some e) : put key e entries = entries := by
  induction entries with
  | nil => cases there
  | cons entry rest ih =>
    obtain ⟨k, old⟩ := entry
    rw [NameMap.lookup_entry] at there
    unfold put
    by_cases same : key = k
    · rw [if_pos same] at there
      cases there
      rw [if_pos same.symm]
    · rw [if_neg same] at there
      rw [if_neg (Ne.symm same), ih there]

theorem assignUnder_new {header key : String} {v : Toml} {entries done : Entries}
    (there : entries.lookup header = some (.table .header done)) (fresh : done.lookup key = none) :
    assignUnder [header] [] key v entries =
      some (put header (.table .header (done ++ [(key, .value v)])) entries) := by
  simp [assignUnder, changeAt, assign, addNew, there, fresh]

end Toml.Entries

namespace Toml

theorem assemble_lines {header : String} {entries done : Entries} (lines : List (String × Toml))
    (rest : List Statement) (there : entries.lookup header = some (.table .header done))
    (distinct : (done.map (·.1) ++ lines.map (·.1)).Nodup) :
    assemble [header] entries (lines.map (fun (key, v) => .assign [] key v) ++ rest) =
      assemble [header] (Entries.put header
        (.table .header (done ++ lines.map fun (key, v) => (key, .value v))) entries) rest := by
  induction lines generalizing entries done with
  | nil =>
    rw [List.map_nil, List.map_nil, List.append_nil, List.nil_append, Entries.put_lookup there]
  | cons line lines ih =>
    obtain ⟨key, v⟩ := line
    have fresh : done.lookup key = none := by
      rw [List.lookup_eq_none_iff]
      intro e mem
      have apart := (List.nodup_append.1 distinct).2.2 e.1 (List.mem_map_of_mem mem) key (by simp)
      exact bne_iff_ne.2 (Ne.symm apart)
    have distinct' : ((done ++ [(key, Entry.value v)]).map (·.1) ++ lines.map (·.1)).Nodup := by
      simpa using distinct
    rw [List.map_cons, List.cons_append, assemble, Entries.assignUnder_new there fresh,
      Option.bind_some, ih (Entries.lookup_put _ _ _) distinct', Entries.put_put, List.append_assoc]
    rfl

theorem ofText?_unmarked {text : String} {statements : List Statement}
    (unmarked : ∀ rest, text.toList ≠ '\ufeff' :: rest)
    (read : readStatements text.toList = some statements) :
    ofText? text =
      (assemble [] [] statements).map fun found => .table (Entries.values found) := by
  unfold ofText?
  dsimp only
  split
  · rename_i failed
    split at failed
    · rename_i rest marked
      exact absurd marked (unmarked rest)
    · cases failed.symm.trans read
  · rename_i statements' found
    split at found
    · rename_i rest marked
      exact absurd marked (unmarked rest)
    · cases found.symm.trans read
      rfl

theorem values_lines (lines : List (String × Toml)) :
    Entries.values (lines.map fun (key, v) => (key, .value v)) = lines := by
  induction lines with
  | nil => rfl
  | cons line lines ih => rw [List.map_cons, Entries.values, ih, Entries.entryValue]

end Toml

namespace Settings

theorem spellsKey_keyChars (name : String) : Toml.SpellsKey (keyChars name) name := by
  unfold keyChars
  split
  · rename_i bare
    simp only [Bool.and_eq_true, Bool.not_eq_true', List.isEmpty_eq_false_iff] at bare
    exact Toml.spellsKey_bare bare.1 (List.all_eq_true.1 bare.2)
  · exact Toml.spellsKey_quoted name

theorem readStatements_line {key value : List Char} {name : String} {v : Toml}
    (named : Toml.SpellsKey key name) (valued : Toml.SpellsValue value v) (rest : List Char) :
    Toml.readStatements (line key value ++ rest) =
      (Toml.readStatements rest).map (.assign [] name v :: ·) := by
  have read := Toml.readStatements_assign named valued rest
  simpa [line] using read

def outputLines (color : Option Bool) : List (String × Toml) :=
  color.toList.map fun b => ("color", .bool b)

def queryLines (queries : NameMap String) : List (String × Toml) :=
  queries.entries.map fun (name, text) => (name, .text text)

def assigns (lines : List (String × Toml)) : List Toml.Statement :=
  lines.map fun (key, v) => .assign [] key v

def queryStatements (queries : NameMap String) : List Toml.Statement :=
  if queries.isEmpty then [] else .openTable [] "queries" :: assigns (queryLines queries)

def statements (s : Settings) : List Toml.Statement :=
  .assign [] "version" (.whole layoutVersion) :: .openTable [] "output" ::
    (assigns (outputLines s.color) ++ queryStatements s.queries)

theorem spellsKey_word (word : String) (nonempty : word.toList ≠ [])
    (all : word.toList.all Toml.isKeyChar = true) : Toml.SpellsKey word.toList word :=
  Toml.spellsKey_bare nonempty (List.all_eq_true.1 all)

theorem readStatements_saved (entries : List (String × String)) :
    Toml.readStatements (entries.flatMap fun (name, text) =>
      line (keyChars name) (Toml.quotedChars text)) =
        some (assigns (entries.map fun (name, text) => (name, .text text))) := by
  induction entries with
  | nil =>
    rw [List.flatMap_nil, Toml.readStatements]
    rfl
  | cons entry entries ih =>
    obtain ⟨name, text⟩ := entry
    rw [List.flatMap_cons, readStatements_line (spellsKey_keyChars name)
      (Toml.spellsValue_quoted text), ih]
    rfl

theorem readStatements_queries (queries : NameMap String) :
    Toml.readStatements (if queries.isEmpty then [] else "\n[queries]\n".toList ++
      queries.entries.flatMap fun (name, text) => line (keyChars name) (Toml.quotedChars text)) =
        some (queryStatements queries) := by
  unfold queryStatements
  split
  · rw [Toml.readStatements]
    rfl
  · have header := Toml.readStatements_header (spellsKey_word "queries" (by decide) (by decide))
      (queries.entries.flatMap fun (name, text) => line (keyChars name) (Toml.quotedChars text))
    rw [readStatements_saved] at header
    exact (Toml.readStatements_empty _).trans header

theorem readStatements_color (s : Settings) :
    Toml.readStatements ((match s.color with
        | some b => line "color".toList (flagText b).toList
        | none => []) ++
      if s.queries.isEmpty then [] else "\n[queries]\n".toList ++
        s.queries.entries.flatMap fun (name, text) =>
          line (keyChars name) (Toml.quotedChars text)) =
      some (assigns (outputLines s.color) ++ queryStatements s.queries) := by
  have queries := readStatements_queries s.queries
  cases s.color with
  | none => exact queries
  | some b =>
    have color := readStatements_line (spellsKey_word "color" (by decide) (by decide))
      (Toml.spellsValue_flag b)
    exact (color _).trans (congrArg (Option.map _) queries)

theorem readStatements_render (s : Settings) :
    Toml.readStatements s.render.toList = some s.statements := by
  have header := fun rest => Toml.readStatements_header
    (spellsKey_word "output" (by decide) (by decide)) rest
  have output : ∀ rest, Toml.readStatements ("\n[output]\n".toList ++ rest) =
      (Toml.readStatements rest).map (.openTable [] "output" :: ·) := fun rest =>
    (Toml.readStatements_empty _).trans (header rest)
  have version : Toml.SpellsValue (Nat.toDigits 10 layoutVersion) (.whole layoutVersion) :=
    Toml.spellsValue_one
  unfold render
  rw [String.toList_ofList, List.append_assoc, List.append_assoc,
    readStatements_line (spellsKey_word "version" (by decide) (by decide)) version, output]
  exact congrArg (fun found => (found.map (.openTable [] "output" :: ·)).map
    (.assign [] "version" (.whole layoutVersion) :: ·)) s.readStatements_color

def table (s : Settings) : List (String × Toml) :=
  [("version", .whole layoutVersion), ("output", .table (outputLines s.color))] ++
    if s.queries.isEmpty then [] else [("queries", .table (queryLines s.queries))]

theorem outputLines_distinct (color : Option Bool) : ((outputLines color).map (·.1)).Nodup := by
  cases color <;> simp [outputLines]

theorem queryLines_distinct (queries : NameMap String) :
    ((queryLines queries).map (·.1)).Nodup := by
  have names : (queryLines queries).map (·.1) = queries.entries.map (·.1) := by
    simp [queryLines, Function.comp_def]
  rw [names]
  refine List.Pairwise.imp ?_ queries.ascending
  rintro a _ below rfl
  exact String.lt_irrefl a below

/-- The tables of the settings while the part for queries has not been started. -/
def outputEntries (s : Settings) : Toml.Entries :=
  [("version", .value (.whole layoutVersion)),
    ("output", .table .header ((outputLines s.color).map fun (key, v) => (key, .value v)))]

theorem assemble_output (s : Settings) (rest : List Toml.Statement) :
    Toml.assemble [] [] (.assign [] "version" (.whole layoutVersion) :: .openTable [] "output" ::
      (assigns (outputLines s.color) ++ rest)) = Toml.assemble ["output"] s.outputEntries rest := by
  let entries : Toml.Entries :=
    [("version", .value (.whole layoutVersion)), ("output", .table .header [])]
  have there : entries.lookup "output" = some (.table .header []) := rfl
  exact Toml.assemble_lines (outputLines s.color) rest there (outputLines_distinct s.color)

theorem assemble_queries (s : Settings) :
    Toml.assemble ["output"] s.outputEntries
        (.openTable [] "queries" :: assigns (queryLines s.queries)) =
      some (s.outputEntries ++ [("queries",
        .table .header ((queryLines s.queries).map fun (key, v) => (key, .value v)))]) := by
  have there : List.lookup "queries" (s.outputEntries ++ [("queries", .table .header [])]) =
      some (.table .header []) := rfl
  have lines := Toml.assemble_lines (queryLines s.queries) [] there
    (queryLines_distinct s.queries)
  rw [List.append_nil] at lines
  exact lines

theorem assemble_statements (s : Settings) :
    (Toml.assemble [] [] s.statements).map Toml.Entries.values = some s.table := by
  rw [statements, assemble_output]
  unfold queryStatements table
  split
  · simp only [Toml.assemble, Option.map_some, outputEntries, Toml.Entries.values,
      Toml.Entries.entryValue, Toml.values_lines, List.append_nil]
  · rw [assemble_queries]
    simp only [Option.map_some, outputEntries, Toml.Entries.values, Toml.Entries.entryValue,
      Toml.values_lines, List.cons_append, List.nil_append]

theorem texts?_queryLines (entries : List (String × String)) :
    texts? (entries.map fun (name, text) => (name, Toml.text text)) = some entries := by
  induction entries with
  | nil => rfl
  | cons entry entries ih =>
    obtain ⟨name, text⟩ := entry
    rw [List.map_cons, texts?, ih]
    rfl

theorem color?_table (s : Settings) : color? (.table s.table) = some s.color := by
  obtain ⟨color, queries⟩ := s
  cases color <;> rfl

theorem queries?_table (s : Settings) : queries? (.table s.table) = some s.queries.entries := by
  unfold table
  split
  · rename_i none
    rw [NameMap.isEmpty, List.isEmpty_iff] at none
    rw [none]
    rfl
  · exact texts?_queryLines s.queries.entries

theorem ofToml?_table (s : Settings) : ofToml? (.table s.table) = some s := by
  have version : versionFits (.table s.table) = true := rfl
  rw [ofToml?, if_pos version, color?_table, queries?_table]
  dsimp only
  rw [NameMap.ofList_entries]

theorem ofText?_render (s : Settings) : Toml.ofText? s.render = some (.table s.table) := by
  obtain ⟨entries, built, values⟩ := Option.map_eq_some_iff.1 s.assemble_statements
  have unmarked : ∀ rest, s.render.toList ≠ '\ufeff' :: rest := by
    intro rest same
    rw [render, String.toList_ofList] at same
    cases same
  rw [Toml.ofText?_unmarked unmarked s.readStatements_render, built, Option.map_some, values]

theorem ofText_render (s : Settings) : ofText s.render = .ok s := by
  rw [ofText, s.ofText?_render, Option.bind_some, ofToml?_table]

end Settings

end TimelineFilter
