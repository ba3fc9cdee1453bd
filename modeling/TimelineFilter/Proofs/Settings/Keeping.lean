import TimelineFilter.Proofs.Settings.Changes
import TimelineFilter.Proofs.Settings.Stored
import TimelineFilter.Proofs.Toml.Distinct
import TimelineFilter.Standalone
import Mathlib

/-! What stays in the settings file when one key is set or removed. The file is written anew from
what was read of it, so every value under another key that has a meaning is in it again, and no
value under a key that has none. -/
namespace TimelineFilter

/-- The value at the end of a path of keys, unless a table stands there. -/
def Toml.leaf? (t : Toml) : List String → Option Toml
  | [] =>
    match t with
    | .table _ => none
    | v => some v
  | key :: path => (t.get? key).bind (leaf? · path)

namespace Toml

theorem get?_eq_some_iff {t v : Toml} {key : String} :
    t.get? key = some v ↔ ∃ entries, t = .table entries ∧ entries.lookup key = some v := by
  cases t <;> simp [get?]

theorem leaf?_nil {t v : Toml} : t.leaf? [] = some v ↔ t = v ∧ ∀ inner, v ≠ .table inner := by
  constructor
  · intro found
    cases t <;> cases found <;> simp
  · rintro ⟨rfl, leaf⟩
    cases t with
    | table inner => exact absurd rfl (leaf inner)
    | _ => rfl

theorem leaf?_pair {t v : Toml} {a b : String} : t.leaf? [a, b] = some v ↔
    ∃ entries, t.get? a = some (.table entries) ∧ entries.lookup b = some v ∧
      ∀ inner, v ≠ .table inner := by
  constructor
  · intro found
    obtain ⟨part, there, rest⟩ := Option.bind_eq_some_iff.1 found
    obtain ⟨u, inner, last⟩ := Option.bind_eq_some_iff.1 rest
    obtain ⟨entries, rfl, held⟩ := get?_eq_some_iff.1 inner
    obtain ⟨rfl, leaf⟩ := leaf?_nil.1 last
    exact ⟨entries, there, held, leaf⟩
  · rintro ⟨entries, there, found, leaf⟩
    have inner : (table entries).get? b = some v := found
    rw [leaf?, there, Option.bind_some, leaf?, inner, Option.bind_some]
    exact leaf?_nil.2 ⟨rfl, leaf⟩

theorem exists_of_leaf? {entries : List (String × Toml)} {path : List String} {v : Toml}
    (found : (table entries).leaf? path = some v) :
    ∃ key rest part, path = key :: rest ∧ (key, part) ∈ entries ∧ part.leaf? rest = some v := by
  cases path with
  | nil => cases found
  | cons key rest =>
    obtain ⟨part, there, inner⟩ := Option.bind_eq_some_iff.1 found
    exact ⟨key, rest, part, rfl, mem_of_lookup there, inner⟩

theorem leaf?_keyless {t v : Toml} {path : List String} (keyless : ∀ key, t.get? key = none)
    (found : t.leaf? path = some v) : path = [] := by
  cases path with
  | nil => rfl
  | cons key rest =>
    rw [leaf?, keyless] at found
    cases found

end Toml

namespace Settings

def Key.path : Key → List String
  | .color => ["output", "color"]
  | .query name => ["queries", name]

def Key.text : Key → String
  | .color => "output.color"
  | .query name => "queries." ++ name

def value? (s : Settings) : Key → Option Toml
  | .color => s.color.map .bool
  | .query name => (s.queries.find? name).map .text

theorem Changes.value?_other {s s' : Settings} {task : Command.Task} {key : String} {k : Key}
    (changes : s.Changes task s') (concerns : task.key? = some key) (other : k.text ≠ key) :
    s'.value? k = s.value? k := by
  cases k with
  | color =>
    cases changes with
    | setColor | unsetColor =>
      cases concerns
      exact absurd rfl other
    | setQuery | unsetQuery => rfl
  | query name =>
    cases changes with
    | setColor | unsetColor => rfl
    | @setQuery name' _ q =>
      cases concerns
      have different : name ≠ name' := fun same => other (congrArg ("queries." ++ ·) same)
      rw [value?, value?, NameMap.find?_insert, if_neg different]
    | @unsetQuery name' =>
      cases concerns
      have different : name ≠ name' := fun same => other (congrArg ("queries." ++ ·) same)
      rw [value?, value?, NameMap.find?_erase, if_neg different]

theorem leaf?_of_value? {s : Settings} {k : Key} {v : Toml} (held : s.value? k = some v) :
    (Toml.table s.table).leaf? k.path = some v := by
  cases k with
  | color =>
    obtain ⟨b, set, rfl⟩ := Option.map_eq_some_iff.1 held
    refine Toml.leaf?_pair.2 ⟨outputLines s.color, rfl, ?_, by simp⟩
    rw [set]
    rfl
  | query name =>
    obtain ⟨text, saved, rfl⟩ := Option.map_eq_some_iff.1 held
    have mem : (name, text) ∈ s.queries.entries := NameMap.find?_eq_some_iff.1 saved
    have filled : s.queries.isEmpty = false := by
      rw [NameMap.isEmpty, List.isEmpty_eq_false_iff]
      exact List.ne_nil_of_mem mem
    refine Toml.leaf?_pair.2 ⟨queryLines s.queries, ?_, ?_, by simp⟩
    · rw [table, filled]
      rfl
    · rw [lookup_eq_some_iff_mem (queryLines_distinct s.queries)]
      exact List.mem_map.2 ⟨(name, text), mem, rfl⟩

/-- A file that is written has no values but the version and those of the settings. -/
theorem path_of_leaf? {s : Settings} {path : List String} {v : Toml}
    (found : (Toml.table s.table).leaf? path = some v) :
    path = ["version"] ∨ ∃ k : Key, path = k.path := by
  obtain ⟨key, rest, part, rfl, mem, inner⟩ := Toml.exists_of_leaf? found
  rcases List.mem_append.1 mem with first | queries
  · obtain same | same : (key, part) = ("version", .whole layoutVersion) ∨
        (key, part) = ("output", .table (outputLines s.color)) := by simpa using first
    · cases same
      rw [Toml.leaf?_keyless (fun _ => rfl) inner]
      exact .inl rfl
    · cases same
      obtain ⟨key, rest, part, rfl, mem, inner⟩ := Toml.exists_of_leaf? inner
      obtain ⟨b, -, same⟩ := List.mem_map.1 mem
      cases same
      rw [Toml.leaf?_keyless (fun _ => rfl) inner]
      exact .inr ⟨.color, rfl⟩
  · split at queries
    · cases queries
    · cases List.mem_singleton.1 queries
      obtain ⟨key, rest, part, rfl, mem, inner⟩ := Toml.exists_of_leaf? inner
      obtain ⟨⟨name, text⟩, -, same⟩ := List.mem_map.1 mem
      cases same
      rw [Toml.leaf?_keyless (fun _ => rfl) inner]
      exact .inr ⟨.query _, rfl⟩

theorem texts?_eq_some_iff {entries : List (String × Toml)} {texts : List (String × String)} :
    texts? entries = some texts ↔ entries = texts.map fun (name, t) => (name, .text t) := by
  constructor
  · intro read
    fun_induction texts? entries generalizing texts with
    | case1 =>
      cases read
      rfl
    | case2 key t rest ih =>
      obtain ⟨others, more, rfl⟩ := Option.map_eq_some_iff.1 read
      rw [List.map_cons, ih more]
    | case3 => cases read
  · rintro rfl
    exact texts?_queryLines texts

theorem value?_of_leaf? {t v : Toml} {s : Settings} {k : Key} (distinct : t.Distinct)
    (read : ofToml? t = some s) (stored : t.leaf? k.path = some v) : s.value? k = some v := by
  unfold ofToml? at read
  split at read
  · split at read
    · rename_i color queries switch texts
      cases read
      cases k with
      | color =>
        obtain ⟨entries, output, found, leaf⟩ := Toml.leaf?_pair.1 stored
        unfold color? at switch
        rw [output] at switch
        dsimp only at switch
        rw [found] at switch
        cases v with
        | bool b =>
          cases switch
          rfl
        | _ => cases switch
      | query name =>
        obtain ⟨entries, part, found, leaf⟩ := Toml.leaf?_pair.1 stored
        unfold queries? at texts
        rw [part] at texts
        obtain rfl := texts?_eq_some_iff.1 texts
        cases distinct.get? part with
        | table keys each =>
          obtain ⟨⟨_, text⟩, mem, same⟩ := List.mem_map.1 (Toml.mem_of_lookup found)
          cases same
          have names : (queries.reverse.map (·.1)).Nodup := by
            rw [((List.reverse_perm queries).map _).nodup_iff]
            simpa [Function.comp_def] using keys
          have saved := (lookup_eq_some_iff_mem names).2 (List.mem_reverse.2 mem)
          rw [value?, NameMap.find?_ofList, saved]
          rfl
    · cases read
  · cases read

theorem ofText_ok_iff {text : String} {s : Settings} :
    ofText text = .ok s ↔ ∃ t, Toml.ofText? text = some t ∧ ofToml? t = some s := by
  rw [← Option.bind_eq_some_iff]
  unfold ofText
  cases (Toml.ofText? text).bind ofToml? <;> simp

end Settings

namespace Command

/-- After a command line has set or removed a key, every other value that the file had under a key
with a meaning is in the file as it was. The file has no other values than these, that of the key
and the version. -/
theorem run_keeps [Regex.Engine] [Wording] {w : World} {args : List String} {content key : String}
    {task : Task} (file : w.settings = .text content) (asked : task? args = some task)
    (concerns : task.key? = some key) (done : (run w args).code = 0) :
    ∃ before after stored, Toml.ofText? content = some before ∧
      (run w args).stored = some (.text stored) ∧ Toml.ofText? stored = some after ∧
      (∀ k : Settings.Key, k.text ≠ key → ∀ v,
        before.leaf? k.path = some v → after.leaf? k.path = some v) ∧
      ∀ path v, after.leaf? path = some v →
        path = ["version"] ∨ ∃ k : Settings.Key, path = k.path := by
  cases run_stores w args with
  | nothing _ other =>
    have none := other task asked
    rw [concerns] at none
    cases none
  | failed code => exact absurd done code
  | changed asked' _ loaded changes stored =>
    cases asked.symm.trans asked'
    rw [file] at loaded
    obtain ⟨before, found, read⟩ := Settings.ofText_ok_iff.1 loaded
    refine ⟨before, _, _, found, stored, Settings.ofText?_render _, ?_,
      fun _ _ => Settings.path_of_leaf?⟩
    intro k other v held
    have kept := Settings.value?_of_leaf? (Toml.ofText?_distinct found) read held
    rw [← changes.value?_other concerns other] at kept
    exact Settings.leaf?_of_value? kept

open scoped Standalone

/-- The switch for colours stays where it is when a query is saved. -/
theorem run_keeps_color :
    let w : World := ⟨"config.toml", .text "output.color = false\n", fun _ _ => .ok (),
      fun _ => .error .notFound, .error .notFound, .ofNanoseconds 0⟩
    let args := ["config", "set", "queries.all", "()"]
    task? args = some (.set "queries.all" "()") ∧ (run w args).code = 0 ∧
      ∃ after stored, (run w args).stored = some (.text stored) ∧ Toml.ofText? stored = some after ∧
        after.leaf? ["output", "color"] = some (.bool false) := by
  intro w args
  have asks : Invocation.ofArguments args = .ok ⟨.plain, .set "queries.all" "()"⟩ := rfl
  have asked : task? args = some (.set "queries.all" "()") := by rw [task?, asks]
  have found : Toml.ofText? "output.color = false\n" =
      some (.table [("output", .table [("color", .bool false)])]) := by cbv
  have compiles : Query.compile "()" = .ok ⟨[.implied], .always⟩ := by cbv
  have loaded : Settings.load w.settings = .ok ⟨some false, .empty⟩ :=
    Settings.ofText_ok_iff.2 ⟨_, found, rfl⟩
  have changed : (Settings.load w.settings >>= fun s => s.set "queries.all" "()") =
      .ok ("from local", ⟨some false, NameMap.empty.insert "all" "from local"⟩) := by
    rw [loaded]
    exact Settings.set_query _ (by decide : "all" ≠ "") compiles
  have done : (run w args).code = 0 := (run_set asks changed rfl).1
  refine ⟨asked, done, ?_⟩
  obtain ⟨before, after, stored, found', written, read, keeps, -⟩ :=
    run_keeps rfl asked rfl done
  cases found.symm.trans found'
  exact ⟨after, stored, written, read, keeps .color (by decide) _ rfl⟩

/-- A key without a meaning is lost. -/
theorem run_loses_theme :
    let w : World := ⟨"config.toml", .text "theme = \"dark\"\n", fun _ _ => .ok (),
      fun _ => .error .notFound, .error .notFound, .ofNanoseconds 0⟩
    let o := run w ["config", "set", "output.color", "true"]
    o.code = 0 ∧ ∃ before after stored, Toml.ofText? "theme = \"dark\"\n" = some before ∧
      o.stored = some (.text stored) ∧ Toml.ofText? stored = some after ∧
        before.leaf? ["theme"] = some (.text "dark") ∧ after.leaf? ["theme"] = none := by
  intro w o
  have asks : Invocation.ofArguments ["config", "set", "output.color", "true"] =
      .ok ⟨.plain, .set "output.color" "true"⟩ := rfl
  have found : Toml.ofText? "theme = \"dark\"\n" = some (.table [("theme", .text "dark")]) := by cbv
  have loaded : Settings.load w.settings = .ok ⟨none, .empty⟩ :=
    Settings.ofText_ok_iff.2 ⟨_, found, rfl⟩
  have changed : (Settings.load w.settings >>= fun s => s.set "output.color" "true") =
      .ok ("true", ⟨some true, .empty⟩) := by
    rw [loaded]
    rfl
  obtain ⟨done, stored⟩ := run_set (w := w) asks changed rfl
  exact ⟨done, _, _, _, found, stored, Settings.ofText?_render _, rfl, rfl⟩

end Command

end TimelineFilter
