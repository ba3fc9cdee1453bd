import TimelineFilter.Proofs.CanonicalText
import TimelineFilter.Proofs.Settings.Changes
import TimelineFilter.Proofs.Settings.Stored
import TimelineFilter.Standalone
import Mathlib.Data.List.Induction

/-! The settings file under one command line after another. Whatever the command lines are, the file
holds what the successful ones among them add up to, and a saved query can be used in place of the
text that it was saved from. Nothing is said of a file that something else has written. -/
namespace TimelineFilter.Command

/-- A command line and what can be observed when it is carried out. The settings file is the one
that earlier command lines have left. -/
structure Step where
  world : World
  arguments : List String

def Step.worldAt (step : Step) (file : FileState) : World := { step.world with settings := file }

section

variable [Regex.Engine] [Wording]

def Step.outcome (step : Step) (file : FileState) : Outcome :=
  run (step.worldAt file) step.arguments

def Step.fileAfter (step : Step) (file : FileState) : FileState :=
  (step.outcome file).stored.getD file

def fileAfter (file : FileState) (steps : List Step) : FileState :=
  steps.foldl (fun file step => step.fileAfter file) file

def Step.carriedOut (step : Step) (file : FileState) : List Task :=
  if (step.outcome file).code = 0 then (task? step.arguments).toList else []

/-- The tasks of the command lines that succeed, in their order. -/
def carriedOut (file : FileState) : List Step → List Task
  | [] => []
  | step :: steps => step.carriedOut file ++ carriedOut (step.fileAfter file) steps

end

/-- What a task leaves under a key, where `read` is what is stored for a value. -/
def Task.leaves {α : Type} (key : String) (read : String → Option α) (found : Option α) :
    Task → Option α
  | .set k value => if k = key then read value else found
  | .unset k => if k = key then none else found
  | _ => found

def left {α : Type} (key : String) (read : String → Option α) (tasks : List Task) : Option α :=
  tasks.foldl (Task.leaves key read) none

/-- Settings hold what tasks leave under each key. -/
structure Holds (s : Settings) (tasks : List Task) : Prop where
  color : s.color = left "output.color" flag? tasks
  queries : ∀ name, s.queries.find? name = left ("queries." ++ name) Settings.canonical? tasks

theorem left_append {α : Type} (key : String) (read : String → Option α) (before : List Task)
    (task : Task) :
    left key read (before ++ [task]) = task.leaves key read (left key read before) :=
  List.foldl_append

theorem Task.leaves_other {α : Type} {key : String} {task : Task} (other : task.key? ≠ some key)
    (read : String → Option α) (found : Option α) : task.leaves key read found = found := by
  cases task with
  | set k value =>
    refine if_neg ?_
    rintro rfl
    exact other rfl
  | unset k =>
    refine if_neg ?_
    rintro rfl
    exact other rfl
  | greet | check | eval | sources | fields | showSettings | settingsPath | completions => rfl

theorem foldl_leaves_others {α : Type} {key : String} {tasks : List Task}
    (others : ∀ task ∈ tasks, task.key? ≠ some key) (read : String → Option α) (found : Option α) :
    tasks.foldl (Task.leaves key read) found = found := by
  induction tasks with
  | nil => rfl
  | cons task tasks ih =>
    obtain ⟨other, others⟩ := List.forall_mem_cons.1 others
    rw [List.foldl_cons, Task.leaves_other other, ih others]

theorem left_set_last {α : Type} {key value : String} {before after : List Task}
    (last : ∀ task ∈ after, task.key? ≠ some key) (read : String → Option α) :
    left key read (before ++ .set key value :: after) = read value := by
  rw [left, List.foldl_append, List.foldl_cons, foldl_leaves_others last]
  exact if_pos rfl

theorem exists_of_left {α : Type} {key : String} {read : String → Option α} {tasks : List Task}
    {a : α} (found : left key read tasks = some a) : ∃ value, read value = some a := by
  -- From the end, since the last task about the key decides.
  induction tasks using List.reverseRecOn with
  | nil => cases found
  | append_singleton tasks task ih =>
    rw [left_append] at found
    cases task with
    | set k value =>
      rw [Task.leaves] at found
      split at found
      · exact ⟨value, found⟩
      · exact ih found
    | unset k =>
      rw [Task.leaves] at found
      split at found
      · cases found
      · exact ih found
    | greet | check | eval | sources | fields | showSettings | settingsPath | completions =>
      exact ih found

namespace Holds

variable {s s' : Settings} {tasks : List Task}

theorem initial : Holds Settings.initial [] := ⟨rfl, fun _ => rfl⟩

theorem others (held : Holds s tasks) {more : List Task}
    (others : ∀ task ∈ more, task.key? = none) : Holds s (tasks ++ more) := by
  have apart : ∀ key, ∀ task ∈ more, task.key? ≠ some key := by
    intro key task mem same
    cases (others task mem).symm.trans same
  constructor
  · rw [left, List.foldl_append, foldl_leaves_others (apart _)]
    exact held.color
  · intro name
    rw [left, List.foldl_append, foldl_leaves_others (apart _)]
    exact held.queries name

theorem changed (held : Holds s tasks) {task : Task} (changes : s.Changes task s') :
    Holds s' (tasks ++ [task]) := by
  cases changes with
  | @setColor value b read =>
    refine ⟨?_, fun name => ?_⟩
    · rw [left_append, Task.leaves, if_pos rfl, read]
    · rw [left_append, Task.leaves, if_neg (Settings.color_ne_query name), ← held.queries]
  | @setQuery name value q compiled =>
    refine ⟨?_, fun z => ?_⟩
    · rw [left_append, Task.leaves, if_neg (Settings.color_ne_query name).symm, ← held.color]
    · have stored : Settings.canonical? value = some q.render :=
        Settings.canonical?_eq_some_iff.2 ⟨q, compiled, rfl⟩
      rw [left_append, Task.leaves, NameMap.find?_insert, stored, held.queries]
      exact if_congr (eq_comm.trans Settings.query_inj.symm) rfl rfl
  | unsetColor =>
    refine ⟨?_, fun name => ?_⟩
    · rw [left_append, Task.leaves, if_pos rfl]
    · rw [left_append, Task.leaves, if_neg (Settings.color_ne_query name), ← held.queries]
  | @unsetQuery name =>
    refine ⟨?_, fun z => ?_⟩
    · rw [left_append, Task.leaves, if_neg (Settings.color_ne_query name).symm, ← held.color]
    · rw [left_append, Task.leaves, NameMap.find?_erase, held.queries]
      exact if_congr (eq_comm.trans Settings.query_inj.symm) rfl rfl

theorem canonical (held : Holds s tasks) {name text : String}
    (found : s.queries.find? name = some text) :
    ∃ q, Query.compile text = .ok q ∧ q.render = text := by
  rw [held.queries] at found
  obtain ⟨value, stored⟩ := exists_of_left found
  obtain ⟨q, compiled, rfl⟩ := Settings.canonical?_eq_some_iff.1 stored
  exact ⟨q, Query.compile_canonical compiled, rfl⟩

end Holds

inductive Asks : (QueryChoice → Task) → Prop
  | check : Asks .check
  | eval (input : String) (limit : Option Nat) : Asks (.eval · input limit)

section

variable [Regex.Engine] [Wording]

namespace Step

variable (step : Step) {file : FileState}

/-- Where no key is changed the file stays unless writing it fails, and otherwise it is written with
the change. -/
theorem effect (file : FileState) :
    ((step.fileAfter file = file ∨ (step.worldAt file).Breaks (step.fileAfter file)) ∧
        ∀ task ∈ step.carriedOut file, task.key? = none) ∨
      ∃ task s s', Settings.load file = .ok s ∧ s.Changes task s' ∧
        step.carriedOut file = [task] ∧ step.fileAfter file = .text s'.render := by
  have stores : Stores (step.worldAt file) step.arguments (step.outcome file) := run_stores _ _
  rw [fileAfter, carriedOut]
  cases stores with
  | nothing stored other =>
    left
    rw [stored]
    refine ⟨.inl rfl, ?_⟩
    intro task mem
    split at mem
    · exact other task (Option.mem_toList.1 mem)
    · cases mem
  | failed code untouched =>
    left
    rw [if_neg code]
    refine ⟨?_, by simp⟩
    cases stored : (step.outcome file).stored with
    | none => exact .inl rfl
    | some left => exact .inr (untouched left stored)
  | @changed task s s' read code loaded changes stored =>
    right
    rw [stored, if_pos code, read]
    exact ⟨task, s, s', loaded, changes, rfl, rfl⟩

variable {step}

theorem fileAfter_kept (keeps : step.world.KeepsFile)
    (same : step.fileAfter file = file ∨ (step.worldAt file).Breaks (step.fileAfter file)) :
    step.fileAfter file = file :=
  same.elim id (World.KeepsFile.breaks (w := step.worldAt file) keeps)

theorem fileAfter_of_failed (keeps : step.world.KeepsFile)
    (failed : (step.outcome file).code ≠ 0) : step.fileAfter file = file := by
  have nothing : step.carriedOut file = [] := if_neg failed
  rcases step.effect file with ⟨same, -⟩ | ⟨task, s, s', -, -, done, -⟩
  · exact fileAfter_kept keeps same
  · cases nothing.symm.trans done

theorem holds (keeps : step.world.KeepsFile) {s : Settings} {tasks : List Task}
    (loaded : Settings.load file = .ok s) (held : Holds s tasks) :
    ∃ s', Settings.load (step.fileAfter file) = .ok s' ∧
      Holds s' (tasks ++ step.carriedOut file) := by
  rcases step.effect file with ⟨same, others⟩ | ⟨task, before, s', loaded', changes, done, written⟩
  · rw [fileAfter_kept keeps same]
    exact ⟨s, loaded, held.others others⟩
  · cases loaded.symm.trans loaded'
    rw [done, written]
    exact ⟨s', Settings.ofText_render s', held.changed changes⟩

theorem compiles {name value : String}
    (mem : .set ("queries." ++ name) value ∈ step.carriedOut file) :
    ∃ q, Query.compile value = .ok q := by
  rcases step.effect file with ⟨-, others⟩ | ⟨task, s, s', -, changes, done, -⟩
  · cases others _ mem
  · rw [done, List.mem_singleton] at mem
    exact changes.compiles mem.symm

theorem carriedOut_set {s : Settings} {flags : Flags} {name value : String} {q : Query}
    (asked : Invocation.ofArguments step.arguments = .ok ⟨flags, .set ("queries." ++ name) value⟩)
    (named : name ≠ "") (compiles : Query.compile value = .ok q)
    (loaded : Settings.load file = .ok s) (saves : ∀ text, step.world.save file text = .ok ()) :
    step.carriedOut file = [.set ("queries." ++ name) value] := by
  have done : (Settings.load file >>= fun s => s.set ("queries." ++ name) value) =
      .ok (q.render, { s with queries := s.queries.insert name q.render }) := by
    rw [loaded]
    exact s.set_query named compiles
  have code : (step.outcome file).code = 0 :=
    (run_set (w := step.worldAt file) asked done (saves _)).1
  rw [carriedOut, if_pos code, task?, asked]
  rfl

end Step

theorem holds_run {steps : List Step} (keep : ∀ step ∈ steps, step.world.KeepsFile)
    {file : FileState} {s : Settings} {tasks : List Task} (loaded : Settings.load file = .ok s)
    (held : Holds s tasks) :
    ∃ s', Settings.load (fileAfter file steps) = .ok s' ∧
      Holds s' (tasks ++ carriedOut file steps) := by
  -- The tasks carried out so far go along: what they leave is all that later ones see of them.
  induction steps generalizing file s tasks with
  | nil => exact ⟨s, loaded, by rwa [carriedOut, List.append_nil]⟩
  | cons step steps ih =>
    obtain ⟨keeps, keep⟩ := List.forall_mem_cons.1 keep
    obtain ⟨s₁, loaded₁, held₁⟩ := Step.holds keeps loaded held
    rw [carriedOut, ← List.append_assoc]
    exact ih keep loaded₁ held₁

theorem compiles_of_carriedOut (steps : List Step) {file : FileState} {name value : String}
    (mem : .set ("queries." ++ name) value ∈ carriedOut file steps) :
    ∃ q, Query.compile value = .ok q := by
  induction steps generalizing file with
  | nil => cases mem
  | cons step steps ih =>
    rcases List.mem_append.1 mem with now | later
    · exact Step.compiles now
    · exact ih later

theorem Asks.perform_eq {ask : QueryChoice → Task} (asks : Asks ask) (w : World) (flags : Flags)
    {c c' : QueryChoice} (same : compiled w c = compiled w c') :
    perform w flags (ask c) = perform w flags (ask c') := by
  cases asks with
  | check =>
    change Command.check w flags c = Command.check w flags c'
    unfold Command.check
    rw [same]
  | eval input limit =>
    change Command.eval w flags c input limit = Command.eval w flags c' input limit
    unfold Command.eval
    rw [same]

/-- To ask about the query that is saved under a name is to ask about a text: the exit code, the
output and the words about a failure are the same with all flags, every snapshot and limit, and at
any time. -/
def StandsFor (file : FileState) (name text : String) : Prop :=
  ∀ (w : World) (flags : Flags) {ask : QueryChoice → Task}, Asks ask → ∀ {args args' : List String},
    Invocation.ofArguments args = .ok ⟨flags, ask ⟨none, some name⟩⟩ →
    Invocation.ofArguments args' = .ok ⟨flags, ask ⟨some text, none⟩⟩ →
      let o := run { w with settings := file } args
      let o' := run { w with settings := file } args'
      o.code = o'.code ∧ o.stdout = o'.stdout ∧ o.errorText = o'.errorText

theorem standsFor_of_saved {file : FileState} {s : Settings} {name text : String} {q : Query}
    (loaded : Settings.load file = .ok s) (saved : s.queries.find? name = some q.render)
    (compiles : Query.compile text = .ok q) : StandsFor file name text := by
  intro w flags ask asks args args' named given o o'
  have same : compiled { w with settings := file } ⟨none, some name⟩ =
      compiled { w with settings := file } ⟨some text, none⟩ := by
    have found : Settings.queryText file none (some name) = .ok q.render := by
      rw [Settings.queryText, loaded]
      change s.saved name = _
      rw [Settings.saved, saved]
    rw [compiled, compiled, found]
    change (Query.compile q.render).mapError _ = (Query.compile text).mapError _
    -- What was saved is the canonical text, which compiles to the same query.
    rw [compiles, Query.compile_canonical compiles]
  have outcomes : o = o' := by
    change run _ args = run _ args'
    rw [run, run, named, given]
    exact congrArg (Effect.outcome flags) (asks.perform_eq _ flags same)
  rw [outcomes]
  exact ⟨rfl, rfl, rfl⟩

/-- Where there was no settings file, every run of command lines leaves a file that holds, under
each key, what the successful ones add up to, with every query in its canonical form; a command line
that fails then leaves this file; and the name of a query stands for the text that it was last set
to. It is assumed that a file that cannot be written stays as it was. -/
theorem fileAfter_absent {steps : List Step} (keep : ∀ step ∈ steps, step.world.KeepsFile) :
    (∃ s, Settings.load (fileAfter .absent steps) = .ok s ∧ Holds s (carriedOut .absent steps) ∧
      ∀ name text, s.queries.find? name = some text →
        ∃ q, Query.compile text = .ok q ∧ q.render = text) ∧
    (∀ step : Step, step.world.KeepsFile → (step.outcome (fileAfter .absent steps)).code ≠ 0 →
      fileAfter .absent (steps ++ [step]) = fileAfter .absent steps) ∧
    ∀ name text before after,
      carriedOut .absent steps = before ++ .set ("queries." ++ name) text :: after →
      (∀ task ∈ after, task.key? ≠ some ("queries." ++ name)) →
        StandsFor (fileAfter .absent steps) name text := by
  have none : Settings.load .absent = .ok .initial := rfl
  obtain ⟨s, loaded, held⟩ := holds_run keep none Holds.initial
  rw [List.nil_append] at held
  refine ⟨⟨s, loaded, held, fun name text => held.canonical⟩, ?_, ?_⟩
  · intro step keeps failed
    rw [fileAfter, List.foldl_append]
    exact Step.fileAfter_of_failed keeps failed
  · intro name text before after tasks last
    have mem : .set ("queries." ++ name) text ∈ carriedOut .absent steps := by simp [tasks]
    obtain ⟨q, compiles⟩ := compiles_of_carriedOut steps mem
    refine standsFor_of_saved loaded ?_ compiles
    rw [held.queries, tasks, left_set_last last]
    exact Settings.canonical?_eq_some_iff.2 ⟨q, compiles, rfl⟩

end

open scoped Standalone

/-- `config set -- queries.rts rt` where the file can be written, then a key that means nothing, and
then `check --saved=rts` and `check -- rt`. -/
theorem fileAfter_absent_retweets :
    let w : World := ⟨"config.toml", .absent, fun _ _ => .ok (), fun _ => .error .notFound,
      .error .notFound, .ofNanoseconds 0⟩
    let steps : List Step := [⟨w, ["config", "set", "--", "queries.rts", "rt"]⟩]
    let file := fileAfter .absent steps
    let o := run { w with settings := file } ["check", "--saved=rts"]
    let o' := run { w with settings := file } ["check", "--", "rt"]
    carriedOut .absent steps = [.set "queries.rts" "rt"] ∧
      fileAfter .absent (steps ++ [⟨w, ["config", "set", "--", "colour", "on"]⟩]) = file ∧
      o.code = o'.code ∧ o.stdout = o'.stdout ∧ o.errorText = o'.errorText := by
  intro w steps file o o'
  have scanned : scan false "rt" = ⟨[⟨.word "rt", 0⟩], none⟩ := by decide +kernel
  have compiles : Query.compile "rt" = .ok ⟨[.implied], .value (.field .retweet)⟩ := by
    have field : Predicate.Derives .atom [.word "rt"] (.value (.field .retweet)) :=
      .value (.field (Catalogue.find?_eq_some_iff.1 rfl))
    rw [Query.compile_eq_ok_iff, scanned]
    exact ⟨rfl, .implied (.bare (field.loosen (by decide)))⟩
  have tasks : carriedOut .absent steps = [.set "queries.rts" "rt"] := by
    have none : Settings.load .absent = .ok .initial := rfl
    rw [carriedOut, carriedOut, List.append_nil]
    have named : "rts" ≠ "" := by decide
    exact Step.carriedOut_set (ofArguments_set ("queries." ++ "rts") "rt") named compiles none
      fun _ => rfl
  have keeps : w.KeepsFile := by
    intro file text u unsaved
    cases unsaved
  have keep : ∀ step ∈ steps, step.world.KeepsFile := by simpa [steps] using keeps
  obtain ⟨⟨s, loaded, -⟩, failing, saved⟩ := fileAfter_absent keep
  refine ⟨tasks, failing _ keeps ?_, ?_⟩
  · have refused : (Settings.load file >>= fun s => s.set "colour" "on") =
        .error (.unknownKey "colour") := by
      rw [loaded]
      rfl
    change ((set { w with settings := file } .plain "colour" "on").outcome .plain).code ≠ 0
    rw [set]
    dsimp only
    rw [refused]
    decide
  · exact saved "rts" "rt" [] [] tasks (by simp) w .plain .check (ofArguments_check_saved "rts")
      (ofArguments_check "rt")

end TimelineFilter.Command
