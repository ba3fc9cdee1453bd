import TimelineFilter.Command
import TimelineFilter.Proofs.Spelling

namespace TimelineFilter

namespace Settings

theorem splitAtPoint_eq_some_iff {text front behind : String} :
    splitAtPoint text = some (front, behind) ↔
      text = front ++ "." ++ behind ∧ ∀ c ∈ front.toList, c ≠ '.' := by
  unfold splitAtPoint
  constructor
  · intro found
    have stopped := List.head?_dropWhile_not (· != '.') text.toList
    have whole := List.takeWhile_append_dropWhile (p := (· != '.')) (l := text.toList)
    split at found
    · cases found
    · rename_i c tail point
      cases found
      rw [point] at stopped whole
      obtain rfl : c = '.' := by simpa using stopped
      refine ⟨?_, ?_⟩
      · refine String.toList_inj.1 (whole.symm.trans ?_)
        simp
      · intro c mem
        rw [String.toList_ofList] at mem
        simpa using List.all_eq_true.1 List.all_takeWhile c mem
  · rintro ⟨rfl, plain⟩
    have all : ∀ c ∈ front.toList, (c != '.') = true := by simpa using plain
    obtain ⟨taken, dropped⟩ := Text.span_run all
      (show ∀ c ∈ ('.' :: behind.toList).head?, (c != '.') = false by simp)
    have whole : (front ++ "." ++ behind).toList = front.toList ++ '.' :: behind.toList := by simp
    rw [whole, taken, dropped]
    simp

namespace Key

theorem ofText?_eq_color_iff {text : String} :
    ofText? text = some .color ↔ text = "output.color" := by
  constructor
  · intro named
    unfold ofText? at named
    split at named
    · rename_i parts
      exact (splitAtPoint_eq_some_iff.1 parts).1
    · cases named
    · cases named
  · rintro rfl
    decide

theorem ofText?_eq_query_iff {text name : String} :
    ofText? text = some (.query name) ↔ text = "queries." ++ name := by
  constructor
  · intro named
    unfold ofText? at named
    split at named
    · cases named
    · rename_i parts
      cases named
      exact (splitAtPoint_eq_some_iff.1 parts).1
    · cases named
  · rintro rfl
    have plain : ∀ c ∈ "queries".toList, c ≠ '.' := by simp
    have parts : splitAtPoint ("queries." ++ name) = some ("queries", name) :=
      splitAtPoint_eq_some_iff.2 ⟨rfl, plain⟩
    unfold ofText?
    rw [parts]
    rfl

end Key

def canonical? (text : String) : Option String := (Query.compile text).toOption.map Query.render

theorem canonical?_eq_some_iff {text canonical : String} :
    canonical? text = some canonical ↔ ∃ q, Query.compile text = .ok q ∧ q.render = canonical := by
  unfold canonical?
  cases Query.compile text <;> simp [Except.toOption]

inductive Changes (s : Settings) : Command.Task → Settings → Prop
  | setColor {value : String} {b : Bool} (read : flag? value = some b) :
    Changes s (.set "output.color" value) { s with color := some b }
  | setQuery {name value : String} {q : Query} (compiled : Query.compile value = .ok q) :
    Changes s (.set ("queries." ++ name) value)
      { s with queries := s.queries.insert name q.render }
  | unsetColor : Changes s (.unset "output.color") { s with color := none }
  | unsetQuery {name : String} :
    Changes s (.unset ("queries." ++ name)) { s with queries := s.queries.erase name }

theorem color_ne_query (name : String) : "output.color" ≠ "queries." ++ name := by
  intro same
  have first := congrArg String.toList same
  rw [String.toList_append] at first
  cases first

theorem query_inj {name name' : String} :
    "queries." ++ name = "queries." ++ name' ↔ name = name' :=
  String.append_right_inj _

theorem Changes.compiles {s s' : Settings} {task : Command.Task} (changes : Changes s task s')
    {name value : String} (set : task = .set ("queries." ++ name) value) :
    ∃ q, Query.compile value = .ok q := by
  cases changes with
  | setColor =>
    injection set with key
    exact absurd key (color_ne_query name)
  | setQuery compiled =>
    injection set with _ same
    exact ⟨_, same ▸ compiled⟩
  | unsetColor | unsetQuery => cases set

theorem set_query (s : Settings) {name value : String} {q : Query} (named : name ≠ "")
    (compiled : Query.compile value = .ok q) :
    s.set ("queries." ++ name) value =
      .ok (q.render, { s with queries := s.queries.insert name q.render }) := by
  rw [set, Key.ofText?_eq_query_iff.2 rfl]
  dsimp only
  rw [if_neg named, compiled]

theorem set_changes {s s' : Settings} {key value shown : String}
    (done : s.set key value = .ok (shown, s')) : Changes s (.set key value) s' := by
  unfold set at done
  split at done
  · rename_i named
    obtain rfl := Key.ofText?_eq_color_iff.1 named
    split at done
    · rename_i b read
      cases done
      exact .setColor read
    · cases done
  · rename_i name named
    obtain rfl := Key.ofText?_eq_query_iff.1 named
    split at done
    · cases done
    · split at done
      · rename_i q compiled
        cases done
        exact .setQuery compiled
      · cases done
  · cases done

theorem unset_changes {s s' : Settings} {key : String} (done : s.unset key = .ok s') :
    Changes s (.unset key) s' := by
  unfold unset at done
  split at done
  · rename_i named
    obtain rfl := Key.ofText?_eq_color_iff.1 named
    split at done
    · cases done
      exact .unsetColor
    · cases done
  · rename_i name named
    obtain rfl := Key.ofText?_eq_query_iff.1 named
    split at done
    · cases done
      exact .unsetQuery
    · cases done
  · cases done

end Settings

namespace Command

def Task.key? : Task → Option String
  | .set key _ | .unset key => some key
  | _ => none

theorem Trouble.code_ne_zero (t : Trouble) : t.code ≠ 0 := by
  cases t <;> exact Nat.succ_ne_zero _

/-- Writing the settings file failed, and this is what stands there now. -/
def World.Breaks (w : World) (left : FileState) : Prop :=
  ∃ text u, w.save w.settings text = .error u ∧ u.left = left

theorem World.KeepsFile.breaks {w : World} (keeps : w.KeepsFile) {left : FileState}
    (breaks : w.Breaks left) : left = w.settings := by
  obtain ⟨text, u, unsaved, rfl⟩ := breaks
  exact keeps _ _ u unsaved

/-- The task fails: before anything is written, or while it is. -/
structure Effect.Fails (e : Effect) (w : World) : Prop where
  trouble : e.trouble ≠ none
  untouched : ∀ left, e.stored = some left → w.Breaks left

theorem Effect.fails_fails (t : Trouble) (w : World) : (Effect.fails t).Fails w := ⟨nofun, nofun⟩

theorem store_cases (w : World) (flags : Flags) (s : Settings) (json : Json) (text : String) :
    (store w flags s json text).Fails w ∨
      (store w flags s json text).stored = some (.text s.render) ∧
        (store w flags s json text).trouble = none := by
  unfold store
  split
  · rename_i u unsaved
    refine .inl ⟨nofun, ?_⟩
    rintro _ ⟨⟩
    exact ⟨_, u, unsaved, rfl⟩
  · exact .inr ⟨rfl, rfl⟩

structure Effect.Updates (e : Effect) (file : FileState) (task : Task) : Prop where
  trouble : e.trouble = none
  changed : ∃ s s', Settings.load file = .ok s ∧ s.Changes task s' ∧
    e.stored = some (.text s'.render)

theorem set_cases (w : World) (flags : Flags) (key value : String) :
    (set w flags key value).Fails w ∨
      (set w flags key value).Updates w.settings (.set key value) := by
  unfold set
  split
  · exact .inl (Effect.fails_fails _ w)
  · rename_i shown s' done
    cases loaded : Settings.load w.settings with
    | error =>
      rw [loaded] at done
      cases done
    | ok s =>
      rw [loaded] at done
      refine (store_cases w flags s' _ _).imp id ?_
      rintro ⟨stored, quiet⟩
      exact ⟨quiet, s, s', loaded, Settings.set_changes done, stored⟩

theorem unset_cases (w : World) (flags : Flags) (key : String) :
    (unset w flags key).Fails w ∨ (unset w flags key).Updates w.settings (.unset key) := by
  unfold unset
  split
  · exact .inl (Effect.fails_fails _ w)
  · rename_i s' done
    cases loaded : Settings.load w.settings with
    | error =>
      rw [loaded] at done
      cases done
    | ok s =>
      rw [loaded] at done
      refine (store_cases w flags s' _ _).imp id ?_
      rintro ⟨stored, quiet⟩
      exact ⟨quiet, s, s', loaded, Settings.unset_changes done, stored⟩

def task? (args : List String) : Option Task :=
  match Invocation.ofArguments args with
  | .ok i => some i.task
  | .error _ => none

/-- What a command line does to the settings file: it changes one key and succeeds, or it has to do
with other things, or it fails, and then only while it writes. -/
inductive Stores (w : World) (args : List String) (o : Outcome) : Prop
  | nothing (stored : o.stored = none) (other : ∀ t, task? args = some t → t.key? = none)
  | failed (code : o.code ≠ 0) (untouched : ∀ left, o.stored = some left → w.Breaks left)
  | changed {t : Task} {s s' : Settings} (task : task? args = some t) (code : o.code = 0)
    (loaded : Settings.load w.settings = .ok s) (changes : s.Changes t s')
    (stored : o.stored = some (.text s'.render))

theorem Effect.outcome_stored [Wording] (flags : Flags) (e : Effect) :
    (e.outcome flags).stored = e.stored := by
  unfold Effect.outcome
  split <;> rfl

section

variable [Regex.Engine] [Wording]

theorem perform_stored {w : World} {flags : Flags} {task : Task} (elsewhere : task.key? = none) :
    (perform w flags task).stored = none := by
  cases task with
  | set | unset => cases elsewhere
  | greet | sources | fields | settingsPath | completions => rfl
  | check q =>
    change (check w flags q).stored = none
    unfold check
    split <;> rfl
  | eval q input limit =>
    change (eval w flags q input limit).stored = none
    unfold eval
    split
    · rfl
    · split
      · rfl
      · split <;> rfl
  | showSettings =>
    change (showSettings w flags).stored = none
    unfold showSettings
    split <;> rfl

theorem perform_cases (w : World) (flags : Flags) {task : Task} (concerned : task.key? ≠ none) :
    (perform w flags task).Fails w ∨ (perform w flags task).Updates w.settings task := by
  cases task with
  | set key value => exact set_cases w flags key value
  | unset key => exact unset_cases w flags key
  | greet | sources | fields | settingsPath | completions | check | eval | showSettings =>
    exact absurd rfl concerned

theorem run_stores (w : World) (args : List String) : Stores w args (run w args) := by
  unfold run
  cases read : Invocation.ofArguments args with
  | error h =>
    apply Stores.nothing
    · change (h.outcome args).stored = none
      unfold Halt.outcome
      split <;> rfl
    · intro t found
      rw [task?, read] at found
      cases found
  | ok i =>
    have task : task? args = some i.task := by rw [task?, read]
    dsimp only
    by_cases concerned : i.task.key? = none
    · apply Stores.nothing
      · exact (Effect.outcome_stored _ _).trans (perform_stored concerned)
      · intro t found
        cases task.symm.trans found
        exact concerned
    · obtain ⟨trouble, untouched⟩ | ⟨quiet, s, s', loaded, changes, stored⟩ :=
        perform_cases w i.flags concerned
      · apply Stores.failed
        · obtain ⟨t, fails⟩ := Option.ne_none_iff_exists'.1 trouble
          rw [Effect.outcome, fails]
          exact t.code_ne_zero
        · rwa [Effect.outcome_stored]
      · refine .changed task ?_ loaded changes ((Effect.outcome_stored _ _).trans stored)
        rw [Effect.outcome, quiet]

theorem run_set {w : World} {args : List String} {flags : Flags} {key value shown : String}
    {s : Settings} (asked : Invocation.ofArguments args = .ok ⟨flags, .set key value⟩)
    (done : (Settings.load w.settings >>= fun s => s.set key value) = .ok (shown, s))
    (saves : w.save w.settings s.render = .ok ()) :
    (run w args).code = 0 ∧ (run w args).stored = some (.text s.render) := by
  have effect : perform w flags (.set key value) =
      store w flags s (.object [("key", .text key), ("path", .text w.settingsPath),
        ("status", .text "success"), ("value", .text shown)])
        ("Set " ++ key ++ " = " ++ shown ++ "\n") := by
    change set w flags key value = _
    rw [set, done]
  rw [run, asked]
  dsimp only
  rw [effect, store, saves]
  exact ⟨rfl, rfl⟩

end

/-! Command lines that set and remove any key and ask about any query -/

def Flags.plain : Flags := ⟨false, false, false, false⟩

theorem ofArguments_set (key value : String) :
    Invocation.ofArguments ["config", "set", "--", key, value] = .ok ⟨.plain, .set key value⟩ :=
  rfl

theorem ofArguments_check (text : String) :
    Invocation.ofArguments ["check", "--", text] = .ok ⟨.plain, .check ⟨some text, none⟩⟩ := rfl

theorem takeOptions?_saved (l : Level) (rest : List CommandOption)
    (known : l.options = savedOption :: rest) (name : String) :
    takeOptions? l ("--saved=" ++ name) .nothing =
      some (.ok (.complete { Found.nothing with values := [("saved", name)] })) := by
  have word : ("--saved=" ++ name).toList = '-' :: '-' :: ("saved=".toList ++ name.toList) := by
    rw [String.toList_append]
    rfl
  have taken : takeLong l ("saved=".toList ++ name.toList) .nothing =
      .ok (.complete { Found.nothing with values := [("saved", String.ofList name.toList)] }) := by
    obtain ⟨options, words, subcommands⟩ := l
    cases known
    rfl
  unfold takeOptions?
  rw [word]
  change some (takeLong l ("saved=".toList ++ name.toList) .nothing) = _
  rw [taken, String.ofList_toList]

theorem ofArguments_check_saved (name : String) :
    Invocation.ofArguments ["check", "--saved=" ++ name] =
      .ok ⟨.plain, .check ⟨none, some name⟩⟩ := by
  have more : ("--saved=" ++ name == "--") = false := by
    refine beq_false_of_ne fun same => ?_
    have second := congrArg String.toList same
    rw [String.toList_append] at second
    cases second
  have read : readLevel checkLevel .nothing ["--saved=" ++ name] =
      .ok ⟨{ Found.nothing with values := [("saved", name)] }, none⟩ := by
    have apart : checkLevel.subcommands.contains ("--saved=" ++ name) = false := rfl
    rw [readLevel, apart, more, takeOptions?_saved checkLevel _ rfl]
    rfl
  have leaf : readLeaf ["check"] checkLevel ["--saved=" ++ name] (fun f => (queryOf f).map .check) =
      .ok ⟨.plain, .check ⟨none, some name⟩⟩ := by
    rw [readLeaf, read]
    rfl
  change within [] .nothing (readLeaf ["check"] checkLevel ["--saved=" ++ name] _) = _
  rw [leaf]
  rfl

end Command

end TimelineFilter
