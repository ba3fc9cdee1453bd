import TimelineFilter.Proofs.Listings
import TimelineFilter.Proofs.Report.Cells
import TimelineFilter.Standalone

/-! When a reader is told that nothing matches. What is said depends on what is listed, so it is
said also of matches that are not listed because of a limit of zero. -/
namespace TimelineFilter.Command

open Report

/-- The output begins by saying that no status matches. -/
def Denies (output : String) : Prop := ∃ more, output = "No matching statuses.\n" ++ more

theorem header_begins (colors : Bool) :
    (header colors).toList.head? = some (if colors then '\x1b' else 'I') := by
  cases colors <;> decide +kernel

theorem denies_iff {colors : Bool} {now : Instant} {shown : List Status} {line : String} :
    Denies (statusTable colors now shown ++ line) ↔ shown = [] := by
  constructor
  · rintro ⟨more, same⟩
    cases shown with
    | nil => rfl
    | cons t others =>
      -- A table with rows begins with its header, and that begins with another character.
      have first := congrArg (fun text => text.toList.head?) same
      rw [statusTable_cons, lines_cons] at first
      simp only [String.toList_append, List.head?_append, header_begins] at first
      cases colors <;> exact absurd first (by simp)
  · rintro rfl
    exact ⟨line, rfl⟩

variable {w : World} {flags : Flags} {c : QueryChoice} {args : List String} {input : String}
  {limit : Option Nat} {q : Query} {s : Snapshot} {test : Meaning Bool}

theorem matchesOf_shown_eq_nil : (matchesOf q s test limit).shown = [] ↔
    (∀ t ∈ s.statuses, test t ⟨s.accounts, s.lists⟩ = false) ∨ limit = some 0 := by
  have nothing : s.select test = [] ↔ ∀ t ∈ s.statuses, test t ⟨s.accounts, s.lists⟩ = false := by
    rw [Snapshot.select, List.filter_eq_nil_iff]
    simp [Snapshot.context]
  rw [← nothing]
  cases limit with
  | none => simp [matchesOf]
  | some n => simp [matchesOf, or_comm]

theorem readSnapshot_written (years : s.InFourDigits) (shallow : s.toJson.depth ≤ Json.maxDepth)
    (named : input ≠ "-") (written : w.fileText input = .ok s.toJson.compact) :
    readSnapshot w input = .ok s := by
  have read := ((Snapshot.decodes years s.written_toJson).ofText shallow).1
  change Snapshot.ofText s.toJson.compact = .ok s at read
  rw [readSnapshot, if_neg (by simpa using named), written]
  change (Snapshot.ofText s.toJson.compact).mapError _ = _
  rw [read]
  rfl

def onePost : Snapshot := ⟨none, [], [], [.plain (.basic 1 (.basic 2 "alice") "hi")]⟩

def postWorld : World :=
  ⟨"config.toml", .absent, fun _ _ => .ok (), fun _ => .ok onePost.toJson.compact,
    .error .notFound, .ofNanoseconds 0⟩

theorem readSnapshot_onePost : readSnapshot postWorld "s.json" = .ok onePost := by
  have years : onePost.InFourDigits := by
    refine ⟨by simp [onePost], ?_⟩
    simp [onePost, Status.InFourDigits, Post.InFourDigits, Post.basic]
  exact readSnapshot_written years (by decide) (by decide) rfl

theorem compiled_always : compiled postWorld ⟨some "()", none⟩ = .ok ⟨[.implied], .always⟩ := by
  cbv

theorem meaning_always [Regex.Engine] : Predicate.always.meaning = .ok fun _ _ => true := rfl

/-- Trying a query on a snapshot for a reader: it is said that nothing matches exactly if nothing
does, or if nothing was to be listed. -/
theorem eval_denies_iff [Regex.Engine] [Wording]
    (asks : Invocation.ofArguments args = .ok ⟨flags, .eval c input limit⟩)
    (compiles : compiled w c = .ok q) (reads : readSnapshot w input = .ok s)
    (builds : q.root.meaning = .ok test) (table : flags.json = false) (loud : flags.quiet = false) :
    Denies (run w args).stdout ↔
      (∀ t ∈ s.statuses, test t ⟨s.accounts, s.lists⟩ = false) ∨ limit = some 0 := by
  rw [run_eval asks compiles reads builds, report, if_neg (by simp [table]),
    if_neg (by simp [loud]), denies_iff]
  exact matchesOf_shown_eq_nil

open scoped Standalone

/-- One post matches and is listed. -/
theorem eval_denies_iff_listed :
    readSnapshot postWorld "s.json" = .ok onePost ∧
      ¬ Denies (run postWorld ["eval", "--input=s.json", "--limit=1", "--", "()"]).stdout := by
  have asks : Invocation.ofArguments ["eval", "--input=s.json", "--limit=1", "--", "()"] =
      .ok ⟨⟨false, false, false, false⟩, .eval ⟨some "()", none⟩ "s.json" (some 1)⟩ := by cbv
  have denies := eval_denies_iff asks compiled_always readSnapshot_onePost meaning_always rfl rfl
  refine ⟨readSnapshot_onePost, ?_⟩
  rw [denies]
  simp [onePost]

/-- A limit of zero denies the post that matches, and counts it in the next line. -/
theorem eval_denies_match :
    ∃ q test, compiled postWorld ⟨some "()", none⟩ = .ok q ∧ q.root.meaning = .ok test ∧
      readSnapshot postWorld "s.json" = .ok onePost ∧
      (∃ t ∈ onePost.statuses, test t ⟨onePost.accounts, onePost.lists⟩ = true) ∧
      (run postWorld ["eval", "--input=s.json", "--limit=0", "--", "()"]).stdout =
        "No matching statuses.\n\nShowing 0 of 1 matches (use --all to show everything)\n" := by
  have asks : Invocation.ofArguments ["eval", "--input=s.json", "--limit=0", "--", "()"] =
      .ok ⟨⟨false, false, false, false⟩, .eval ⟨some "()", none⟩ "s.json" (some 0)⟩ := by cbv
  refine ⟨_, _, compiled_always, meaning_always, readSnapshot_onePost, ?_, ?_⟩
  · exact ⟨_, List.mem_singleton_self _, rfl⟩
  · rw [run_eval asks compiled_always readSnapshot_onePost meaning_always]
    decide +kernel

end TimelineFilter.Command
