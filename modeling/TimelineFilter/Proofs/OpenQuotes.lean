import TimelineFilter.Proofs.Agreement
import TimelineFilter.Proofs.Slices

/-! A lenient reading goes past the one quote that is never closed, and changes nothing else. What a
quoted text stands for is written down here without the functions that read it. -/
namespace TimelineFilter

/-- A text in which no quote closes a string, and what it stands for behind an open quote: both
escapes are undone and any other backslash is kept. -/
inductive OpenText : List Char → List Char → Prop
  | nil : OpenText [] []
  | escape {c : Char} {rest value : List Char} (escaped : c = '"' ∨ c = '\\')
      (behind : OpenText rest value) : OpenText ('\\' :: c :: rest) (c :: value)
  | char {c : Char} {rest value : List Char} (apart : c ≠ '"')
      (single : c = '\\' → ∀ d ∈ rest.head?, d ≠ '"' ∧ d ≠ '\\')
      (behind : OpenText rest value) : OpenText (c :: rest) (c :: value)

theorem openText_unescape {cs : List Char} (unclosed : unquote cs = none) :
    OpenText cs (unescape cs) := by
  fun_induction unquote cs with
  | case1 => exact .nil
  | case2 => cases unclosed
  | case3 rest ih => exact .escape (.inl rfl) (ih (Option.map_eq_none_iff.1 unclosed))
  | case4 rest ih => exact .escape (.inr rfl) (ih (Option.map_eq_none_iff.1 unclosed))
  | case5 c rest apart noQuote noBackslash ih =>
    have single : c = '\\' → ∀ d ∈ rest.head?, d ≠ '"' ∧ d ≠ '\\' := by
      intro backslash d mem
      obtain ⟨tail, rfl⟩ := List.head?_eq_some_iff.1 mem
      constructor
      · rintro rfl
        exact noQuote tail backslash rfl
      · rintro rfl
        exact noBackslash tail backslash rfl
    rw [unescape.eq_4 c rest noQuote noBackslash]
    exact .char apart single (ih (Option.map_eq_none_iff.1 unclosed))

theorem Takes.leniently {c : Char} {rest after : List Char} {x : Lexeme}
    (takes : Takes false c rest x after) : Takes true c rest x after := by
  cases takes with
  | quoted closed => exact .quoted closed
  | unclosed _ leniently => cases leniently
  | symbol apart read => exact .symbol apart read
  | word apart unread => exact .word apart unread

theorem unquote_of_step {c : Char} {rest : List Char} (found : step false c rest = .unclosed) :
    unquote rest = none := by
  obtain rfl := step_unclosed found
  cases closed : unquote rest with
  | none => rfl
  | some read =>
    have takes : Takes false '"' rest _ _ := .quoted closed
    obtain ⟨shorter, taken⟩ := step_of_takes takes
    rw [taken] at found
    cases found

/-- What is in front of the open quote has the same tokens alone, and behind it the lenient reading
finds one string. -/
theorem scanFrom_open {position : Nat} {cs : List Char} {u : Unclosed}
    (stuck : (scanFrom false position cs).unclosed = some u) :
    ∃ front rest, cs = front ++ '"' :: rest ∧ unquote rest = none ∧
      u = ⟨position + byteLength front, String.ofList ('"' :: rest)⟩ ∧
      scanFrom false position front = ⟨(scanFrom false position cs).tokens, none⟩ ∧
      scanFrom true position cs = ⟨(scanFrom false position cs).tokens ++
        [⟨.quoted (String.ofList (unescape rest)), u.position⟩], none⟩ := by
  fun_induction scanFrom false position cs with
  | case1 => cases stuck
  | case2 position c rest blank ih =>
    obtain ⟨front, behind, rfl, unclosed, place, alone, lenient⟩ := ih stuck
    refine ⟨c :: front, behind, rfl, unclosed, ?_, ?_, ?_⟩
    · rw [place, byteLength, Nat.add_assoc]
    · rw [scanFrom_blank false position blank]
      exact alone
    · rw [scanFrom_blank true position blank]
      exact lenient
  | case3 position c rest solid found =>
    obtain rfl := step_unclosed found
    have unclosed := unquote_of_step found
    obtain ⟨shorter, taken⟩ := step_of_takes (.unclosed unclosed rfl)
    cases stuck
    refine ⟨[], rest, rfl, unclosed, rfl, ?_, ?_⟩
    · simp [scanFrom]
    · rw [scanFrom, if_neg solid, taken]
      simp [scanFrom, Scan.cons]
  | case4 position c rest solid x after shorter found used ih =>
    have solid : isTokenBlank c = false := by simpa using solid
    obtain ⟨taken, rfl, cut⟩ := (takes_of_step found).cut
    obtain ⟨front, behind, rfl, unclosed, place, alone, lenient⟩ := ih stuck
    have length : used = byteLength (c :: taken) := byteLength_used c taken _
    rw [length] at place alone lenient ⊢
    refine ⟨c :: (taken ++ front), behind, by simp, unclosed, ?_, ?_, ?_⟩
    · rw [place, ← List.cons_append, byteLength_append, Nat.add_assoc]
    · rw [scanFrom_takes solid (cut front (List.prefix_append _ _)), alone]
      rfl
    · have whole := (cut _ (List.prefix_refl _)).leniently
      rw [scanFrom_takes solid whole, lenient]
      rfl

def yields (lenient : Bool) (text : String) : List (Except Failure Token) :=
  (scan lenient text).tokens.map .ok
    ++ (scan lenient text).unclosed.toList.map fun u => .error (.ofUnclosed u)

/-- What the strict and the lenient reading of a text yield. They part at a quote that is open: what
stands in front of it is read without a failure, and nothing behind it closes it. -/
inductive Mended (text : String) :
    List (Except Failure Token) → List (Except Failure Token) → Prop
  | closed {ts : List Token} : Mended text (ts.map .ok) (ts.map .ok)
  | unclosed {ts : List Token} {front rest value : String} (whole : text = front ++ "\"" ++ rest)
      (alone : yields false front = ts.map .ok) (contents : OpenText rest.toList value.toList) :
      Mended text
        (ts.map .ok ++ [.error ⟨.unclosedQuote front.utf8ByteSize, "\"" ++ rest⟩])
        (ts.map .ok ++ [.ok ⟨.quoted value, front.utf8ByteSize⟩])

theorem yields_of_scan {lenient : Bool} {text : String} {ts : List Token}
    (read : scan lenient text = ⟨ts, none⟩) : yields lenient text = ts.map .ok := by
  simp [yields, read]

/-- A lenient reading changes nothing but the tail behind a quote that is never closed. -/
theorem yields_mended (text : String) : Mended text (yields false text) (yields true text) := by
  cases ending : (scan false text).unclosed with
  | none =>
    have strict : scan false text = ⟨(scan false text).tokens, none⟩ := by rw [← ending]
    rw [yields_of_scan ((Query.scan_lenient ending).trans strict), yields_of_scan strict]
    exact .closed
  | some u =>
    obtain ⟨front, rest, whole, unclosed, rfl, alone, lenient⟩ := scanFrom_open ending
    have place : 0 + byteLength front = (String.ofList front).utf8ByteSize := by
      rw [Nat.zero_add, byteLength_eq, ← String.utf8Len_toList, String.toList_ofList]
    have strict : yields false text = (scan false text).tokens.map .ok ++
        [.error ⟨.unclosedQuote (0 + byteLength front), String.ofList ('"' :: rest)⟩] := by
      simp [yields, ending, Failure.ofUnclosed]
    have alone : scan false (String.ofList front) = ⟨(scan false text).tokens, none⟩ := by
      rw [scan, String.toList_ofList]
      exact alone
    have split : text = String.ofList front ++ "\"" ++ String.ofList rest := by
      apply String.toList_injective
      simp [whole]
    have quoted : String.ofList ('"' :: rest) = "\"" ++ String.ofList rest := by
      apply String.toList_injective
      simp
    rw [strict, yields_of_scan lenient, List.map_append, place, quoted]
    refine .unclosed split (yields_of_scan alone) ?_
    rw [String.toList_ofList, String.toList_ofList]
    exact openText_unescape unclosed

example : yields true "a \"b\\\"\\" = [.ok ⟨.word "a", 0⟩, .ok ⟨.quoted "b\"\\", 2⟩] := by cbv

end TimelineFilter
