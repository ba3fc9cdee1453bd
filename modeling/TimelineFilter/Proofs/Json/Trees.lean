import TimelineFilter.Json.Reading
import TimelineFilter.Proofs.Json.Pieces

namespace TimelineFilter.Json

mutual

def reading : Json → Reading
  | .null => .null
  | .bool b => .bool b
  | .whole n => .whole n
  | .real x => .real x
  | .text t => .text t
  | .array items => .array (itemReadings items) none
  | .object members => .object (memberReadings members) none

def itemReadings : List Json → List Reading
  | [] => []
  | item :: rest => reading item :: itemReadings rest

def memberReadings : List (String × Json) → List (Except Malformed String × Reading)
  | [] => []
  | (key, value) :: rest => (.ok key, reading value) :: memberReadings rest

end

namespace Reading

/-- A value that ends where it should, with nothing in it at which reading stopped. A string or a
number that has no value is in the form of one nevertheless. -/
inductive WellFormed : Reading → Prop
  | null : WellFormed .null
  | bool (b : Bool) : WellFormed (.bool b)
  | whole (n : Int) : WellFormed (.whole n)
  | real (x : Double) : WellFormed (.real x)
  | text (t : String) : WellFormed (.text t)
  | void (why : Malformed) : WellFormed (.void why)
  | array {items : List Reading} (parts : ∀ r ∈ items, WellFormed r) :
    WellFormed (.array items none)
  | object {members : List (Except Malformed String × Reading)}
    (parts : ∀ m ∈ members, WellFormed m.2) : WellFormed (.object members none)

mutual

theorem wellFormed_reading (j : Json) : (reading j).WellFormed := by
  match j with
  | .null => exact .null
  | .bool b => exact .bool b
  | .whole n => exact .whole n
  | .real x => exact .real x
  | .text t => exact .text t
  | .array items => exact .array (wellFormed_items items)
  | .object members => exact .object (wellFormed_members members)

theorem wellFormed_items (items : List Json) : ∀ r ∈ itemReadings items, r.WellFormed := by
  match items with
  | [] => exact fun _ none => nomatch none
  | item :: rest => exact List.forall_mem_cons.2 ⟨wellFormed_reading item, wellFormed_items rest⟩

theorem wellFormed_members (members : List (String × Json)) :
    ∀ m ∈ memberReadings members, m.2.WellFormed := by
  match members with
  | [] => exact fun _ none => nomatch none
  | (_, value) :: rest =>
    exact List.forall_mem_cons.2 ⟨wellFormed_reading value, wellFormed_members rest⟩

end

def Gives (ps : List Piece) (r : Reading) (left : List Piece) : Prop :=
  ∃ p rest, ps = p :: rest ∧ p ≠ .closeArray ∧ (readValue p rest).1 = r ∧
    (readValue p rest).2.1 = left

/-- A series of values that ends as it should, and the pieces behind it. -/
def Series.Ends {α : Type} {ps : List Piece} (s : Series α ps) (values : List α)
    (left : List Piece) : Prop :=
  s.values = values ∧ s.ending = none ∧ s.behind.1 = left

theorem Series.Ends.cons {α : Type} {ps qs : List Piece} {s : Series α qs} {values : List α}
    {left : List Piece} (ends : s.Ends values left) (a : α) (fewer : qs.length ≤ ps.length) :
    (Series.cons a s fewer).Ends (a :: values) left := by
  obtain ⟨rfl, ending, behind⟩ := ends
  exact ⟨rfl, ending, behind⟩

section

variable {ps left last : List Piece} {r : Reading}

theorem readItems_first {values : List Reading} (first : Gives ps r left)
    (others : (moreItems left).Ends values last) : (readItems ps).Ends (r :: values) last := by
  obtain ⟨p, rest, rfl, opens, rfl, rfl⟩ := first
  rw [readItems.eq_3 _ _ opens]
  exact others.cons _ _

theorem moreItems_next {values : List Reading} (first : Gives ps r left)
    (others : (moreItems left).Ends values last) :
    (moreItems (.comma :: ps)).Ends (r :: values) last := by
  obtain ⟨p, rest, rfl, opens, rfl, rfl⟩ := first
  rw [moreItems.eq_5 _ _ opens]
  exact others.cons _ _

theorem moreItems_close : (moreItems (.closeArray :: left)).Ends [] left := by
  rw [moreItems]
  exact ⟨rfl, rfl, rfl⟩

variable {values : List (Except Malformed String × Reading)}

theorem readMember_colon (value : Gives ps r left) :
    (readMember (.colon :: ps)).1 = r ∧ (readMember (.colon :: ps)).2.1 = left := by
  obtain ⟨p, rest, rfl, opens, rfl, rfl⟩ := value
  rw [readMember.eq_3]
  exact ⟨rfl, rfl⟩

theorem readMembers_first (key : String) (value : Gives ps r left)
    (others : (moreMembers left).Ends values last) :
    (readMembers (.text key :: .colon :: ps)).Ends ((.ok key, r) :: values) last := by
  obtain ⟨rfl, rfl⟩ := readMember_colon value
  rw [readMembers.eq_3 _ _ (by simp)]
  exact others.cons _ _

theorem moreMembers_next {key : String} (value : Gives ps r left)
    (others : (moreMembers left).Ends values last) :
    (moreMembers (.comma :: .text key :: .colon :: ps)).Ends ((.ok key, r) :: values) last := by
  obtain ⟨rfl, rfl⟩ := readMember_colon value
  rw [moreMembers.eq_5 _ _ (by simp)]
  exact others.cons _ _

theorem moreMembers_close : (moreMembers (.closeObject :: left)).Ends [] left := by
  rw [moreMembers]
  exact ⟨rfl, rfl, rfl⟩

theorem gives_array {values : List Reading} (ends : (readItems ps).Ends values left) :
    Gives (.openArray :: ps) (.array values none) left := by
  obtain ⟨rfl, ending, behind⟩ := ends
  refine ⟨.openArray, ps, rfl, by simp, ?_, ?_⟩
  · rw [readValue, ← ending]
  · rwa [readValue]

theorem gives_object (ends : (readMembers ps).Ends values left) :
    Gives (.openObject :: ps) (.object values none) left := by
  obtain ⟨rfl, ending, behind⟩ := ends
  refine ⟨.openObject, ps, rfl, by simp, ?_, ?_⟩
  · rw [readValue, ← ending]
  · rwa [readValue]

end

mutual

theorem gives_toPieces (j : Json) (left : List Piece) :
    Gives (toPieces j ++ left) (reading j) left := by
  match j with
  | .null => exact ⟨.null, left, rfl, by simp, by rw [readValue]; rfl, by rw [readValue]; rfl⟩
  | .bool b => exact ⟨.bool b, left, rfl, by simp, by rw [readValue]; rfl, by rw [readValue]; rfl⟩
  | .whole n =>
    exact ⟨.whole n, left, rfl, by simp, by rw [readValue]; rfl, by rw [readValue]; rfl⟩
  | .real x => exact ⟨.real x, left, rfl, by simp, by rw [readValue]; rfl, by rw [readValue]; rfl⟩
  | .text t => exact ⟨.text t, left, rfl, by simp, by rw [readValue]; rfl, by rw [readValue]; rfl⟩
  | .array [] =>
    have ends : (readItems (.closeArray :: left)).Ends [] left := by
      rw [readItems]
      exact ⟨rfl, rfl, rfl⟩
    exact gives_array ends
  | .object [] =>
    have ends : (readMembers (.closeObject :: left)).Ends [] left := by
      rw [readMembers]
      exact ⟨rfl, rfl, rfl⟩
    exact gives_object ends
  | .array (item :: items) =>
    have first := gives_toPieces item (itemPieces items ++ .closeArray :: left)
    have ends := readItems_first first (moreItems_ends items left)
    simpa [toPieces, reading, itemReadings] using gives_array ends
  | .object ((key, value) :: members) =>
    have first := gives_toPieces value (memberPieces members ++ .closeObject :: left)
    have ends := readMembers_first key first (moreMembers_ends members left)
    simpa [toPieces, reading, memberReadings] using gives_object ends

theorem moreItems_ends (items : List Json) (left : List Piece) :
    (moreItems (itemPieces items ++ .closeArray :: left)).Ends (itemReadings items) left := by
  match items with
  | [] => exact moreItems_close
  | item :: items =>
    have first := gives_toPieces item (itemPieces items ++ .closeArray :: left)
    rw [itemPieces, List.cons_append, List.append_assoc]
    exact moreItems_next first (moreItems_ends items left)

theorem moreMembers_ends (members : List (String × Json)) (left : List Piece) :
    (moreMembers (memberPieces members ++ .closeObject :: left)).Ends (memberReadings members)
      left := by
  match members with
  | [] => exact moreMembers_close
  | (key, value) :: members =>
    have first := gives_toPieces value (memberPieces members ++ .closeObject :: left)
    rw [memberPieces, List.cons_append, List.cons_append, List.cons_append, List.append_assoc]
    exact moreMembers_next first (moreMembers_ends members left)

end

theorem ofText_of_pieces {text : String} {j : Json} (read : pieces text.toList = toPieces j) :
    ofText text = (reading j, false) := by
  obtain ⟨p, rest, front, -, value, left⟩ := gives_toPieces j []
  rw [List.append_nil] at front
  unfold ofText
  rw [read, front]
  simp [value, left]

theorem ofText_compact {j : Json} (plain : Plain j) : ofText j.compact = (reading j, false) := by
  apply ofText_of_pieces
  have read := pieces_compact plain free_nil
  simpa [compact, pieces] using read

theorem ofText_indented {j : Json} (plain : Plain j) : ofText j.indented = (reading j, false) := by
  apply ofText_of_pieces
  have read := pieces_indented 0 plain free_nil
  simpa [indented, pieces] using read

theorem ofText_line {j : Json} (plain : Plain j) :
    ofText (j.indented ++ "\n") = (reading j, false) := by
  apply ofText_of_pieces
  have free : Free ['\n'] := free_mark (by decide) []
  have read := pieces_indented 0 plain free
  rw [pieces_blank (by decide)] at read
  simpa [indented, pieces] using read

end Reading

end TimelineFilter.Json
