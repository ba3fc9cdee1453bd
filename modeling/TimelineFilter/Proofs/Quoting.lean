import TimelineFilter.Proofs.Slices

namespace TimelineFilter

def Token.moved (bytes : Nat) (t : Token) : Token := { t with position := t.position + bytes }

def Unclosed.moved (bytes : Nat) (u : Unclosed) : Unclosed :=
  { u with position := u.position + bytes }

def Scan.moved (bytes : Nat) (s : Scan) : Scan :=
  ⟨s.tokens.map (Token.moved bytes), s.unclosed.map (Unclosed.moved bytes)⟩

theorem scanFrom_moved (lenient : Bool) (position bytes : Nat) (cs : List Char) :
    scanFrom lenient (position + bytes) cs = (scanFrom lenient position cs).moved bytes := by
  fun_induction scanFrom lenient position cs with
  | case1 => simp [scanFrom, Scan.moved]
  | case2 position c rest blank ih =>
    rw [scanFrom_blank lenient _ blank, Nat.add_right_comm]
    exact ih
  | case3 position c rest solid found =>
    rw [scanFrom, if_neg solid, found]
    rfl
  | case4 position c rest solid x after shorter found used ih =>
    rw [scanFrom, if_neg solid, found]
    change (scanFrom lenient (position + bytes + used) after).cons _ = _
    rw [Nat.add_right_comm, ih]
    rfl

theorem byteLength_toList (text : String) : byteLength text.toList = text.utf8ByteSize := by
  rw [byteLength_eq, String.utf8Len_toList]

/-- Quoting is undone in front of every text. The string stands first, and behind it stands what
the other text is read as, as many bytes further behind as the quoted text takes up. -/
theorem scan_quote (lenient : Bool) (text rest : String) :
    scan lenient (quote text ++ rest) =
      ((scan lenient rest).moved (quote text).utf8ByteSize).cons ⟨.quoted text, 0⟩ := by
  have writable : (Lexeme.quoted text).Writable := trivial
  have free : ∀ c ∈ rest.toList.head?, (Lexeme.quoted text).takes c = false := fun _ _ => rfl
  have taken := scanFrom_render lenient 0 writable free
  change scanFrom lenient 0 ((quote text).toList ++ rest.toList) =
    (scanFrom lenient (0 + byteLength (quote text).toList) rest.toList).cons _ at taken
  rw [scan, String.toList_append, taken, scanFrom_moved, byteLength_toList]
  rfl

example : scan false (quote "a\\" ++ "\"b") =
    ⟨[⟨.quoted "a\\", 0⟩], some ⟨5, "\"b"⟩⟩ := by cbv

end TimelineFilter
