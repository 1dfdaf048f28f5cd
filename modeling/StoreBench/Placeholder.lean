/-
References to overrides in text. A reference is `$`, an opening brace, a key and a closing brace; a
key begins with a letter or `_` and goes on with letters, digits, `_`, `.` and `-`, all of ASCII.
`pieces` takes a text apart from left to right, `substitute` puts the looked-up values in the place
of the references. A value is never read again, and what only resembles a reference is kept.
-/

import StoreBench.Fault

namespace StoreBench.Placeholder

/-! ### Taking a text apart -/

/-- A key may begin with the character. -/
def isKeyStart (c : Char) : Bool :=
  c.isAlpha || c == '_'

/-- A key may go on with the character. -/
def isKeyChar (c : Char) : Bool :=
  c.isAlphanum || c == '_' || c == '.' || c == '-'

inductive Piece
  /-- A character that stands for itself. -/
  | literal (c : Char)
  | reference (key : List Char)
deriving Repr, DecidableEq

/-- The key of the reference that the text begins with, and the text behind it. -/
def reference? : List Char → Option (List Char × List Char)
  | '$' :: '\x7b' :: c :: rest =>
    if isKeyStart c then
      match rest.dropWhile isKeyChar with
      | '\x7d' :: after => some (c :: rest.takeWhile isKeyChar, after)
      | _ => none
    else none
  | _ => none

/-- A reference is written with its key between the marks. -/
theorem eq_of_reference? {s key rest : List Char} (h : reference? s = some (key, rest)) :
    s = '$' :: '\x7b' :: (key ++ '\x7d' :: rest) := by
  unfold reference? at h
  split at h
  · rename_i c tail
    split at h
    · split at h
      · rename_i after hdrop
        simp only [Option.some.injEq, Prod.mk.injEq] at h
        obtain ⟨rfl, rfl⟩ := h
        have := List.takeWhile_append_dropWhile (p := isKeyChar) (l := tail)
        rw [hdrop] at this
        simp [this]
      · simp at h
    · simp at h
  · simp at h

theorem length_lt_of_reference? {s key rest : List Char}
    (h : reference? s = some (key, rest)) : rest.length < s.length := by
  rw [eq_of_reference? h]
  simp only [List.length_cons, List.length_append]
  omega

def pieces (s : List Char) : List Piece :=
  match _h : reference? s with
  | some (key, rest) => .reference key :: pieces rest
  | none =>
    match s with
    | [] => []
    | c :: rest => .literal c :: pieces rest
termination_by s.length
decreasing_by
  · exact length_lt_of_reference? _h
  · simp

@[simp] theorem pieces_nil : pieces [] = [] := by
  rw [pieces]
  rfl

theorem pieces_of_reference? {s key rest : List Char} (h : reference? s = some (key, rest)) :
    pieces s = .reference key :: pieces rest := by
  rw [pieces]
  split
  · rename_i found
    rw [h] at found
    cases found
    rfl
  · rename_i none_found
    rw [h] at none_found
    cases none_found

theorem pieces_cons_of_none {c : Char} {rest : List Char} (h : reference? (c :: rest) = none) :
    pieces (c :: rest) = .literal c :: pieces rest := by
  rw [pieces]
  split
  · rename_i found
    rw [h] at found
    cases found
  · rfl

/-! ### Putting it together -/

/-- The text that a piece is written as. -/
def Piece.written : Piece → List Char
  | .literal c => [c]
  | .reference key => '$' :: '\x7b' :: (key ++ ['\x7d'])

/-- The text that a piece becomes; a reference without a value stays as written. -/
def Piece.filled (lookup : String → Option String) : Piece → List Char
  | .literal c => [c]
  | .reference key =>
    match lookup (String.ofList key) with
    | some value => value.toList
    | none => Piece.written (.reference key)

/-- The keys referred to, in order. -/
def keys (ps : List Piece) : List String :=
  ps.filterMap fun
    | .literal _ => none
    | .reference key => some (String.ofList key)

@[simp] theorem keys_nil : keys [] = [] := rfl

@[simp] theorem keys_append (ps qs : List Piece) : keys (ps ++ qs) = keys ps ++ keys qs :=
  List.filterMap_append

@[simp] theorem keys_reference_cons (written : List Char) (ps : List Piece) :
    keys (.reference written :: ps) = String.ofList written :: keys ps := rfl

@[simp] theorem keys_literal_cons (c : Char) (ps : List Piece) :
    keys (.literal c :: ps) = keys ps := rfl

/-- The keys referred to that have no value, each once and in the order of first occurrence. -/
def missing (lookup : String → Option String) (ps : List Piece) : List String :=
  ((keys ps).filter fun key => (lookup key).isNone).eraseDups

/-- The text with each reference replaced by the value of its key. All keys must have one. -/
def substitute (lookup : String → Option String) (s : String) : Except Fault String :=
  let ps := pieces s.toList
  match missing lookup ps with
  | [] => .ok (String.ofList (ps.flatMap (Piece.filled lookup)))
  | absent => .error (.configuration (.unresolved absent))

theorem flatMap_written_pieces (s : List Char) : (pieces s).flatMap Piece.written = s := by
  fun_induction pieces s with
  | case1 s key rest h ih =>
    rw [List.flatMap_cons, ih, eq_of_reference? h]
    simp [Piece.written]
  | case2 => rfl
  | case3 c rest h ih =>
    rw [List.flatMap_cons, ih]
    rfl

end StoreBench.Placeholder
