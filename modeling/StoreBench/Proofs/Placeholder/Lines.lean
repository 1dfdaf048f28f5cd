/-
Replacing references goes line by line.

* `Separates` says of a character that no reference holds it.
* `Scan.append_separator` says that such a character cuts a text in two that are scanned apart: no
  reference goes across it, and an opening before it takes nothing of what follows.
* `substitute_append_separator` says what that makes of replacing: it succeeds where both parts do,
  with their results, and fails with the missing keys of both.
-/

import StoreBench.Proofs.Placeholder.Missing

namespace StoreBench.Placeholder

/-! ### Separators -/

/-- The character is none that a reference is written with. -/
structure Separates (s : Char) : Prop where
  not_key : ¬ ContinuesKey s
  ne_mark : s ≠ '$'
  ne_open : s ≠ '\x7b'
  ne_close : s ≠ '\x7d'

theorem Separates.not_mem_written {s : Char} {key : List Char} (separates : Separates s)
    (is_key : IsKey key) : s ∉ Piece.written (.reference key) := by
  simp only [Piece.written, List.mem_cons, List.mem_append, List.not_mem_nil, or_false, not_or]
  refine ⟨separates.ne_mark, separates.ne_open, fun member => ?_, separates.ne_close⟩
  exact separates.not_key (is_key.continuesKey s member)

theorem begins_iff {key rest text : List Char} :
    Begins key rest text ↔ IsKey key ∧ text = Piece.written (.reference key) ++ rest := by
  simp [Begins, Piece.written]

theorem Begins.append {key rest text : List Char} (h : Begins key rest text) (more : List Char) :
    Begins key (rest ++ more) (text ++ more) := by
  obtain ⟨is_key, rfl⟩ := begins_iff.mp h
  exact begins_iff.mpr ⟨is_key, List.append_assoc _ _ _⟩

theorem not_begins_nil (key rest : List Char) : ¬ Begins key rest [] := by
  simp [Begins]

/-- A separator lets no reference begin before it that is not all before it. -/
theorem Separates.not_begins {s : Char} {text more : List Char} (separates : Separates s)
    (none_begins : ∀ key rest, ¬ Begins key rest text) (key rest : List Char) :
    ¬ Begins key rest (text ++ s :: more) := by
  intro begins
  obtain ⟨is_key, same⟩ := begins_iff.mp begins
  rcases List.append_eq_append_iff.mp same with ⟨tail, longer, behind⟩ | ⟨tail, shorter, -⟩
  · cases tail with
    | nil => exact none_begins key [] (begins_iff.mpr ⟨is_key, by simp [longer]⟩)
    | cons c tail =>
        -- The reference goes on behind the text, first with the separator.
        obtain ⟨rfl, -⟩ := List.cons.inj behind
        apply separates.not_mem_written is_key
        rw [longer]
        simp
  · exact none_begins key tail (begins_iff.mpr ⟨is_key, shorter⟩)

/-! ### Scanning apart -/

/-- The texts before and behind a separator are scanned apart, and it stands for itself. -/
theorem Scan.append_separator {s : Char} {text more : List Char} {ps qs : List Piece}
    (separates : Separates s) (first : Scan text ps) (second : Scan more qs) :
    Scan (text ++ s :: more) (ps ++ .literal s :: qs) := by
  induction first with
  | done =>
      exact .literal (separates.not_begins not_begins_nil) second
  | reference begins _ ih => exact .reference (begins.append (s :: more)) ih
  | literal none_begins _ ih => exact .literal (separates.not_begins none_begins) ih

theorem pieces_append_separator {s : Char} (separates : Separates s) (text more : List Char) :
    pieces (text ++ s :: more) = pieces text ++ .literal s :: pieces more :=
  (scan_iff.mp ((scan_iff.mpr rfl).append_separator separates (scan_iff.mpr rfl))).symm

/-! ### Replacing apart -/

section Replacing

variable {lookup : String → Option String} {ps qs : List Piece}

theorem Fills.append_literal {c : Char} {text more : List Char} (first : Fills lookup ps text)
    (second : Fills lookup qs more) :
    Fills lookup (ps ++ .literal c :: qs) (text ++ c :: more) := by
  induction first with
  | nil => exact .literal second
  | literal _ ih => exact .literal ih
  | reference found _ ih =>
      rw [List.append_assoc]
      exact .reference found ih

/-- The missing keys of the first pieces come first; those of the others follow that are not among
them. -/
theorem missing_append (lookup : String → Option String) (ps qs : List Piece) :
    missing lookup (ps ++ qs) =
      missing lookup ps ++ (missing lookup qs).filter (· ∉ missing lookup ps) := by
  rw [missing, keys_append, List.filter_append, List.eraseDups_append, missing, missing,
    filter_eraseDups]
  simp [List.removeAll]

@[simp] theorem missing_literal_cons (lookup : String → Option String) (c : Char)
    (ps : List Piece) : missing lookup (.literal c :: ps) = missing lookup ps := rfl

/-- No key is missing of all the pieces exactly if none is missing of either part. -/
theorem missing_append_eq_nil_iff :
    missing lookup (ps ++ qs) = [] ↔ missing lookup ps = [] ∧ missing lookup qs = [] := by
  rw [missing_append, List.append_eq_nil_iff]
  apply and_congr_right
  intro none_missing
  have kept : (missing lookup qs).filter (· ∉ missing lookup ps) = missing lookup qs := by
    simp [none_missing]
  rw [kept]

theorem exists_substitute_eq_ok_iff {text : String} :
    (∃ result, substitute lookup text = .ok result) ↔
      missing lookup (pieces text.toList) = [] := by
  simp only [substitute]
  cases missing lookup (pieces text.toList) with
  | nil => simp
  | cons key others => simp

end Replacing

/-- The keys that an answer reports to be without a value; a result reports none. -/
def reported : Except Fault String → List String
  | .error (.configuration (.unresolved keys)) => keys
  | _ => []

theorem reported_substitute (lookup : String → Option String) (text : String) :
    reported (substitute lookup text) = missing lookup (pieces text.toList) := by
  simp only [substitute]
  cases missing lookup (pieces text.toList) with
  | nil => rfl
  | cons key others => rfl

/-- Replacing in two texts with a separator between them is replacing in each of them: it succeeds
exactly if both succeed, and then keeps the separator between the results. Otherwise it reports the
missing keys of the first text and behind them those of the second that are not among them. -/
theorem substitute_append_separator (lookup : String → Option String) {s : Char}
    (separates : Separates s) (a b : String) :
    ((∃ result, substitute lookup (a.push s ++ b) = .ok result) ↔
        (∃ x, substitute lookup a = .ok x) ∧ ∃ y, substitute lookup b = .ok y) ∧
      (∀ x y, substitute lookup a = .ok x → substitute lookup b = .ok y →
        substitute lookup (a.push s ++ b) = .ok (x.push s ++ y)) ∧
      ∀ f, substitute lookup (a.push s ++ b) = .error f →
        f = .configuration (.unresolved
          (reported (substitute lookup a) ++
            (reported (substitute lookup b)).filter (· ∉ reported (substitute lookup a)))) := by
  have cut : pieces (a.push s ++ b).toList =
      pieces a.toList ++ .literal s :: pieces b.toList := by
    rw [← pieces_append_separator separates]
    simp
  refine ⟨?_, fun x y first second => ?_, fun f refused => ?_⟩
  · rw [exists_substitute_eq_ok_iff, exists_substitute_eq_ok_iff, exists_substitute_eq_ok_iff, cut,
      missing_append_eq_nil_iff, missing_literal_cons]
  · rw [substitute_eq_ok_iff] at first second ⊢
    rw [cut]
    simpa using first.append_literal second
  · obtain ⟨-, rfl⟩ := substitute_eq_error_iff.mp refused
    rw [cut, missing_append, missing_literal_cons, reported_substitute, reported_substitute]

/-- A run in which a single key has a value. -/
def onlyA (key : String) : Option String :=
  if key = "a" then some "1" else none

/-- An opening at the end of a line takes nothing of the next line, and a key that is missing in both
lines is reported once. -/
theorem newline_substitute_apart :
    Separates '\n' ∧
      substitute onlyA "$\x7ba" = .ok "$\x7ba" ∧
      substitute onlyA "\x7d $\x7ba\x7d" = .ok "\x7d 1" ∧
      substitute onlyA ("$\x7ba".push '\n' ++ "\x7d $\x7ba\x7d") =
        .ok ("$\x7ba".push '\n' ++ "\x7d 1") ∧
      substitute onlyA ("$\x7bc\x7d".push '\n' ++ "$\x7bb\x7d$\x7bc\x7d") =
        .error (.configuration (.unresolved ["c", "b"])) ∧
      Fault.configuration (.unresolved ["c", "b"]) = .configuration (.unresolved
        (reported (substitute onlyA "$\x7bc\x7d") ++
          (reported (substitute onlyA "$\x7bb\x7d$\x7bc\x7d")).filter
            (· ∉ reported (substitute onlyA "$\x7bc\x7d")))) := by
  have separates : Separates '\n' := by
    refine ⟨fun h => ?_, by decide, by decide, by decide⟩
    exact absurd (isKeyChar_iff.mpr h) (by decide)
  have unclosed : substitute onlyA "$\x7ba" = .ok "$\x7ba" := by decide +kernel
  have closing : substitute onlyA "\x7d $\x7ba\x7d" = .ok "\x7d 1" := by decide +kernel
  have refused : substitute onlyA ("$\x7bc\x7d".push '\n' ++ "$\x7bb\x7d$\x7bc\x7d") =
      .error (.configuration (.unresolved ["c", "b"])) := by decide +kernel
  obtain ⟨-, replaced, -⟩ := substitute_append_separator onlyA separates "$\x7ba" "\x7d $\x7ba\x7d"
  obtain ⟨-, -, reports⟩ :=
    substitute_append_separator onlyA separates "$\x7bc\x7d" "$\x7bb\x7d$\x7bc\x7d"
  exact ⟨separates, unclosed, closing, replaced _ _ unclosed closing, refused, reports _ refused⟩

end StoreBench.Placeholder
