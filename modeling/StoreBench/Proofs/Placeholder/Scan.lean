/-
What references are, said without the reader of references, and what replacing them comes to.

* `IsKey` and `Begins` are the grammar of a key and of a reference at the beginning of a text.
* `Scan` relates a text to its pieces: a reference wherever one begins, the character there
  otherwise, and on behind it. `scan_iff` says that `pieces` is the one scan of a text.
* `Fills` relates pieces to the text with a value in the place of each reference.
* `substitute_ok_iff_fills_scan` says that replacing succeeds exactly if every reference has a value
  and then gives that text. Whatever only resembles a reference stays as it is (`Malformed`).
-/

import StoreBench.Placeholder

namespace StoreBench.Placeholder

/-! ### The grammar of references -/

/-- A letter of ASCII. -/
def IsLetter (c : Char) : Prop :=
  ('a' ≤ c ∧ c ≤ 'z') ∨ ('A' ≤ c ∧ c ≤ 'Z')

/-- A key may begin with the character. -/
def StartsKey (c : Char) : Prop :=
  IsLetter c ∨ c = '_'

/-- A key may go on with the character. -/
def ContinuesKey (c : Char) : Prop :=
  IsLetter c ∨ ('0' ≤ c ∧ c ≤ '9') ∨ c = '_' ∨ c = '.' ∨ c = '-'

/-- The characters of a key. -/
inductive IsKey : List Char → Prop
  | mk {c : Char} {others : List Char} :
    StartsKey c → (∀ d ∈ others, ContinuesKey d) → IsKey (c :: others)

/-- A reference to the key begins the text and the rest follows its closing brace. -/
def Begins (key rest text : List Char) : Prop :=
  IsKey key ∧ text = '$' :: '\x7b' :: (key ++ '\x7d' :: rest)

theorem isAlpha_iff {c : Char} : c.isAlpha = true ↔ IsLetter c := by
  have upper : c.isUpper = true ↔ 'A' ≤ c ∧ c ≤ 'Z' := decide_eq_true_iff
  have lower : c.isLower = true ↔ 'a' ≤ c ∧ c ≤ 'z' :=
    Bool.and_eq_true_iff.trans (and_congr decide_eq_true_iff decide_eq_true_iff)
  exact Bool.or_eq_true_iff.trans ((or_congr upper lower).trans or_comm)

theorem isDigit_iff {c : Char} : c.isDigit = true ↔ '0' ≤ c ∧ c ≤ '9' :=
  Bool.and_eq_true_iff.trans (and_congr decide_eq_true_iff decide_eq_true_iff)

theorem isKeyStart_iff {c : Char} : isKeyStart c = true ↔ StartsKey c := by
  rw [isKeyStart, Bool.or_eq_true_iff, isAlpha_iff, beq_iff_eq]
  rfl

theorem isKeyChar_iff {c : Char} : isKeyChar c = true ↔ ContinuesKey c := by
  have alphanum : c.isAlphanum = true ↔ IsLetter c ∨ ('0' ≤ c ∧ c ≤ '9') :=
    Bool.or_eq_true_iff.trans (or_congr isAlpha_iff isDigit_iff)
  simp only [isKeyChar, ContinuesKey, Bool.or_eq_true_iff, alphanum, beq_iff_eq, or_assoc]

theorem StartsKey.continuesKey {c : Char} (h : StartsKey c) : ContinuesKey c := by
  rcases h with letter | underscore
  · exact Or.inl letter
  · exact Or.inr (Or.inr (Or.inl underscore))

theorem IsKey.continuesKey {key : List Char} (h : IsKey key) : ∀ c ∈ key, ContinuesKey c := by
  obtain ⟨starts, continues⟩ := h
  intro c member
  rcases List.mem_cons.mp member with rfl | member
  · exact starts.continuesKey
  · exact continues c member

theorem ContinuesKey.ne_mark {c : Char} (h : ContinuesKey c) : c ≠ '$' := by
  rintro rfl
  exact absurd (isKeyChar_iff.mpr h) (by decide)

theorem not_continuesKey_brace : ¬ ContinuesKey '\x7d' := fun h =>
  absurd (isKeyChar_iff.mpr h) (by decide)

/-! ### Reading a reference -/

/-- The reader finds a reference exactly where one begins, and it is the only one there. -/
theorem reference?_eq_some_iff {text key rest : List Char} :
    reference? text = some (key, rest) ↔ Begins key rest text := by
  constructor
  · intro found
    refine ⟨?_, eq_of_reference? found⟩
    unfold reference? at found
    split at found
    · rename_i c tail
      split at found
      · rename_i starts
        split at found
        · cases found
          exact .mk (isKeyStart_iff.mp starts) fun d member =>
            isKeyChar_iff.mp (List.all_eq_true.mp List.all_takeWhile d member)
        · cases found
      · cases found
    · cases found
  · rintro ⟨⟨starts, continues⟩, rfl⟩
    -- The closing brace is no character of a key, so the longest run of such characters is the key.
    have others := fun d member => isKeyChar_iff.mpr (continues d member)
    have closes : isKeyChar '\x7d' = false := by decide
    simp [reference?, isKeyStart_iff.mpr starts, List.takeWhile_append_of_pos others,
      List.dropWhile_append_of_pos others, closes]

theorem reference?_eq_none_iff {text : List Char} :
    reference? text = none ↔ ∀ key rest, ¬ Begins key rest text := by
  constructor
  · intro none_found key rest begins
    rw [reference?_eq_some_iff.mpr begins] at none_found
    cases none_found
  · intro none_begins
    cases found : reference? text with
    | none => rfl
    | some pair => exact absurd (reference?_eq_some_iff.mp found) (none_begins _ _)

/-! ### Scanning -/

/-- The text read from left to right has the pieces: a reference where one begins, which ends with
its closing brace, and the single character where none does. -/
inductive Scan : List Char → List Piece → Prop
  | done : Scan [] []
  | reference {text key rest : List Char} {ps : List Piece} :
    Begins key rest text → Scan rest ps → Scan text (.reference key :: ps)
  | literal {c : Char} {rest : List Char} {ps : List Piece} :
    (∀ key after, ¬ Begins key after (c :: rest)) → Scan rest ps →
      Scan (c :: rest) (.literal c :: ps)

/-- Taking a text apart is scanning it, and a text has no other scan. -/
theorem scan_iff {text : List Char} {ps : List Piece} : Scan text ps ↔ ps = pieces text := by
  constructor
  · intro scan
    induction scan with
    | done => exact pieces_nil.symm
    | reference begins _ ih =>
        rw [pieces_of_reference? (reference?_eq_some_iff.mpr begins), ih]
    | literal none_begins _ ih =>
        rw [pieces_cons_of_none (reference?_eq_none_iff.mpr none_begins), ih]
  · rintro rfl
    fun_induction pieces text with
    | case1 text key rest found ih => exact .reference (reference?_eq_some_iff.mp found) ih
    | case2 => exact .done
    | case3 c rest none_found ih => exact .literal (reference?_eq_none_iff.mp none_found) ih

/-! ### What only resembles a reference -/

/-- The first text, followed by the second one, looks like the opening of a reference and is none:
no brace follows the mark, or no key begins behind the brace, or the key is followed by something
else than its closing brace. -/
inductive Malformed : List Char → List Char → Prop
  | bare {rest : List Char} : rest.head? ≠ some '\x7b' → Malformed ['$'] rest
  | keyless {rest : List Char} :
    (∀ c, rest.head? = some c → ¬ StartsKey c) → Malformed ['$', '\x7b'] rest
  | unclosed {key rest : List Char} :
    IsKey key → (∀ c, rest.head? = some c → c ≠ '\x7d' ∧ ¬ ContinuesKey c) →
      Malformed ('$' :: '\x7b' :: key) rest

theorem pieces_cons_of_ne_mark {c : Char} (h : c ≠ '$') (rest : List Char) :
    pieces (c :: rest) = .literal c :: pieces rest := by
  apply pieces_cons_of_none
  rw [reference?_eq_none_iff]
  rintro key after ⟨-, same⟩
  exact h (List.cons.inj same).1

/-- Characters that are not the mark stand for themselves whatever follows them. -/
theorem pieces_append_of_forall_ne_mark {text : List Char} (h : ∀ c ∈ text, c ≠ '$')
    (rest : List Char) : pieces (text ++ rest) = text.map .literal ++ pieces rest := by
  induction text with
  | nil => rfl
  | cons c text ih =>
      rw [List.cons_append, pieces_cons_of_ne_mark (h c List.mem_cons_self),
        ih fun d member => h d (List.mem_cons_of_mem c member)]
      rfl

/-- A key is all of the text up to its closing brace, so no reference begins at an unclosed one. -/
theorem Malformed.not_begins {opener rest key after : List Char} (h : Malformed opener rest) :
    ¬ Begins key after (opener ++ rest) := by
  rintro ⟨is_key, same⟩
  cases h with
  | bare no_brace =>
      cases rest with
      | nil => simp at same
      | cons c rest => simp_all
  | keyless no_key =>
      obtain ⟨starts, -⟩ := is_key
      cases rest with
      | nil => simp at same
      | cons c rest =>
          simp only [List.cons_append, List.nil_append, List.cons.injEq, true_and] at same
          exact no_key c rfl (same.1 ▸ starts)
  | @unclosed opened _ opened_is_key no_end =>
      simp only [List.cons_append, List.cons.injEq, true_and] at same
      rcases List.append_eq_append_iff.mp same with ⟨more, hkey, hrest⟩ | ⟨more, hopened, hafter⟩
      · -- The key goes on behind the opened one, with a character that no key goes on with.
        cases more with
        | nil => exact (no_end '\x7d' (by simp [hrest])).1 rfl
        | cons c more =>
            have continues := is_key.continuesKey c (by simp [hkey])
            exact (no_end c (by simp [hrest])).2 continues
      · -- The opened key holds the closing brace of the reference.
        cases more with
        | nil => exact (no_end '\x7d' (by rw [← List.nil_append rest, ← hafter]; rfl)).1 rfl
        | cons c more =>
            obtain ⟨rfl, -⟩ := List.cons.inj hafter
            exact not_continuesKey_brace (opened_is_key.continuesKey _ (by simp [hopened]))

/-- The opening of no reference stays as it is, and reading goes on right behind it. -/
theorem pieces_of_malformed {opener rest : List Char} (h : Malformed opener rest) :
    pieces (opener ++ rest) = opener.map .literal ++ pieces rest := by
  have mark : ∀ {tail}, opener = '$' :: tail →
      pieces (opener ++ rest) = .literal '$' :: pieces (tail ++ rest) := by
    rintro tail rfl
    exact pieces_cons_of_none (reference?_eq_none_iff.mpr fun _ _ => h.not_begins)
  cases h with
  | bare _ => exact mark rfl
  | keyless _ =>
      rw [mark rfl, pieces_append_of_forall_ne_mark (by simp)]
      rfl
  | unclosed is_key _ =>
      rw [mark rfl, pieces_append_of_forall_ne_mark]
      · rfl
      · intro c member
        rcases List.mem_cons.mp member with rfl | member
        · decide
        · exact (is_key.continuesKey c member).ne_mark

/-! ### Replacing -/

/-- The text that the pieces become when each reference has a value, which is put in its place and
not looked at again. -/
inductive Fills (lookup : String → Option String) : List Piece → List Char → Prop
  | nil : Fills lookup [] []
  | literal {c : Char} {ps : List Piece} {text : List Char} :
    Fills lookup ps text → Fills lookup (.literal c :: ps) (c :: text)
  | reference {key : List Char} {value : String} {ps : List Piece} {text : List Char} :
    lookup (String.ofList key) = some value → Fills lookup ps text →
      Fills lookup (.reference key :: ps) (value.toList ++ text)

/-- Each reference among the pieces has a value. -/
def Resolved (lookup : String → Option String) (ps : List Piece) : Prop :=
  ∀ key, .reference key ∈ ps → ∃ value, lookup (String.ofList key) = some value

section Replacing

variable {lookup : String → Option String} {ps : List Piece}

theorem mem_keys_iff {key : String} :
    key ∈ keys ps ↔ ∃ written, .reference written ∈ ps ∧ String.ofList written = key := by
  rw [keys, List.mem_filterMap]
  constructor
  · rintro ⟨piece, member, some_key⟩
    cases piece with
    | literal c => cases some_key
    | reference written =>
        cases some_key
        exact ⟨written, member, rfl⟩
  · rintro ⟨written, member, rfl⟩
    exact ⟨.reference written, member, rfl⟩

theorem mem_missing_iff {key : String} :
    key ∈ missing lookup ps ↔ key ∈ keys ps ∧ lookup key = none := by
  rw [missing, List.mem_eraseDups, List.mem_filter, Option.isNone_iff_eq_none]

theorem missing_eq_nil_iff : missing lookup ps = [] ↔ Resolved lookup ps := by
  rw [List.eq_nil_iff_forall_not_mem]
  constructor
  · intro none_missing key member
    cases found : lookup (String.ofList key) with
    | some value => exact ⟨value, rfl⟩
    | none =>
        have is_key := mem_keys_iff.mpr ⟨key, member, rfl⟩
        exact absurd (mem_missing_iff.mpr ⟨is_key, found⟩) (none_missing _)
  · intro resolved key is_missing
    obtain ⟨is_key, not_found⟩ := mem_missing_iff.mp is_missing
    obtain ⟨written, member, rfl⟩ := mem_keys_iff.mp is_key
    obtain ⟨value, found⟩ := resolved written member
    rw [found] at not_found
    cases not_found

theorem Fills.resolved {text : List Char} (h : Fills lookup ps text) : Resolved lookup ps := by
  induction h with
  | nil => exact fun key member => absurd member List.not_mem_nil
  | literal _ ih =>
      intro key member
      rcases List.mem_cons.mp member with same | member
      · cases same
      · exact ih key member
  | reference found _ ih =>
      intro key member
      rcases List.mem_cons.mp member with same | member
      · cases same
        exact ⟨_, found⟩
      · exact ih key member

theorem Fills.eq_flatMap {text : List Char} (h : Fills lookup ps text) :
    text = ps.flatMap (Piece.filled lookup) := by
  induction h with
  | nil => rfl
  | literal _ ih =>
      rw [List.flatMap_cons, ← ih]
      rfl
  | reference found _ ih => rw [List.flatMap_cons, ← ih, Piece.filled, found]

theorem fills_flatMap (h : Resolved lookup ps) :
    Fills lookup ps (ps.flatMap (Piece.filled lookup)) := by
  induction ps with
  | nil => exact .nil
  | cons piece ps ih =>
      have others := ih fun key member => h key (List.mem_cons_of_mem piece member)
      cases piece with
      | literal c => exact .literal others
      | reference key =>
          obtain ⟨value, found⟩ := h key List.mem_cons_self
          rw [List.flatMap_cons, Piece.filled, found]
          exact .reference found others

end Replacing

/-- Replacing gives a text exactly if the pieces with values in the place of references are it. -/
theorem substitute_eq_ok_iff {lookup : String → Option String} {text result : String} :
    substitute lookup text = .ok result ↔ Fills lookup (pieces text.toList) result.toList := by
  simp only [substitute]
  cases absent : missing lookup (pieces text.toList) with
  | nil =>
      have fills := fills_flatMap (missing_eq_nil_iff.mp absent)
      constructor
      · intro same
        cases same
        rwa [String.toList_ofList]
      · intro other
        rw [← other.eq_flatMap, String.ofList_toList]
  | cons key others =>
      constructor
      · intro same
        cases same
      · intro fills
        rw [missing_eq_nil_iff.mpr fills.resolved] at absent
        cases absent

/-- Replacing the references of a text. Its pieces are its only scan; replacing succeeds exactly if
every reference among them has a value; it then gives the pieces with the values in the place of
the references and all else kept. What only resembles a reference is kept, wherever it stands. -/
theorem substitute_ok_iff_fills_scan (lookup : String → Option String) (text : String) :
    (∀ ps, Scan text.toList ps ↔ ps = pieces text.toList) ∧
      ((∃ result, substitute lookup text = .ok result) ↔
        Resolved lookup (pieces text.toList)) ∧
      (∀ result, substitute lookup text = .ok result ↔
        Fills lookup (pieces text.toList) result.toList) ∧
      ∀ opener rest, Malformed opener rest →
        pieces (opener ++ rest) = opener.map .literal ++ pieces rest := by
  refine ⟨fun ps => scan_iff, ⟨?_, ?_⟩, fun result => substitute_eq_ok_iff,
    fun _ _ => pieces_of_malformed⟩
  · rintro ⟨result, replaced⟩
    exact (substitute_eq_ok_iff.mp replaced).resolved
  · intro resolved
    refine ⟨String.ofList ((pieces text.toList).flatMap (Piece.filled lookup)), ?_⟩
    rw [substitute_eq_ok_iff, String.toList_ofList]
    exact fills_flatMap resolved

-- A value is not read again, and reading goes on inside the opening of no reference.
example : substitute (fun key => if key = "a" then some "$1 $\x7bb\x7d" else none)
    "$a $\x7b\x7d $\x7b1a\x7d $\x7b$\x7ba\x7d $\x7ba" =
      .ok "$a $\x7b\x7d $\x7b1a\x7d $\x7b$1 $\x7bb\x7d $\x7ba" := by cbv

end StoreBench.Placeholder
