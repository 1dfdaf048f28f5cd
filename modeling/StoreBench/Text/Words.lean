/-
Taking text apart and putting it together: a text that begins with another one, the text before and
behind a separator, texts joined by a separator, the words for truth values.
`dropStart?_eq_some_iff` and `splitAt?_eq_some` say what the two readers find.
-/

namespace StoreBench.Text

/-! ### Beginnings -/

/-- What is left of the second text behind the first, if it begins with it. -/
def dropStart? : List Char → List Char → Option (List Char)
  | [], s => some s
  | _ :: _, [] => none
  | c :: start, d :: s => if c = d then dropStart? start s else none

theorem dropStart?_eq_some_iff {start s rest : List Char} :
    dropStart? start s = some rest ↔ s = start ++ rest := by
  induction start generalizing s with
  | nil => simp [dropStart?]
  | cons c start ih =>
    cases s with
    | nil => simp [dropStart?]
    | cons d s =>
      unfold dropStart?
      by_cases h : c = d
      · simp [h, ih]
      · simp only [h, if_false, reduceCtorEq, List.cons_append, List.cons.injEq, false_iff]
        exact fun hs => h hs.1.symm

@[simp] theorem dropStart?_append (start rest : List Char) :
    dropStart? start (start ++ rest) = some rest :=
  dropStart?_eq_some_iff.2 rfl

/-- What is left of the string `s` behind `start`, if it begins with it. -/
def behind? (start s : String) : Option String :=
  (dropStart? start.toList s.toList).map String.ofList

theorem behind?_eq_some_iff {start s rest : String} :
    behind? start s = some rest ↔ s = start ++ rest := by
  simp only [behind?, Option.map_eq_some_iff, dropStart?_eq_some_iff]
  constructor
  · rintro ⟨a, ha, rfl⟩
    apply String.ext
    simp [ha]
  · rintro rfl
    exact ⟨rest.toList, by simp, by simp⟩

/-! ### Separators -/

/-- The text before the first place where the separator stands, and the text behind it. -/
def splitAt? (separator : List Char) : List Char → Option (List Char × List Char)
  | [] => if separator.isEmpty then some ([], []) else none
  | c :: s =>
    match dropStart? separator (c :: s) with
    | some rest => some ([], rest)
    | none => (splitAt? separator s).map fun (before, rest) => (c :: before, rest)

/-- The two parts and the separator between them are the whole text. -/
theorem splitAt?_eq_some {separator s before rest : List Char}
    (h : splitAt? separator s = some (before, rest)) : s = before ++ separator ++ rest := by
  induction s generalizing before with
  | nil =>
    unfold splitAt? at h
    split at h
    · rename_i he
      simp_all
    · simp at h
  | cons c s ih =>
    unfold splitAt? at h
    split at h
    · rename_i hd
      simp only [Option.some.injEq, Prod.mk.injEq] at h
      obtain ⟨rfl, rfl⟩ := h
      simpa using dropStart?_eq_some_iff.1 hd
    · simp only [Option.map_eq_some_iff, Prod.exists, Prod.mk.injEq] at h
      obtain ⟨b, r, hb, rfl, rfl⟩ := h
      simp [ih hb]

/-- The texts with the separator between each two of them. -/
def joined (separator : String) : List String → String
  | [] => ""
  | [s] => s
  | s :: t :: rest => s ++ separator ++ joined separator (t :: rest)

theorem joined_eq_intercalate (separator : String) (texts : List String) :
    joined separator texts = separator.intercalate texts := by
  induction texts with
  | nil => rfl
  | cons first others ih =>
    cases others with
    | nil => rw [joined, String.intercalate_singleton]
    | cons second others => rw [joined, ih, String.intercalate_cons_cons]

theorem joined_concat (separator : String) {texts : List String} (h : texts ≠ []) (s : String) :
    joined separator (texts ++ [s]) = joined separator texts ++ separator ++ s := by
  induction texts with
  | nil => exact absurd rfl h
  | cons first others ih =>
    cases others with
    | nil => rfl
    | cons second others =>
      have tail := ih (List.cons_ne_nil second others)
      simp only [List.cons_append] at tail
      simp only [List.cons_append, joined, tail, String.append_assoc]

theorem joined_cons_ne_empty (separator : String) {first : String} (h : first ≠ "")
    (others : List String) : joined separator (first :: others) ≠ "" := by
  cases others with
  | nil => exact h
  | cons second others => simp [joined, h]

/-! ### Truth values -/

def boolWord (b : Bool) : String :=
  if b then "true" else "false"

@[simp] theorem boolWord_inj {a b : Bool} : boolWord a = boolWord b ↔ a = b := by
  cases a <;> cases b <;> decide

end StoreBench.Text
