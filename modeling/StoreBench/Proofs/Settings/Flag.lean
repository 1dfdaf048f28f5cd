/-
What truth value settings have at a key, said without their reader.

* `Spells` says that a text is a word, but for white space around it and capital letters.
* `getBool_of_spells` and `getBool_of_forall_not_spells` say that a key has the truth value whose
  word its text spells, and the default where it spells none.
-/

import Mathlib.Data.List.Forall2
import StoreBench.Proofs.Text.Trimming
import StoreBench.Settings

namespace StoreBench.Settings

/-! ### Words in either case -/

/-- The text is the word, each letter small or capital, with any white space around it. -/
def Spells (text word : String) : Prop :=
  ∃ body, Text.TrimsTo text.toList body ∧
    List.Forall₂ (fun c letter => c = letter ∨ c = letter.toUpper) body word.toList

theorem spells_self {word : String} (bare : Text.trimmed word = word) : Spells word word :=
  ⟨word.toList, Text.trimmed_eq_iff.mp bare, List.forall₂_same.mpr fun _ _ => .inl rfl⟩

/-- A small letter is what becomes of itself and of its capital letter, and of nothing else. -/
theorem toLower_eq_iff {c letter : Char} (small : letter.isLower = true) :
    c.toLower = letter ↔ c = letter ∨ c = letter.toUpper := by
  obtain ⟨above, below⟩ := Bool.and_eq_true_iff.mp small
  have low : 97 ≤ letter.val := of_decide_eq_true above
  have high : letter.val ≤ 122 := of_decide_eq_true below
  rw [show letter.toUpper = ⟨letter.val + (65 - 97), _⟩ from dif_pos ⟨low, high⟩, Char.ext_iff,
    Char.ext_iff, Char.ext_iff]
  by_cases capital : 65 ≤ c.val ∧ c.val ≤ 90
  · have codes : c.val + (97 - 65) = letter.val ↔
        c.val = letter.val ∨ c.val = letter.val + (65 - 97) := by grind
    rw [show c.toLower = ⟨c.val + (97 - 65), _⟩ from dif_pos capital]
    exact codes
  · have codes : c.val = letter.val ↔ c.val = letter.val ∨ c.val = letter.val + (65 - 97) := by
      grind
    rw [show c.toLower = c from dif_neg capital]
    exact codes

theorem map_toLower_eq_iff {body word : List Char} (small : ∀ c ∈ word, c.isLower = true) :
    body.map Char.toLower = word ↔
      List.Forall₂ (fun c letter => c = letter ∨ c = letter.toUpper) body word := by
  induction word generalizing body with
  | nil => simp
  | cons letter word ih =>
      obtain ⟨first, others⟩ := List.forall_mem_cons.mp small
      cases body with
      | nil => simp
      | cons c body =>
          rw [List.map_cons, List.cons.injEq, List.forall₂_cons, toLower_eq_iff first, ih others]

/-- Readers take a text for a word exactly if it spells the word. -/
theorem isWord_trimmed_iff {text word : String} (small : ∀ c ∈ word.toList, c.isLower = true) :
    isWord word (Text.trimmed text) = true ↔ Spells text word := by
  have whole : isWord word (Text.trimmed text) = true ↔
      (Text.trim text.toList).map Char.toLower = word.toList := by
    rw [isWord, beq_iff_eq, ← String.toList_inj, String.toList_map, Text.toList_trimmed]
  rw [whole, map_toLower_eq_iff small]
  simp only [Spells, ← Text.trim_eq_iff, exists_eq_left']

/-! ### Truth values -/

variable {s : Settings} {key text : String}

theorem isWord_boolWord_iff {flag : Bool} :
    isWord (Text.boolWord flag) (Text.trimmed text) = true ↔ Spells text (Text.boolWord flag) :=
  isWord_trimmed_iff (List.all_eq_true.mp (by cases flag <;> decide))

/-- A text is no more than one word. -/
theorem isWord_unique {word other : String} (first : isWord word text = true)
    (second : isWord other text = true) : word = other :=
  (beq_iff_eq.mp first).symm.trans (beq_iff_eq.mp second)

theorem getBool_of_spells {flag : Bool} (found : s.get? key = some text)
    (spells : Spells text (Text.boolWord flag)) (default : Bool) :
    s.getBool key default = flag := by
  have word := isWord_boolWord_iff.mpr spells
  simp only [getBool, trimmed?, found, Option.map_some]
  cases flag with
  | true => exact if_pos word
  | false =>
      have other : ¬ isWord "true" (Text.trimmed text) = true := fun first =>
        absurd (isWord_unique first word) (by decide)
      rw [if_neg other]
      exact if_pos word

theorem getBool_of_forall_not_spells
    (none_spelled : ∀ text flag, s.get? key = some text → ¬ Spells text (Text.boolWord flag))
    (default : Bool) : s.getBool key default = default := by
  cases found : s.get? key with
  | none => simp [getBool, trimmed?, found]
  | some text =>
      have other : ∀ flag, ¬ isWord (Text.boolWord flag) (Text.trimmed text) = true := fun flag =>
        mt isWord_boolWord_iff.mp (none_spelled text flag found)
      simp only [getBool, trimmed?, found, Option.map_some]
      exact (if_neg (other true)).trans (if_neg (other false))

end StoreBench.Settings
