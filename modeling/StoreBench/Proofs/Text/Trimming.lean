/-
What is left of a text without the white space around it, said without `trim`.
-/

import StoreBench.Text.Ranges

namespace StoreBench.Text

/-- The body is all of the text but white space at its two ends, and has none at its own. -/
structure TrimsTo (s body : List Char) : Prop where
  surrounded : ∃ before after, s = before ++ body ++ after ∧
    (∀ c ∈ before, isBlank c = true) ∧ ∀ c ∈ after, isBlank c = true
  first : ∀ c, body.head? = some c → isBlank c = false
  last : ∀ c, body.getLast? = some c → isBlank c = false

theorem dropWhile_eq_self_of_head? {p : Char → Bool} {s : List Char}
    (h : ∀ c, s.head? = some c → p c = false) : s.dropWhile p = s := by
  cases s with
  | nil => rfl
  | cons c s => simp [h c rfl]

theorem eq_false_of_head?_dropWhile {p : Char → Bool} {s : List Char} {c : Char}
    (h : (s.dropWhile p).head? = some c) : p c = false := by
  have first := List.head?_dropWhile_not p s
  rwa [h] at first

/-- A text that ends with no white space is what is left of it with white space behind it. -/
theorem trimEnd_append {body after : List Char} (blank : ∀ c ∈ after, isBlank c = true)
    (last : ∀ c, body.getLast? = some c → isBlank c = false) :
    trimEnd (body ++ after) = body := by
  have reversed : ∀ c ∈ after.reverse, isBlank c = true := fun c member =>
    blank c (List.mem_reverse.mp member)
  rw [trimEnd, List.reverse_append, List.dropWhile_append_of_pos reversed,
    dropWhile_eq_self_of_head? (by simpa using last), List.reverse_reverse]

theorem trim_of_trimsTo {s body : List Char} (h : TrimsTo s body) : trim s = body := by
  obtain ⟨⟨before, after, rfl, blank_before, blank_after⟩, first, last⟩ := h
  rw [trim, List.append_assoc, List.dropWhile_append_of_pos blank_before]
  cases body with
  | nil =>
      have gone : after.dropWhile isBlank = [] := by
        simpa using @List.dropWhile_append_of_pos _ isBlank after [] blank_after
      rw [List.nil_append, gone]
      rfl
  | cons c body =>
      rw [List.cons_append, List.dropWhile_cons_of_neg (by simp [first c rfl]), ← List.cons_append]
      exact trimEnd_append blank_after last

/-- A text is what is left of it and the white space behind that. -/
theorem exists_append_of_trimEnd (s : List Char) :
    ∃ after, s = trimEnd s ++ after ∧ ∀ c ∈ after, isBlank c = true := by
  refine ⟨(s.reverse.takeWhile isBlank).reverse, ?_, fun c member => ?_⟩
  · rw [trimEnd, ← List.reverse_append, List.takeWhile_append_dropWhile, List.reverse_reverse]
  · exact List.all_eq_true.mp List.all_takeWhile c (List.mem_reverse.mp member)

theorem trimsTo_trim (s : List Char) : TrimsTo s (trim s) := by
  obtain ⟨after, whole, blank_after⟩ := exists_append_of_trimEnd (s.dropWhile isBlank)
  refine ⟨⟨s.takeWhile isBlank, after, ?_, ?_, blank_after⟩, fun c head => ?_, fun c last => ?_⟩
  · rw [trim, List.append_assoc, ← whole, List.takeWhile_append_dropWhile]
  · exact fun c member => List.all_eq_true.mp List.all_takeWhile c member
  · refine eq_false_of_head?_dropWhile (s := s) ?_
    rw [whole, List.head?_append]
    rw [trim] at head
    simp [head]
  · rw [trim, trimEnd, List.getLast?_reverse] at last
    exact eq_false_of_head?_dropWhile last

theorem trim_eq_iff {s body : List Char} : trim s = body ↔ TrimsTo s body :=
  ⟨fun same => same ▸ trimsTo_trim s, trim_of_trimsTo⟩

/-- Where no white space stands there is none to remove. -/
theorem trim_of_forall_not_blank {s : List Char} (h : ∀ c ∈ s, isBlank c = false) : trim s = s := by
  apply trim_of_trimsTo
  refine ⟨⟨[], [], by simp, by simp, by simp⟩, fun c first => ?_, fun c last => ?_⟩
  · exact h c (List.mem_of_mem_head? first)
  · exact h c (List.mem_of_getLast? last)

theorem trimmed_eq_iff {s body : String} : trimmed s = body ↔ TrimsTo s.toList body.toList := by
  rw [← String.toList_inj, toList_trimmed, trim_eq_iff]

end StoreBench.Text
