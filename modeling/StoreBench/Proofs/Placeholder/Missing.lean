/-
Which keys a failed replacement reports, said without listing them.

* `RefersTo` and `RefersFirst` say of a text which keys it refers to, and to which of two it refers
  before it refers to the other.
* `ListsMissing` says of a list that it holds the keys without a value in the order in which the
  text first refers to them. `listsMissing_iff` says that there is one such list, the one reported.
* `substitute_reports_missing` says that replacing fails exactly if that list is not empty, and
  with it.
-/

import Mathlib.Data.List.Induction
import StoreBench.Proofs.Placeholder.Scan

namespace StoreBench.Placeholder

/-! ### First occurrences in a list -/

section FirstOccurrence

variable {α : Type} {l : List α} {a b : α}

/-- The first item stands in the list, and the second one does not stand before it. -/
def Precedes (l : List α) (a b : α) : Prop :=
  ∃ before after, l = before ++ a :: after ∧ b ∉ before ++ [a]

theorem Precedes.append (h : Precedes l a b) (more : List α) : Precedes (l ++ more) a b := by
  obtain ⟨before, after, rfl, absent⟩ := h
  exact ⟨before, after ++ more, by simp, absent⟩

theorem Precedes.ne (h : Precedes l a b) : a ≠ b := by
  obtain ⟨before, after, -, absent⟩ := h
  rintro rfl
  exact absent (by simp)

/-- An item of the list precedes every other one that does not stand in the list. -/
theorem precedes_of_mem_of_not_mem (member : a ∈ l) (absent : b ∉ l) : Precedes l a b := by
  obtain ⟨before, after, rfl⟩ := List.append_of_mem member
  refine ⟨before, after, rfl, fun found => absent ?_⟩
  rw [List.append_cons]
  exact List.mem_append_left after found

theorem Precedes.asymm (h : Precedes l a b) : ¬ Precedes l b a := by
  rintro ⟨before', after', same, absent'⟩
  obtain ⟨before, after, rfl, absent⟩ := h
  rw [List.append_cons, List.append_cons before'] at same
  -- One of the two beginnings is part of the other and holds the item that is absent there.
  rcases List.append_eq_append_iff.mp same with ⟨more, longer, -⟩ | ⟨more, longer, -⟩
  · apply absent'
    rw [longer]
    simp
  · apply absent
    rw [longer]
    simp

variable [BEq α] [LawfulBEq α]

theorem eraseDups_concat (l : List α) (a : α) :
    (l ++ [a]).eraseDups = if a ∈ l then l.eraseDups else l.eraseDups ++ [a] := by
  rw [List.eraseDups_append]
  by_cases member : a ∈ l <;> simp [List.removeAll, List.eraseDups_cons, member]

/-- Erasing what is listed again keeps the order of first occurrences. -/
theorem pairwise_precedes_eraseDups (l : List α) : l.eraseDups.Pairwise (Precedes l) := by
  induction l using List.reverseRecOn with
  | nil => exact .nil
  | append_singleton l c ih =>
      have before : l.eraseDups.Pairwise (Precedes (l ++ [c])) := ih.imp fun h => h.append [c]
      rw [eraseDups_concat]
      split
      · exact before
      · rename_i fresh
        refine List.pairwise_append.mpr ⟨before, List.pairwise_singleton _ _, ?_⟩
        intro a member d last
        obtain rfl := List.mem_singleton.mp last
        exact (precedes_of_mem_of_not_mem (List.mem_eraseDups.mp member) fresh).append _

theorem filter_eraseDups (p : α → Bool) (l : List α) :
    l.eraseDups.filter p = (l.filter p).eraseDups := by
  induction l using List.reverseRecOn with
  | nil => rfl
  | append_singleton l c ih =>
      rw [eraseDups_concat, List.filter_append]
      by_cases kept : p c = true
      · rw [List.filter_cons_of_pos kept, List.filter_nil, eraseDups_concat, ← ih]
        by_cases member : c ∈ l <;> simp [member, kept]
      · rw [List.filter_cons_of_neg kept, List.filter_nil, List.append_nil, ← ih]
        by_cases member : c ∈ l <;> simp [member, kept]

end FirstOccurrence

/-! ### Keys that a text refers to -/

/-- The text holds a reference to the key. -/
def RefersTo (text : List Char) (key : String) : Prop :=
  ∃ ps written, Scan text ps ∧ .reference written ∈ ps ∧ String.ofList written = key

/-- A reference to the first key stands in the text, and none to the second one stands before it. -/
def RefersFirst (text : List Char) (first second : String) : Prop :=
  ∃ before written after, Scan text (before ++ .reference written :: after) ∧
    String.ofList written = first ∧ second ∉ keys (before ++ [.reference written])

theorem refersTo_iff {text : List Char} {key : String} :
    RefersTo text key ↔ key ∈ keys (pieces text) := by
  rw [mem_keys_iff]
  constructor
  · rintro ⟨ps, written, scan, member, rfl⟩
    exact ⟨written, scan_iff.mp scan ▸ member, rfl⟩
  · rintro ⟨written, member, rfl⟩
    exact ⟨_, written, scan_iff.mpr rfl, member, rfl⟩

/-- Where a key is listed a reference to it stands, and the keys listed before are those of the
references before. -/
theorem exists_reference_of_keys {ps : List Piece} {before after : List String} {key : String}
    (h : keys ps = before ++ key :: after) :
    ∃ qs written rest, ps = qs ++ .reference written :: rest ∧ String.ofList written = key ∧
      keys qs = before := by
  induction ps generalizing before with
  | nil => simp [keys] at h
  | cons piece ps ih =>
      cases piece with
      | literal c =>
          obtain ⟨qs, written, rest, rfl, here, listed⟩ := ih h
          exact ⟨.literal c :: qs, written, rest, rfl, here, listed⟩
      | reference written =>
          cases before with
          | nil =>
              obtain ⟨here, -⟩ := List.cons.inj h
              exact ⟨[], written, ps, rfl, here, rfl⟩
          | cons first before =>
              obtain ⟨same, others⟩ := List.cons.inj h
              obtain ⟨qs, found, rest, rfl, here, listed⟩ := ih others
              exact ⟨.reference written :: qs, found, rest, rfl, here,
                congrArg₂ List.cons same listed⟩

theorem refersFirst_iff {text : List Char} {first second : String} :
    RefersFirst text first second ↔ Precedes (keys (pieces text)) first second := by
  constructor
  · rintro ⟨before, written, after, scan, rfl, absent⟩
    rw [← scan_iff.mp scan, keys_append, keys_reference_cons]
    exact ⟨_, _, rfl, by simpa using absent⟩
  · rintro ⟨before, after, listed, absent⟩
    obtain ⟨qs, written, rest, found, rfl, rfl⟩ := exists_reference_of_keys listed
    exact ⟨qs, written, rest, scan_iff.mpr found.symm, rfl, by simpa using absent⟩

/-! ### The list of missing keys -/

/-- The list holds the keys that the text refers to and that have no value, each once and in the
order in which the text first refers to them. -/
structure ListsMissing (lookup : String → Option String) (text : List Char)
    (names : List String) : Prop where
  exact : ∀ key, key ∈ names ↔ RefersTo text key ∧ lookup key = none
  once : names.Nodup
  in_order : names.Pairwise (RefersFirst text)

section Reported

variable {lookup : String → Option String} {text : List Char} {names : List String}

theorem missing_eq_filter_eraseDups (lookup : String → Option String) (ps : List Piece) :
    missing lookup ps = (keys ps).eraseDups.filter fun key => (lookup key).isNone := by
  rw [missing, filter_eraseDups]

theorem listsMissing_missing : ListsMissing lookup text (missing lookup (pieces text)) := by
  have in_order : (missing lookup (pieces text)).Pairwise (RefersFirst text) := by
    rw [missing_eq_filter_eraseDups]
    apply List.Pairwise.filter
    exact (pairwise_precedes_eraseDups _).imp refersFirst_iff.mpr
  refine ⟨fun key => ?_, in_order.imp fun first => (refersFirst_iff.mp first).ne, in_order⟩
  rw [mem_missing_iff, refersTo_iff]

/-- There is no more than one such list. -/
theorem ListsMissing.unique {others : List String} (h : ListsMissing lookup text names)
    (h' : ListsMissing lookup text others) : names = others := by
  have perm : names.Perm others := by
    apply (List.perm_ext_iff_of_nodup h.once h'.once).mpr
    intro key
    rw [h.exact, h'.exact]
  refine perm.eq_of_pairwise (fun a b _ _ first second => ?_) h.in_order h'.in_order
  exact absurd (refersFirst_iff.mp second) (refersFirst_iff.mp first).asymm

theorem listsMissing_iff : ListsMissing lookup text names ↔ names = missing lookup (pieces text) :=
  ⟨fun h => h.unique listsMissing_missing, fun same => same ▸ listsMissing_missing⟩

end Reported

theorem substitute_eq_error_iff {lookup : String → Option String} {text : String} {f : Fault} :
    substitute lookup text = .error f ↔
      missing lookup (pieces text.toList) ≠ [] ∧
        f = .configuration (.unresolved (missing lookup (pieces text.toList))) := by
  simp only [substitute]
  cases missing lookup (pieces text.toList) with
  | nil => simp
  | cons key others => simp [eq_comm]

theorem message_unresolved (names : List String) :
    (Fault.configuration (.unresolved names)).message =
      "Configuration error: Unresolved placeholders: " ++ ", ".intercalate names :=
  calc (Fault.configuration (.unresolved names)).message
      _ = "Configuration error: " ++ ("Unresolved placeholders: " ++ Text.joined ", " names) := rfl
      _ = "Configuration error: Unresolved placeholders: " ++ ", ".intercalate names := by
        simp [← String.append_assoc, Text.joined_eq_intercalate]

/-- Replacing fails exactly if a key without a value is referred to. The fault lists these keys and
no others, each once and in the order in which the text first refers to them, and its message shows
them so. -/
theorem substitute_reports_missing (lookup : String → Option String) (text : String) (f : Fault) :
    substitute lookup text = .error f ↔
      ∃ names, ListsMissing lookup text.toList names ∧ names ≠ [] ∧
        f = .configuration (.unresolved names) ∧
        f.message =
          "Configuration error: Unresolved placeholders: " ++ ", ".intercalate names := by
  rw [substitute_eq_error_iff]
  constructor
  · rintro ⟨some_missing, rfl⟩
    exact ⟨_, listsMissing_missing, some_missing, rfl, message_unresolved _⟩
  · rintro ⟨names, lists, some_missing, rfl, -⟩
    obtain rfl := listsMissing_iff.mp lists
    exact ⟨some_missing, rfl⟩

-- A key that has a value is not listed, nor is a missing one again.
example : substitute (fun key => if key = "b" then some "" else none)
    "$\x7bc\x7d $\x7bb\x7d $\x7ba\x7d $\x7bc\x7d" =
      .error (.configuration (.unresolved ["c", "a"])) := by cbv

end StoreBench.Placeholder
