/-
What an entry has to do with another one that it is accepted for: matching as an order.

* `Matches` says that an entry has all that another one asks for. It is reflexive and transitive,
  and entries that match each other differ in nothing but their paths (`Matches.eq_of_matches`).
* `verifyFile_eq_ok_iff` and `verifyDirectory_eq_ok_iff` say that a comparison succeeds exactly for
  entries that match. An entry that has been accepted asks for its own kind
  (`Matches.asFile_eq_self`, `Matches.asDirectory_eq_self`), so that the order carries over.
* `verify_preorder` says so of both comparisons.
-/

import Mathlib.Tactic.ByContra
import StoreBench.Proofs.Entry.Comparison

namespace StoreBench.Entry

variable {a b c : Entry}

/-! ### Values that count unless they are unset -/

section Values

variable {α : Type} {x y z unset : α}

/-- What is asked for in two steps is asked for in one: a value that counts in the second step is
set, and so counts in the first. -/
theorem not_apart_trans (first : ¬ (y ≠ unset ∧ x ≠ y)) (second : ¬ (z ≠ unset ∧ y ≠ z)) :
    ¬ (z ≠ unset ∧ x ≠ z) := by
  rintro ⟨asked, apart⟩
  by_cases same : y = z
  · subst same
    exact first ⟨asked, apart⟩
  · exact second ⟨asked, same⟩

/-- Values that are asked for of each other are the same, set or not. -/
theorem eq_of_not_apart (first : ¬ (y ≠ unset ∧ x ≠ y)) (second : ¬ (x ≠ unset ∧ y ≠ x)) :
    x = y := by
  by_contra apart
  have unset_x : x = unset := by
    by_contra asked
    exact second ⟨asked, Ne.symm apart⟩
  have unset_y : y = unset := by
    by_contra asked
    exact first ⟨asked, apart⟩
  exact apart (unset_x.trans unset_y.symm)

end Values

/-! ### Matching -/

/-- The entry has everything that the other one asks for. -/
def Matches (actual target : Entry) : Prop :=
  ∀ f, ¬ Differs actual target f

namespace Matches

theorem refl (a : Entry) : Matches a a := by
  intro f
  cases f <;> simp [Differs]

theorem isDirectory_eq (h : Matches a b) : a.isDirectory = b.isDirectory :=
  not_not.mp (h .isDirectory)

theorem length_eq (h : Matches a b) : a.length = b.length :=
  not_not.mp (h .length)

theorem modified_eq (h : Matches a b) : a.modified = b.modified :=
  not_not.mp (h .modified)

theorem trans (first : Matches a b) (second : Matches b c) : Matches a c := by
  intro f
  cases f with
  | isDirectory => exact not_not.mpr (first.isDirectory_eq.trans second.isDirectory_eq)
  | length => exact not_not.mpr (first.length_eq.trans second.length_eq)
  | modified => exact not_not.mpr (first.modified_eq.trans second.modified_eq)
  | blockSize => exact not_apart_trans (first .blockSize) (second .blockSize)
  | replication => exact not_apart_trans (first .replication) (second .replication)
  | accessed => exact not_apart_trans (first .accessed) (second .accessed)
  | owner => exact not_apart_trans (first .owner) (second .owner)
  | group => exact not_apart_trans (first .group) (second .group)
  | permission => exact not_apart_trans (first .permission) (second .permission)

/-- Entries that match each other are the same but for their paths. -/
theorem eq_of_matches (first : Matches a b) (second : Matches b a) :
    { a with path := b.path } = b := by
  obtain ⟨path, isDirectory, length, blockSize, modified, accessed, replication, owner, group,
    permission⟩ := b
  rw [mk.injEq]
  exact ⟨rfl, first.isDirectory_eq, first.length_eq,
    eq_of_not_apart (first .blockSize) (second .blockSize), first.modified_eq,
    eq_of_not_apart (first .accessed) (second .accessed),
    eq_of_not_apart (first .replication) (second .replication),
    eq_of_not_apart (first .owner) (second .owner),
    eq_of_not_apart (first .group) (second .group),
    eq_of_not_apart (first .permission) (second .permission)⟩

end Matches

/-! ### What a comparison accepts -/

theorem Outcome.eq_ok_iff {outcome : Except Fault Unit} (h : Outcome a b outcome) :
    outcome = .ok () ↔ Matches a b := by
  cases h with
  | same none_differs => exact iff_of_true rfl none_differs
  | different nonempty listed =>
      obtain ⟨f, member⟩ := List.exists_mem_of_ne_nil _ nonempty
      refine iff_of_false ?_ fun matched => matched f ((listed f).mp member)
      rintro ⟨⟩

theorem verifyFile_eq_ok_iff : verifyFile a b = .ok () ↔ Matches a b.asFile :=
  (outcome_verifyFile a b).eq_ok_iff

theorem verifyDirectory_eq_ok_iff : verifyDirectory a b = .ok () ↔ Matches a b.asDirectory :=
  (outcome_verifyDirectory a b).eq_ok_iff

theorem asFile_eq_self_iff : a.asFile = a ↔ a.isDirectory = false := by
  obtain ⟨path, isDirectory, length, blockSize, modified, accessed, replication, owner, group,
    permission⟩ := a
  simp [asFile, eq_comm]

theorem asDirectory_eq_self_iff : a.asDirectory = a ↔ a.isDirectory = true ∧ a.length = 0 := by
  obtain ⟨path, isDirectory, length, blockSize, modified, accessed, replication, owner, group,
    permission⟩ := a
  simp [asDirectory, eq_comm]

/-- What is accepted as a file is one, and asks for one. -/
theorem Matches.asFile_eq_self (h : Matches a b.asFile) : a.asFile = a :=
  asFile_eq_self_iff.mpr h.isDirectory_eq

/-- What is accepted as a directory is an empty one, and asks for one. -/
theorem Matches.asDirectory_eq_self (h : Matches a b.asDirectory) : a.asDirectory = a :=
  asDirectory_eq_self_iff.mpr ⟨h.isDirectory_eq, h.length_eq⟩

/-- Both comparisons are transitive, and they accept an entry for itself exactly if it is of the
kind that they look for. Files that are accepted for each other differ in nothing but their
paths. -/
theorem verify_preorder :
    (∀ a b c, verifyFile a b = .ok () → verifyFile b c = .ok () → verifyFile a c = .ok ()) ∧
      (∀ a b c, verifyDirectory a b = .ok () → verifyDirectory b c = .ok () →
        verifyDirectory a c = .ok ()) ∧
      (∀ a, verifyFile a a = .ok () ↔ a.isDirectory = false) ∧
      (∀ a, verifyDirectory a a = .ok () ↔ a.isDirectory = true ∧ a.length = 0) ∧
      ∀ a b, verifyFile a b = .ok () → verifyFile b a = .ok () →
        { a with path := b.path } = b := by
  simp only [verifyFile_eq_ok_iff, verifyDirectory_eq_ok_iff]
  refine ⟨?_, ?_, ?_, ?_, ?_⟩
  · intro a b c first second
    rw [second.asFile_eq_self] at first
    exact first.trans second
  · intro a b c first second
    rw [second.asDirectory_eq_self] at first
    exact first.trans second
  · intro a
    rw [← asFile_eq_self_iff]
    refine ⟨Matches.asFile_eq_self, fun kept => ?_⟩
    rw [kept]
    exact .refl a
  · intro a
    rw [← asDirectory_eq_self_iff]
    refine ⟨Matches.asDirectory_eq_self, fun kept => ?_⟩
    rw [kept]
    exact .refl a
  · intro a b first second
    have file_a := first.asFile_eq_self
    have file_b := second.asFile_eq_self
    rw [file_b] at first
    rw [file_a] at second
    exact first.eq_of_matches second

/-- Entries of one time of modification. -/
def sample (path : String) (isDirectory : Bool) (blockSize : UInt64) (owner : Option String) :
    Entry :=
  { path := path, isDirectory := isDirectory, blockSize := blockSize, modified := 7,
    owner := owner }

/-- What one step asks for, the owner or the size of blocks, the next one need not. -/
theorem verify_preorder_sample :
    (verifyFile (sample "a" false 32 (some "alice")) (sample "b" false 0 (some "alice")) = .ok () ∧
        verifyFile (sample "b" false 0 (some "alice")) (sample "c" true 0 none) = .ok () ∧
        verifyFile (sample "a" false 32 (some "alice")) (sample "c" true 0 none) = .ok ()) ∧
      (verifyDirectory (sample "a" true 32 (some "alice")) (sample "b" true 32 none) = .ok () ∧
        verifyDirectory (sample "b" true 32 none) (sample "c" false 0 none) = .ok () ∧
        verifyDirectory (sample "a" true 32 (some "alice")) (sample "c" false 0 none) = .ok ()) ∧
      verifyFile (sample "a" false 32 none) (sample "b" false 32 none) = .ok () ∧
      verifyFile (sample "b" false 32 none) (sample "a" false 32 none) = .ok () ∧
      { sample "a" false 32 none with path := "b" } = sample "b" false 32 none := by
  obtain ⟨file_trans, directory_trans, -, -, antisymm⟩ := verify_preorder
  refine ⟨⟨rfl, rfl, ?_⟩, ⟨rfl, rfl, ?_⟩, rfl, rfl, ?_⟩
  · exact file_trans _ (sample "b" false 0 (some "alice")) _ rfl rfl
  · exact directory_trans _ (sample "b" true 32 none) _ rfl rfl
  · exact antisymm (sample "a" false 32 none) (sample "b" false 32 none) rfl rfl

end StoreBench.Entry
