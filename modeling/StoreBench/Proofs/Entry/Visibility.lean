/-
Whether a report shows what differs: values are compared as they are and reported by their texts.

* `Permission.text_eq_text_iff` says that the text of a permission shows ten of its bits and no
  other. Numbers and truth values are told apart by their texts.
* `Hidden` are the differences that no report shows: permissions that differ in other bits only, and
  an owner or a group that is missing where one is expected that is called as if it were missing.
* `Obscures` says that a report lists a field with the same text twice. `verify_obscures_iff` says
  that both comparisons do so for the hidden differences and for no others; in `setUserId_obscured`
  they do.
-/

import Mathlib.Data.Nat.Bitwise
import StoreBench.Proofs.Entry.Comparison
import StoreBench.Proofs.Text.Numeral

namespace StoreBench

/-! ### The text of a permission -/

namespace Permission

variable {p q : Permission}

/-- The bits that have a place in the text. -/
def shownBits : List UInt16 :=
  flags.map Prod.fst ++ [0o1000]

theorem toList_text (p : Permission) :
    p.text.toList = (flags.map fun flag => if p.bits &&& flag.1 != 0 then flag.2 else '-') ++
      if p.bits &&& 0o1000 != 0 then ['t'] else [] :=
  String.toList_ofList

theorem choice_inj {α : Type} {x y : α} (apart : x ≠ y) {a b : Bool} :
    ((if a then x else y) = if b then x else y) ↔ a = b := by
  cases a <;> cases b <;> simp [apart, apart.symm]

/-- Texts are the same exactly if every bit with a place in them is. -/
theorem text_eq_text_iff_shownBits :
    p.text = q.text ↔
      ∀ bit ∈ shownBits, (p.bits &&& bit != 0) = (q.bits &&& bit != 0) := by
  have no_dash : ∀ flag ∈ flags, flag.2 ≠ '-' := by decide
  rw [← String.toList_inj, toList_text, toList_text]
  constructor
  · intro same bit member
    obtain ⟨letters, sticky⟩ := List.append_inj same (by simp)
    rcases List.mem_append.mp member with first | last
    · obtain ⟨flag, listed, rfl⟩ := List.mem_map.mp first
      exact (choice_inj (no_dash flag listed)).mp (List.map_inj_left.mp letters flag listed)
    · rw [List.mem_singleton.mp last]
      exact (choice_inj (List.cons_ne_nil 't' [])).mp sticky
  · intro same
    have letters : ∀ flag ∈ flags, (if p.bits &&& flag.1 != 0 then flag.2 else '-') =
        if q.bits &&& flag.1 != 0 then flag.2 else '-' := by
      intro flag member
      rw [same flag.1 (List.mem_append_left _ (List.mem_map_of_mem member))]
    rw [List.map_congr_left letters, same 0o1000 (by simp [shownBits])]

/-- A bit is set if the number has it at its place. -/
theorem and_bne_zero_eq_testBit {bit : UInt16} {i : Nat} (place : bit.toNat = 2 ^ i) (x : UInt16) :
    (x &&& bit != 0) = x.toNat.testBit i := by
  have value : (x &&& bit).toNat = (x.toNat.testBit i).toNat * 2 ^ i := by
    rw [UInt16.toNat_and, place, Nat.and_two_pow]
  rw [Bool.eq_iff_iff, bne_iff_ne, ne_eq, ← UInt16.toNat_inj, value]
  cases x.toNat.testBit i <;> simp

/-- The bits that are shown are the ten lowest ones. -/
theorem toNat_shownBits :
    shownBits.map UInt16.toNat = [8, 7, 6, 5, 4, 3, 2, 1, 0, 9].map fun i => 2 ^ i := by
  decide

theorem exists_place {bit : UInt16} (member : bit ∈ shownBits) : ∃ i < 10, bit.toNat = 2 ^ i := by
  have listed : bit.toNat ∈ shownBits.map UInt16.toNat := List.mem_map_of_mem member
  rw [toNat_shownBits, List.mem_map] at listed
  obtain ⟨i, place, value⟩ := listed
  exact ⟨i, (by decide : ∀ i ∈ [8, 7, 6, 5, 4, 3, 2, 1, 0, 9], i < 10) i place, value.symm⟩

theorem exists_bit {i : Nat} (low : i < 10) : ∃ bit ∈ shownBits, bit.toNat = 2 ^ i := by
  have place : i ∈ [8, 7, 6, 5, 4, 3, 2, 1, 0, 9] :=
    (by decide : ∀ i < 10, i ∈ [8, 7, 6, 5, 4, 3, 2, 1, 0, 9]) i low
  have listed : 2 ^ i ∈ shownBits.map UInt16.toNat := by
    rw [toNat_shownBits]
    exact List.mem_map_of_mem place
  exact List.mem_map.mp listed

theorem forall_shownBits_iff {x y : UInt16} :
    (∀ bit ∈ shownBits, (x &&& bit != 0) = (y &&& bit != 0)) ↔
      x &&& 0o1777 = y &&& 0o1777 := by
  have low : ∀ z : UInt16, (z &&& 0o1777).toNat = z.toNat % 2 ^ 10 := fun z =>
    (UInt16.toNat_and z 0o1777).trans (Nat.and_two_pow_sub_one_eq_mod z.toNat 10)
  rw [← UInt16.toNat_inj, low, low]
  constructor
  · intro same
    refine Nat.eq_of_testBit_eq fun i => ?_
    rw [Nat.testBit_mod_two_pow, Nat.testBit_mod_two_pow]
    by_cases shown : i < 10
    · obtain ⟨bit, member, place⟩ := exists_bit shown
      rw [← and_bne_zero_eq_testBit place, ← and_bne_zero_eq_testBit place, same bit member]
    · simp [shown]
  · intro same bit member
    obtain ⟨i, shown, place⟩ := exists_place member
    have digit := congrArg (Nat.testBit · i) same
    simp only [Nat.testBit_mod_two_pow, shown, decide_true, Bool.true_and] at digit
    rw [and_bne_zero_eq_testBit place, and_bne_zero_eq_testBit place, digit]

/-- Texts show the ten lowest bits, those for reading, writing and executing and the sticky one. -/
theorem text_eq_text_iff : p.text = q.text ↔ p.bits &&& 0o1777 = q.bits &&& 0o1777 :=
  text_eq_text_iff_shownBits.trans forall_shownBits_iff

/-- No permission looks as if there were none. -/
theorem text_ne_none (p : Permission) : p.text ≠ "<none>" := by
  intro same
  have lengths := congrArg (fun s => s.toList.length) same
  simp only [toList_text, List.length_append, List.length_map] at lengths
  have nine : flags.length = 9 := rfl
  have six : "<none>".toList.length = 6 := by decide
  omega

end Permission

namespace Entry

variable {actual target : Entry} {f : Field}

/-! ### Texts of values -/

@[simp] theorem word64_inj {m n : UInt64} : word64 m = word64 n ↔ m = n := by
  rw [word64, word64, Text.decimal_inj, Int.ofNat_inj, UInt64.toNat_inj]

@[simp] theorem word16_inj {m n : UInt16} : word16 m = word16 n ↔ m = n := by
  rw [word16, word16, Text.decimal_inj, Int.ofNat_inj, UInt16.toNat_inj]

@[simp] theorem signed64_inj {m n : Int64} : signed64 m = signed64 n ↔ m = n := by
  rw [signed64, signed64, Text.decimal_inj, Int64.toInt_inj]

/-- A text that is asked for looks like another one only if that is missing and the text is the word
for a missing one. -/
theorem asked_and_alike_iff {want got : Option String} {missing : String} :
    (want ≠ none ∧ got ≠ want) ∧ want.getD missing = got.getD missing ↔
      want = some missing ∧ got = none := by
  cases want with
  | none => simp
  | some want =>
      cases got with
      | none => simp
      | some got => simp [eq_comm]

/-! ### Differences that are hidden -/

/-- The entries differ in the field, and a report shows the same text for both. -/
def Hidden (actual expected : Entry) : Field → Prop
  | .owner => expected.owner = some "<none>" ∧ actual.owner = none
  | .group => expected.group = some "<none>" ∧ actual.group = none
  | .permission => ∃ want got, expected.permission = some want ∧ actual.permission = some got ∧
      want ≠ got ∧ want.bits &&& 0o1777 = got.bits &&& 0o1777
  | _ => False

theorem hidden_permission_iff :
    (Differs actual target .permission ∧
        Field.shown target .permission = Field.shown actual .permission) ↔
      Hidden actual target .permission := by
  simp only [Differs, Field.shown, Hidden]
  cases target.permission with
  | none => simp
  | some want =>
      cases actual.permission with
      | none => simp [Permission.text_ne_none]
      | some got => simp [Permission.text_eq_text_iff, eq_comm]

/-- Of the fields that differ the hidden ones have the same text twice, and no others. -/
theorem hidden_iff :
    Differs actual target f ∧ f.shown target = f.shown actual ↔ Hidden actual target f := by
  cases f with
  -- Words and numbers are told apart by their texts.
  | isDirectory | length | modified | blockSize | replication | accessed =>
      simp [Differs, Field.shown, Hidden, eq_comm]
  | owner => exact asked_and_alike_iff
  | group => exact asked_and_alike_iff
  | permission => exact hidden_permission_iff

/-! ### Reports -/

/-- The outcome is a fault that lists the field with the same text for both values. -/
def Obscures (outcome : Except Fault Unit) (f : Field) : Prop :=
  ∃ m, Lists outcome m ∧ m.field = f.name ∧ m.expected = m.actual

theorem Outcome.obscures_iff {outcome : Except Fault Unit} (h : Outcome actual target outcome) :
    Obscures outcome f ↔ Hidden actual target f := by
  rw [← hidden_iff]
  constructor
  · rintro ⟨m, listed, named, alike⟩
    obtain ⟨g, differs, rfl⟩ := h.lists_iff.mp listed
    obtain rfl := Field.name_injective named
    exact ⟨differs, alike⟩
  · rintro ⟨differs, alike⟩
    exact ⟨mismatch actual target f, h.lists_iff.mpr ⟨f, differs, rfl⟩, rfl, alike⟩

/-- Both comparisons report the same text twice for a field exactly if it has a difference that is
hidden: permissions that differ beyond the ten bits with a place in their texts, or an owner or a
group that is missing and has been expected to be called as missing ones are shown. -/
theorem verify_obscures_iff (actual expected : Entry) (f : Field) :
    (Obscures (verifyFile actual expected) f ↔ Hidden actual expected f) ∧
      (Obscures (verifyDirectory actual expected) f ↔ Hidden actual expected f) := by
  -- What is hidden has nothing to do with the kind and the length that are looked for.
  have file : Hidden actual expected.asFile f ↔ Hidden actual expected f := by
    cases f <;> exact Iff.rfl
  have directory : Hidden actual expected.asDirectory f ↔ Hidden actual expected f := by
    cases f <;> exact Iff.rfl
  exact ⟨(outcome_verifyFile actual expected).obscures_iff.trans file,
    (outcome_verifyDirectory actual expected).obscures_iff.trans directory⟩

-- The owner that is expected is called as a missing one is shown.
example : verifyFile {} { owner := some "<none>" } =
    .error (.entry "" [⟨"owner", "<none>", "<none>"⟩]) := rfl

/-- A file that runs as its owner is told apart from one that does not, with the same text for
both. -/
theorem setUserId_obscured :
    Permission.ofBits 0o4755 ≠ Permission.ofBits 0o755 ∧
      verifyFile { permission := some (.ofBits 0o4755) } { permission := some (.ofBits 0o755) } =
        .error (.entry "" [⟨"permission", "rwxr-xr-x", "rwxr-xr-x"⟩]) := by
  decide +kernel

end Entry

end StoreBench
