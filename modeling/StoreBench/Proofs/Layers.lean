/-
How the typed readers of a property stand to one another.

* `Supplies` says which text the layers above the default give a property, and `Absent` that they
  give none. `supplies_or_resolve_eq_default` says that resolving takes the one or the default.
* `resolveInt64_eq_ok_iff`, `resolveInt32_eq_ok_iff` and `resolveBytes_of_numeral` say what the
  readers of numbers take a numeral for. So a number that more than one of them reads is the same to
  all (`number_readers_agree`).
* A reader fails exactly if the text that is resolved is not of its kind (`exists_error_iff`), so it
  never falls back to a lower layer. `Rejects` is the one way in which a reader that can read its
  default fails: a layer supplies another text, and the fault names it (`rejects_of_eq_error`).
-/

import StoreBench.Layers
import StoreBench.Proofs.ByteSize
import StoreBench.Proofs.Text.Numeral

namespace StoreBench.Layers

open StoreBench.Text

variable {l : Layers} {key default text : String}

/-! ### What the layers supply -/

/-- The layers above the default give the property this text: an override that counts as it is, or
without one a text of the settings, trimmed. -/
inductive Supplies (l : Layers) (key : String) : String → Prop
  | override {value : String} : l.overrides.effective? key = some value → Supplies l key value
  | setting {s : Settings} {text : String} : l.overrides.effective? key = none →
    l.settings = some s → s.get? key = some text → Supplies l key (trimmed text)

/-- No override of the property counts, and no settings have it. -/
structure Absent (l : Layers) (key : String) : Prop where
  overrides : l.overrides.effective? key = none
  settings : ∀ s, l.settings = some s → s.get? key = none

theorem supplies_or_absent (l : Layers) (key : String) :
    (∃ text, l.Supplies key text) ∨ l.Absent key := by
  cases forced : l.overrides.effective? key with
  | some value => exact .inl ⟨value, .override forced⟩
  | none =>
      by_cases written : ∃ s text, l.settings = some s ∧ s.get? key = some text
      · obtain ⟨s, text, given, found⟩ := written
        exact .inl ⟨trimmed text, .setting forced given found⟩
      · right
        refine ⟨forced, ?_⟩
        intro s given
        cases found : s.get? key with
        | none => rfl
        | some text => exact absurd ⟨s, text, given, found⟩ written

theorem resolve_of_supplies (h : l.Supplies key text) (default : String) :
    l.resolve key default = text := by
  cases h with
  | override forced => rw [resolve, forced, Option.getD_some]
  | setting forced given found =>
      simp [resolve, candidate, Settings.trimmed?, forced, given, found]

theorem resolve_of_absent (h : l.Absent key) (default : String) :
    l.resolve key default = default := by
  have candidate_eq : l.candidate key default = default := by
    cases given : l.settings with
    | none => rw [candidate, given, Option.bind_none, Option.getD_none]
    | some s => simp [candidate, Settings.trimmed?, given, h.settings s given]
  rw [resolve, h.overrides, Option.getD_none, candidate_eq]

theorem supplies_or_resolve_eq_default (l : Layers) (key default : String) :
    l.Supplies key (l.resolve key default) ∨ l.resolve key default = default := by
  rcases l.supplies_or_absent key with ⟨text, supplied⟩ | absent
  · rw [resolve_of_supplies supplied]
    exact .inl supplied
  · exact .inr (resolve_of_absent absent default)

/-! ### Readers of one kind -/

section Readers

variable {α : Type} {read : String → Option α} {kind : String} {v : α} {f : Fault}

theorem resolveAs_eq_ok_iff :
    l.resolveAs read kind key default = .ok v ↔ read (l.resolve key default) = some v := by
  rw [resolveAs]
  cases read (l.resolve key default) <;> simp

theorem resolveAs_eq_error_iff :
    l.resolveAs read kind key default = .error f ↔
      read (l.resolve key default) = none ∧ f = .parse key (l.resolve key default) kind := by
  rw [resolveAs]
  cases read (l.resolve key default) <;> simp [eq_comm]

/-- A reader fails exactly if it cannot read the text that is resolved, whatever stands below it. -/
theorem exists_error_iff :
    (∃ f, l.resolveAs read kind key default = .error f) ↔
      ∀ v, read (l.resolve key default) ≠ some v := by
  constructor
  · rintro ⟨f, refused⟩ v reads
    rw [(resolveAs_eq_error_iff.mp refused).1] at reads
    cases reads
  · intro unread
    have none_read := Option.eq_none_iff_forall_ne_some.mpr unread
    exact ⟨_, resolveAs_eq_error_iff.mpr ⟨none_read, rfl⟩⟩

/-- The fault names the property, the text that is resolved for it and the kind that this text is
not of. A layer supplies the text, and it is not the default. -/
structure Rejects (l : Layers) (key default kind : String) (f : Fault) : Prop where
  names : f = .parse key (l.resolve key default) kind
  supplied : l.Supplies key (l.resolve key default)
  not_default : l.resolve key default ≠ default

/-- A reader that can read its default fails only for what a layer supplies. -/
theorem rejects_of_eq_error (reads : read default = some v)
    (refused : l.resolveAs read kind key default = .error f) : l.Rejects key default kind f := by
  obtain ⟨unread, names⟩ := resolveAs_eq_error_iff.mp refused
  have not_default : l.resolve key default ≠ default := by
    intro same
    rw [same, reads] at unread
    cases unread
  have supplied := (l.supplies_or_resolve_eq_default key default).resolve_right not_default
  exact ⟨names, supplied, not_default⟩

end Readers

/-! ### Readers of numbers -/

variable {d m : Int32} {wide n : Int64}

theorem resolveInt64_eq_ok_iff :
    l.resolveInt64 key wide = .ok n ↔
      Numeral (l.resolve key (decimal wide.toInt)).toList n.toInt := by
  rw [resolveInt64, resolveAs_eq_ok_iff, int64?_eq_some_iff]

theorem resolveInt32_eq_ok_iff :
    l.resolveInt32 key d = .ok m ↔ Numeral (l.resolve key (decimal d.toInt)).toList m.toInt := by
  rw [resolveInt32, resolveAs_eq_ok_iff, int32?_eq_some_iff]

theorem resolveBytes_of_numeral (h : Numeral (l.resolve key default).toList n.toInt) :
    l.resolveBytes key default = .ok n := by
  rw [resolveBytes, resolveAs_eq_ok_iff]
  exact ByteSize.parse?_of_numeral h

theorem exists_resolveInt64_error_iff :
    (∃ f, l.resolveInt64 key wide = .error f) ↔
      ∀ n : Int64, ¬ Numeral (l.resolve key (decimal wide.toInt)).toList n.toInt := by
  rw [resolveInt64, exists_error_iff]
  exact forall_congr' fun n => not_congr int64?_eq_some_iff

theorem exists_resolveInt32_error_iff :
    (∃ f, l.resolveInt32 key d = .error f) ↔
      ∀ m : Int32, ¬ Numeral (l.resolve key (decimal d.toInt)).toList m.toInt := by
  rw [resolveInt32, exists_error_iff]
  exact forall_congr' fun m => not_congr int32?_eq_some_iff

theorem exists_resolveBytes_error_iff :
    (∃ f, l.resolveBytes key default = .error f) ↔
      ∀ (n : Int64) (i : Int) (power : Nat),
        ByteSize.Written (trim (l.resolve key default).toList) i power →
        n.toInt ≠ i * 1024 ^ power := by
  rw [resolveBytes, exists_error_iff]
  refine forall_congr' fun n => ?_
  rw [ne_eq, ByteSize.parse?_eq_some_iff]
  simp only [not_exists, not_and, ne_eq]

/-- The same numeral is read as a word of either width. -/
theorem resolveInt64_toInt64_eq_ok_iff :
    l.resolveInt64 key d.toInt64 = .ok m.toInt64 ↔ l.resolveInt32 key d = .ok m := by
  rw [resolveInt64_eq_ok_iff, resolveInt32_eq_ok_iff, Int32.toInt_toInt64, Int32.toInt_toInt64]

theorem exists_toInt64_eq_iff :
    (∃ m : Int32, m.toInt64 = n) ↔
      Int32.minValue.toInt ≤ n.toInt ∧ n.toInt ≤ Int32.maxValue.toInt := by
  constructor
  · rintro ⟨m, rfl⟩
    rw [Int32.toInt_toInt64]
    exact ⟨m.minValue_le_toInt, m.toInt_le⟩
  · rintro ⟨above, below⟩
    have fits : fitsInt32 n.toInt = true :=
      Bool.and_eq_true_iff.mpr ⟨decide_eq_true above, decide_eq_true below⟩
    refine ⟨Int32.ofInt n.toInt, Int64.toInt_inj.mp ?_⟩
    rw [Int32.toInt_toInt64, toInt_ofInt_of_fitsInt32 fits]

/-- The narrow reader reads what the wide one reads in its range. -/
theorem exists_resolveInt32_iff :
    (∃ m : Int32, l.resolveInt32 key d = .ok m ∧ m.toInt64 = n) ↔
      l.resolveInt64 key d.toInt64 = .ok n ∧
        Int32.minValue.toInt ≤ n.toInt ∧ n.toInt ≤ Int32.maxValue.toInt := by
  rw [← exists_toInt64_eq_iff]
  constructor
  · rintro ⟨m, ok, rfl⟩
    exact ⟨resolveInt64_toInt64_eq_ok_iff.mpr ok, m, rfl⟩
  · rintro ⟨ok, m, rfl⟩
    exact ⟨m, resolveInt64_toInt64_eq_ok_iff.mp ok, rfl⟩

/-- What no layer supplies is read as the default, up to the ends of the range. -/
theorem resolveInt64_of_absent (absent : l.Absent key) (wide : Int64) :
    l.resolveInt64 key wide = .ok wide := by
  rw [resolveInt64_eq_ok_iff, resolve_of_absent absent]
  exact numeral_decimal wide.toInt

theorem resolveInt32_of_absent (absent : l.Absent key) (d : Int32) :
    l.resolveInt32 key d = .ok d := by
  rw [resolveInt32_eq_ok_iff, resolve_of_absent absent]
  exact numeral_decimal d.toInt

/-- The narrow reader gives the numbers that the wide one gives in its range, and a number that the
wide one gives is so many bytes. Each of the three fails exactly if the text that is resolved is
none of its kind, with no lower layer asked. A layer supplies that text, and the fault names it;
what no layer supplies is the default. -/
theorem number_readers_agree (l : Layers) (key : String) (d : Int32) :
    (∀ n : Int64, (∃ m : Int32, l.resolveInt32 key d = .ok m ∧ m.toInt64 = n) ↔
      l.resolveInt64 key d.toInt64 = .ok n ∧
        Int32.minValue.toInt ≤ n.toInt ∧ n.toInt ≤ Int32.maxValue.toInt) ∧
    (∀ n, l.resolveInt64 key d.toInt64 = .ok n →
      l.resolveBytes key (decimal d.toInt) = .ok n) ∧
    ((∃ f, l.resolveInt32 key d = .error f) ↔
      ∀ m : Int32, ¬ Numeral (l.resolve key (decimal d.toInt)).toList m.toInt) ∧
    ((∃ f, l.resolveInt64 key d.toInt64 = .error f) ↔
      ∀ n : Int64, ¬ Numeral (l.resolve key (decimal d.toInt)).toList n.toInt) ∧
    ((∃ f, l.resolveBytes key (decimal d.toInt) = .error f) ↔
      ∀ (n : Int64) (i : Int) (power : Nat),
        ByteSize.Written (trim (l.resolve key (decimal d.toInt)).toList) i power →
        n.toInt ≠ i * 1024 ^ power) ∧
    (∀ f, l.resolveInt32 key d = .error f → l.Rejects key (decimal d.toInt) "integer" f) ∧
    (∀ f, l.resolveInt64 key d.toInt64 = .error f →
      l.Rejects key (decimal d.toInt) "integer" f) ∧
    (∀ f, l.resolveBytes key (decimal d.toInt) = .error f →
      l.Rejects key (decimal d.toInt) "byte size" f) ∧
    (l.Absent key → l.resolveInt32 key d = .ok d ∧
      ∀ wide : Int64, l.resolveInt64 key wide = .ok wide) := by
  have numeral : Numeral (decimal d.toInt).toList d.toInt := numeral_decimal d.toInt
  have wide_numeral : Numeral (decimal d.toInt).toList d.toInt64.toInt := by
    rw [Int32.toInt_toInt64]
    exact numeral
  have wide_fails : (∃ f, l.resolveInt64 key d.toInt64 = .error f) ↔
      ∀ n : Int64, ¬ Numeral (l.resolve key (decimal d.toInt)).toList n.toInt := by
    rw [exists_resolveInt64_error_iff, Int32.toInt_toInt64]
  refine ⟨?_, ?_, exists_resolveInt32_error_iff, wide_fails, exists_resolveBytes_error_iff,
    ?_, ?_, ?_, ?_⟩
  · intro n
    exact exists_resolveInt32_iff
  · intro n ok
    rw [resolveInt64_eq_ok_iff, Int32.toInt_toInt64] at ok
    exact resolveBytes_of_numeral ok
  · intro f refused
    exact rejects_of_eq_error (int32?_eq_some_iff.mpr numeral) refused
  · intro f refused
    rw [resolveInt64, Int32.toInt_toInt64] at refused
    exact rejects_of_eq_error (int64?_eq_some_iff.mpr wide_numeral) refused
  · intro f refused
    exact rejects_of_eq_error (ByteSize.parse?_of_numeral wide_numeral) refused
  · intro absent
    exact ⟨resolveInt32_of_absent absent d, resolveInt64_of_absent absent⟩

example : (Layers.mk (.ofList [("split", "1k")]) none).resolveInt64 "split" 7 =
    .error (.parse "split" "1k" "integer") := by cbv

example : (Layers.mk (.ofList [("split", "1k")]) none).resolveBytes "split" "7" = .ok 1024 := by
  decide +kernel

end StoreBench.Layers
