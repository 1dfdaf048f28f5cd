/-
What is written to settings is read back.

* `supplies_set` says that a text without white space at its ends, once set at a key that no override
  counts for, is the text that the layers supply there.
* `AlikeAt` says that no reader can tell two settings apart at a key. `alikeAt_iff` says that this is
  so as soon as they hold the same text there.
* `readers_of_written` puts together what becomes of a number and of a truth value: every reader of
  its kind reads it at its key, and no reader notices it elsewhere.
-/

import StoreBench.Proofs.Layers
import StoreBench.Proofs.Settings.Flag

namespace StoreBench

open Text (decimal boolWord)

variable {s t : Settings} {o : Overrides} {key : String}

/-! ### Written texts -/

theorem Text.trimmed_decimal (n : Int) : trimmed (decimal n) = decimal n := by
  rw [trimmed, ByteSize.trim_of_numeral (numeral_decimal n), String.ofList_toList]

theorem Text.trimmed_boolWord (flag : Bool) : trimmed (boolWord flag) = boolWord flag := by
  cases flag <;> decide

section Written

variable (unforced : o.effective? key = none)

include unforced

theorem supplies_set {text : String} (bare : Text.trimmed text = text) :
    Layers.Supplies ⟨o, some (s.set key text)⟩ key text := by
  have found : (s.set key text).get? key = some text := by simp
  have supplied : Layers.Supplies ⟨o, some (s.set key text)⟩ key (Text.trimmed text) :=
    .setting unforced rfl found
  rwa [bare] at supplied

/-! ### Numbers -/

theorem resolve_setInt (v : Int64) (default : String) :
    Layers.resolve ⟨o, some (s.setInt key v)⟩ key default = decimal v.toInt :=
  Layers.resolve_of_supplies (supplies_set unforced (Text.trimmed_decimal v.toInt)) default

theorem resolveInt64_setInt (v default : Int64) :
    Layers.resolveInt64 ⟨o, some (s.setInt key v)⟩ key default = .ok v := by
  rw [Layers.resolveInt64_eq_ok_iff, resolve_setInt unforced]
  exact Text.numeral_decimal v.toInt

theorem resolveBytes_setInt (v : Int64) (default : String) :
    Layers.resolveBytes ⟨o, some (s.setInt key v)⟩ key default = .ok v := by
  apply Layers.resolveBytes_of_numeral
  rw [resolve_setInt unforced]
  exact Text.numeral_decimal v.toInt

/-- A number of the narrow range is read as the narrow word of its value. -/
theorem exists_resolveInt32_setInt {v : Int64} (above : Int32.minValue.toInt ≤ v.toInt)
    (below : v.toInt ≤ Int32.maxValue.toInt) (default : Int32) :
    ∃ m : Int32, m.toInt = v.toInt ∧
      Layers.resolveInt32 ⟨o, some (s.setInt key v)⟩ key default = .ok m := by
  obtain ⟨m, rfl⟩ := Layers.exists_toInt64_eq_iff.mpr ⟨above, below⟩
  refine ⟨m, (Int32.toInt_toInt64 m).symm, ?_⟩
  rw [← Layers.resolveInt64_toInt64_eq_ok_iff]
  exact resolveInt64_setInt unforced _ _

/-- A number beyond the narrow range is refused, and the fault names its numeral. -/
theorem resolveInt32_setInt_of_beyond {v : Int64}
    (beyond : v.toInt < Int32.minValue.toInt ∨ Int32.maxValue.toInt < v.toInt) (default : Int32) :
    Layers.resolveInt32 ⟨o, some (s.setInt key v)⟩ key default =
      .error (.parse key (decimal v.toInt) "integer") := by
  rw [Layers.resolveInt32, Layers.resolveAs_eq_error_iff, resolve_setInt unforced]
  refine ⟨?_, rfl⟩
  rw [Option.eq_none_iff_forall_ne_some]
  intro m read
  have value : m.toInt = v.toInt :=
    (Text.int32?_eq_some_iff.mp read).unique (Text.numeral_decimal v.toInt)
  have above := m.minValue_le_toInt
  have below := m.toInt_le
  omega

/-! ### Truth values -/

theorem resolveBool_setBool (flag default : Bool) :
    Layers.resolveBool ⟨o, some (s.setBool key flag)⟩ key default = .ok flag := by
  have supplied := supplies_set (s := s) unforced (Text.trimmed_boolWord flag)
  rw [Layers.resolveBool, Layers.resolveAs_eq_ok_iff, Settings.setBool,
    Layers.resolve_of_supplies supplied]
  exact Layers.readBool?_boolWord flag

end Written

theorem getBool_setBool (s : Settings) (key : String) (flag default : Bool) :
    (s.setBool key flag).getBool key default = flag := by
  have found : (s.setBool key flag).get? key = some (boolWord flag) := by simp [Settings.setBool]
  have spells : Settings.Spells (boolWord flag) (boolWord flag) :=
    Settings.spells_self (Text.trimmed_boolWord flag)
  exact Settings.getBool_of_spells found spells default

/-! ### Other keys -/

/-- No reader can tell the settings apart at the key, whatever overrides are ahead of them and
whatever default it is given. -/
structure AlikeAt (key : String) (s t : Settings) : Prop where
  get? : s.get? key = t.get? key
  trimmed? : s.trimmed? key = t.trimmed? key
  contains : s.contains key = t.contains key
  getBool : ∀ default, s.getBool key default = t.getBool key default
  resolve : ∀ o default,
    Layers.resolve ⟨o, some s⟩ key default = Layers.resolve ⟨o, some t⟩ key default
  resolveInt64 : ∀ o default,
    Layers.resolveInt64 ⟨o, some s⟩ key default = Layers.resolveInt64 ⟨o, some t⟩ key default
  resolveInt32 : ∀ o default,
    Layers.resolveInt32 ⟨o, some s⟩ key default = Layers.resolveInt32 ⟨o, some t⟩ key default
  resolveBool : ∀ o default,
    Layers.resolveBool ⟨o, some s⟩ key default = Layers.resolveBool ⟨o, some t⟩ key default
  resolveBytes : ∀ o default,
    Layers.resolveBytes ⟨o, some s⟩ key default = Layers.resolveBytes ⟨o, some t⟩ key default

theorem Layers.resolve_congr (same : s.get? key = t.get? key) (o : Overrides) (default : String) :
    resolve ⟨o, some s⟩ key default = resolve ⟨o, some t⟩ key default := by
  simp only [resolve, candidate, Settings.trimmed?, Option.bind_some, same]

theorem Layers.resolveAs_congr {α : Type} (same : s.get? key = t.get? key)
    (read : String → Option α) (kind : String) (o : Overrides) (default : String) :
    resolveAs read kind ⟨o, some s⟩ key default = resolveAs read kind ⟨o, some t⟩ key default := by
  simp only [resolveAs, resolve_congr same]

theorem alikeAt_iff : AlikeAt key s t ↔ s.get? key = t.get? key := by
  refine ⟨AlikeAt.get?, fun same => ?_⟩
  exact {
    get? := same
    trimmed? := congrArg (Option.map Text.trimmed) same
    contains := by rw [Settings.contains_eq_isSome, Settings.contains_eq_isSome, same]
    getBool := Settings.getBool_congr same
    resolve := Layers.resolve_congr same
    resolveInt64 := fun o _ => Layers.resolveAs_congr same _ _ o _
    resolveInt32 := fun o _ => Layers.resolveAs_congr same _ _ o _
    resolveBool := fun o _ => Layers.resolveAs_congr same _ _ o _
    resolveBytes := fun o _ => Layers.resolveAs_congr same _ _ o _ }

theorem alikeAt_set {other : String} (apart : other ≠ key) (text : String) :
    AlikeAt other (s.set key text) s := by
  rw [alikeAt_iff, Settings.get?_set, if_neg apart.symm]

/-! ### Writing and reading -/

/-- A number that is set at a key without an override is what the readers of numbers read there,
except that the narrow one refuses it, naming its numeral, where it is beyond its range. A truth
value that is set is what the readers of truth values read. Readers of other keys find there what
was there before. -/
theorem readers_of_written (s : Settings) {o : Overrides} {key : String}
    (unforced : o.effective? key = none) :
    (∀ v : Int64,
      (∀ default, Layers.resolveInt64 ⟨o, some (s.setInt key v)⟩ key default = .ok v) ∧
      (∀ default, Layers.resolveBytes ⟨o, some (s.setInt key v)⟩ key default = .ok v) ∧
      ∀ default,
        (Int32.minValue.toInt ≤ v.toInt → v.toInt ≤ Int32.maxValue.toInt →
          ∃ m : Int32, m.toInt = v.toInt ∧
            Layers.resolveInt32 ⟨o, some (s.setInt key v)⟩ key default = .ok m) ∧
        (v.toInt < Int32.minValue.toInt ∨ Int32.maxValue.toInt < v.toInt →
          Layers.resolveInt32 ⟨o, some (s.setInt key v)⟩ key default =
            .error (.parse key (decimal v.toInt) "integer"))) ∧
    (∀ flag : Bool,
      (∀ default, Layers.resolveBool ⟨o, some (s.setBool key flag)⟩ key default = .ok flag) ∧
      ∀ default, (s.setBool key flag).getBool key default = flag) ∧
    ∀ other, other ≠ key →
      (∀ v, AlikeAt other (s.setInt key v) s) ∧ ∀ flag, AlikeAt other (s.setBool key flag) s := by
  refine ⟨fun v => ⟨?_, ?_, fun default => ⟨?_, ?_⟩⟩, fun flag => ⟨?_, ?_⟩, fun other apart => ?_⟩
  · exact resolveInt64_setInt unforced v
  · exact resolveBytes_setInt unforced v
  · intro above below
    exact exists_resolveInt32_setInt unforced above below default
  · intro beyond
    exact resolveInt32_setInt_of_beyond unforced beyond default
  · exact resolveBool_setBool unforced flag
  · exact getBool_setBool s key flag
  · exact ⟨fun v => alikeAt_set apart _, fun flag => alikeAt_set apart _⟩

/-- The overrides of a run that passes the property on although nobody has set it. -/
def passedOn : Overrides :=
  .ofList [("split", Overrides.unset)]

/-- Both ends of the wide range are read back, and so is the upper end of the narrow one; the number
behind that is refused by the narrow reader. -/
theorem ends_of_ranges_read_back :
    passedOn.effective? "split" = none ∧
      Layers.resolveInt64 ⟨passedOn, some (Settings.empty.setInt "split" Int64.minValue)⟩ "split" 7 =
        .ok Int64.minValue ∧
      Layers.resolveBytes ⟨passedOn, some (Settings.empty.setInt "split" Int64.maxValue)⟩ "split"
        "1k" = .ok Int64.maxValue ∧
      Int32.minValue.toInt ≤ (2147483647 : Int64).toInt ∧
      (2147483647 : Int64).toInt ≤ Int32.maxValue.toInt ∧
      (∃ m : Int32, m.toInt = (2147483647 : Int64).toInt ∧
        Layers.resolveInt32 ⟨passedOn, some (Settings.empty.setInt "split" 2147483647)⟩ "split" 7 =
          .ok m) ∧
      Int32.maxValue.toInt < (2147483648 : Int64).toInt ∧
      Layers.resolveInt32 ⟨passedOn, some (Settings.empty.setInt "split" 2147483648)⟩ "split" 7 =
        .error (.parse "split" "2147483648" "integer") ∧
      "page" ≠ "split" ∧ AlikeAt "page" (Settings.empty.setInt "split" 2147483648) .empty := by
  have unforced : passedOn.effective? "split" = none := by
    simp [passedOn, Overrides.ofList, Overrides.insertMany, Overrides.effective?,
      Overrides.isEffective]
  obtain ⟨numbers, -, elsewhere⟩ := readers_of_written .empty unforced
  have above : Int32.minValue.toInt ≤ (2147483647 : Int64).toInt := by decide
  have below : (2147483647 : Int64).toInt ≤ Int32.maxValue.toInt := by decide
  have beyond : Int32.maxValue.toInt < (2147483648 : Int64).toInt := by decide
  have apart : "page" ≠ "split" := by decide
  exact ⟨unforced, (numbers _).1 7, (numbers _).2.1 "1k", above, below,
    ((numbers _).2.2 7).1 above below, beyond, ((numbers _).2.2 7).2 (.inr beyond), apart,
    (elsewhere "page" apart).1 _⟩

end StoreBench
