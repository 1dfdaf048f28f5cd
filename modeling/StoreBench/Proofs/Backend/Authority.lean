/-
Settings that call a metadata store authoritative, and whether there is such a store.

* `NamesStore` says that settings name a store that keeps something, and `BacksAuthority` that they
  do so if they are authoritative. Both look at two options only (`backsAuthority_congr`).
* `Installs.backsAuthority_iff` says what one backend leaves: the flag and the store are written
  independently of each other, so the mode of the store that keeps nothing may be authoritative.
* `backsAuthority_of_enableAll_iff` follows this through a run of steps, of which the last enabled
  backend decides.
* `authority_of_enable` says it of the properties of a run, and `nullStore_is_authoritative` is a
  run that names a mode and nothing else.
-/

import StoreBench.Proofs.Backend.Rules
import StoreBench.Proofs.Backend.State
import StoreBench.Proofs.Backend.Succession
import StoreBench.Proofs.Settings.ReadBack

namespace StoreBench

variable {o : Overrides} {s t : Settings} {b : Backend} {bs : List Backend} {mode : Mode}
  {authoritative : Bool}

namespace Settings

/-! ### Authority and stores -/

/-- The settings name the class of a metadata store, and not that of the one that keeps nothing. -/
def NamesStore (s : Settings) : Prop :=
  ∃ className, s.trimmed? Key.storeClass = some className ∧ className ≠ Store.null.className

/-- Where the settings are authoritative, there is a metadata store that can be. -/
def BacksAuthority (s : Settings) : Prop :=
  isAuthoritative (some s) = true → s.NamesStore

theorem backsAuthority_congr (flag : s.get? Key.authoritative = t.get? Key.authoritative)
    (store : s.get? Key.storeClass = t.get? Key.storeClass) :
    s.BacksAuthority ↔ t.BacksAuthority := by
  simp only [BacksAuthority, NamesStore, isAuthoritative, getBool_congr flag, trimmed?, store]

end Settings

namespace Backend

/-! ### One backend -/

theorem className_eq_null_iff {store : Store} :
    store.className = Store.null.className ↔ store = .null := by
  cases store <;> decide

theorem store_eq_null_iff : mode.store = .null ↔ mode = .null := by
  cases mode <;> decide

theorem name_eq_none_iff : mode.name = "none" ↔ mode = .null := by
  cases mode <;> decide

/-- The flag that a backend writes is the one that is read. -/
theorem Installs.isAuthoritative (installs : Installs mode authoritative s t) :
    Settings.isAuthoritative (some t) = authoritative :=
  Settings.getBool_of_spells installs.authoritative
    (Settings.spells_self (Text.trimmed_boolWord authoritative)) _

theorem Installs.namesStore_iff (installs : Installs mode authoritative s t) :
    t.NamesStore ↔ mode ≠ .null := by
  have named : t.trimmed? Key.storeClass = some mode.store.className := by
    rw [Settings.trimmed?, installs.storeClass, Option.map_some, trimmed_className]
  simp only [Settings.NamesStore, named, Option.some.injEq, exists_eq_left', ne_eq,
    className_eq_null_iff, store_eq_null_iff]

/-- A backend is authoritative without a store exactly in the mode of the store that keeps nothing,
if the flag is on. -/
theorem Installs.backsAuthority_iff (installs : Installs mode authoritative s t) :
    t.BacksAuthority ↔ ¬ (mode = .null ∧ authoritative = true) := by
  rw [Settings.BacksAuthority, installs.isAuthoritative, installs.namesStore_iff, not_and, ne_eq]
  exact imp_not_comm

/-! ### One backend after the other -/

/-- Settings that back their authority do so behind a run of steps exactly if the last backend that
is enabled in it, if there is any, has a store or no authority. -/
theorem backsAuthority_of_enableAll_iff {steps : List Step} (backed : s.BacksAuthority)
    (run : (enableAll steps).outcome s = (.ok bs, t)) :
    t.BacksAuthority ↔
      ¬ ((lastEnabled bs).mode = some .null ∧ (lastEnabled bs).authoritative = true) := by
  obtain ⟨rfl, resolved⟩ := of_outcome_enableAll_eq_ok run
  have last : (applyAll bs s).BacksAuthority ↔ ((lastEnabled bs).applyTo s).BacksAuthority :=
    Settings.backsAuthority_congr (get?_applyAll_of_ne (by decide) bs s)
      (get?_applyAll_of_ne (by decide) bs s)
  rw [last]
  obtain none | ⟨mode, authoritative, some⟩ := isResolved_lastEnabled resolved
  · rw [none, applyTo_of_not_isEnabled rfl]
    exact iff_of_true backed (by decide)
  · rw [some, (installs_applyTo mode authoritative s).backsAuthority_iff]
    simp [ofMode]

/-! ### The backend of a run -/

/-- Enabling a backend installs that of the mode and the flag which the properties of the run come
to. -/
theorem exists_installs_of_enable (run : (enable o).outcome s = (.ok b, t))
    (enabled : b.isEnabled = true) :
    ∃ mode authoritative, Settles o s Key.backendAuthoritative true (.ok authoritative) ∧
      NamesMode o s mode.name ∧ Installs mode authoritative s t := by
  have enables := enables_outcome_enable o s
  rw [run] at enables
  cases enables with
  | disabled off => cases enabled
  | enabled on flag names installs => exact ⟨_, _, flag, names, installs⟩

/-- Settings in which a run has enabled its backend are authoritative exactly if the run's flag is
on, and name a store exactly if the run's mode is any other than `none`. Neither depends on the
other: the settings back their authority if and only if it is not so that the flag is on and the
mode is `none`. -/
theorem authority_of_enable (run : (enable o).outcome s = (.ok b, t))
    (enabled : b.isEnabled = true) :
    (Settings.isAuthoritative (some t) = true ↔
        Settles o s Key.backendAuthoritative true (.ok true)) ∧
      (t.NamesStore ↔ ¬ NamesMode o s "none") ∧
      (t.BacksAuthority ↔
        ¬ (Settles o s Key.backendAuthoritative true (.ok true) ∧ NamesMode o s "none")) := by
  obtain ⟨mode, authoritative, flag, names, installs⟩ := exists_installs_of_enable run enabled
  have flag_iff : Settles o s Key.backendAuthoritative true (.ok true) ↔ authoritative = true := by
    constructor
    · intro on
      cases flag.unique on
      rfl
    · rintro rfl
      exact flag
  have mode_iff : NamesMode o s "none" ↔ mode = .null := by
    constructor
    · intro none
      exact name_eq_none_iff.mp (names.unique none)
    · rintro rfl
      exact names
  rw [flag_iff, mode_iff]
  refine ⟨by rw [installs.isAuthoritative], installs.namesStore_iff, ?_⟩
  rw [installs.backsAuthority_iff, and_comm]

/-- Overrides of a run that passes the mode on although nobody has set it. -/
def unsetMode : Overrides := .ofList [(Key.backendMode, Overrides.unset)]

/-- Settings that enable the live service, with a flag that is no truth value. -/
def looseSettings : Settings :=
  .ofList [(Key.backendEnabled, " TRUE "), (Key.backendAuthoritative, "maybe"),
    (Key.backendMode, "\tdynamo ")]

/-- A flag that is no truth value counts as on, and the live service has a store to back it. -/
theorem authority_of_enable_looseSettings :
    (enable unsetMode).outcome looseSettings =
        (.ok (ofMode .dynamo true), (ofMode .dynamo true).applyTo looseSettings) ∧
      (ofMode .dynamo true).isEnabled = true ∧
      Settings.isAuthoritative (some ((ofMode .dynamo true).applyTo looseSettings)) = true ∧
      ((ofMode .dynamo true).applyTo looseSettings).NamesStore ∧
      ((ofMode .dynamo true).applyTo looseSettings).BacksAuthority := by
  have read : ofRun unsetMode looseSettings = .ok (ofMode .dynamo true) := by decide +kernel
  have run := (readsFirst_enable unsetMode).outcome_of_read read
  have flag : Settles unsetMode looseSettings Key.backendAuthoritative true (.ok true) :=
    runFlag_eq_iff_settles.mp (by decide +kernel)
  have other : ¬ NamesMode unsetMode looseSettings "none" :=
    mt modeName_eq_iff_namesMode.mpr (by decide +kernel)
  obtain ⟨authority, store, backed⟩ := authority_of_enable run rfl
  exact ⟨run, rfl, authority.mpr flag, store.mpr other, backed.mpr fun both => other both.2⟩

/-- Overrides that enable the mode of the store that keeps nothing, and say no more. -/
def nullRun : Overrides := .ofList [(Key.backendEnabled, "true"), (Key.backendMode, "none")]

/-- A run that names the mode without a store gets settings that are authoritative all the same. -/
theorem nullStore_is_authoritative :
    (enable nullRun).outcome .empty =
        (.ok (ofMode .null true), (ofMode .null true).applyTo .empty) ∧
      (ofMode .null true).isEnabled = true ∧
      Settings.isAuthoritative (some ((ofMode .null true).applyTo .empty)) = true ∧
      ((ofMode .null true).applyTo .empty).get? Key.storeClass = some Store.null.className ∧
      ¬ ((ofMode .null true).applyTo .empty).BacksAuthority := by
  have read : ofRun nullRun .empty = .ok (ofMode .null true) := by decide +kernel
  have run := (readsFirst_enable nullRun).outcome_of_read read
  have installs := installs_applyTo .null true .empty
  exact ⟨run, rfl, installs.isAuthoritative, installs.storeClass,
    mt installs.backsAuthority_iff.mp (not_not_intro ⟨rfl, rfl⟩)⟩

end Backend

end StoreBench
