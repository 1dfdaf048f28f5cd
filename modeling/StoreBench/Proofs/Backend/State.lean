/-
What a test may assume of the backend once it has been enabled.

* `storeInUse` is the class of the store that a bucket really uses behind enabling: its own option,
  else the store of the backend, else what was configured before.
* `assumeState_of_fits` and `assumeState_of_not_fits` say when the state of a run is the one that a
  test needs.
* `assumeState_enable` says that the check agrees with enabling: the state that enabling reports is
  found exactly if the store in use fits it, and the opposite state never.
-/

import StoreBench.Proofs.Backend.Enable
import StoreBench.Proofs.Settings.BucketView

namespace StoreBench

/-- A bucket uses its own store class, or else the general one. -/
theorem Settings.trimmed?_bucketView_storeClass (s : Settings) (bucket : String) :
    (s.bucketView bucket).trimmed? Key.storeClass =
      (s.trimmed? (ownKey bucket "metadatastore.impl")).or (s.trimmed? Key.storeClass) := by
  have general : Text.behind? Key.option Key.storeClass = some "metadatastore.impl" :=
    Text.behind?_eq_some_iff.mpr rfl
  rw [trimmed?, get?_bucketView, general, Option.bind_some]
  simp only [trimmed?, Option.map_or]

namespace Backend

variable {o : Overrides} {s t : Settings} {b : Backend} {endpoint : Endpoint}

/-! ### The store that a bucket uses -/

/-- The class of the store that the bucket uses behind enabling the backend: the bucket's own, else
that of the backend, else the one that was configured before, else the one that keeps nothing. -/
def storeInUse (b : Backend) (before after : Settings) (bucket : String) : String :=
  (after.trimmed? (Settings.ownKey bucket "metadatastore.impl")).getD
    (if b.isEnabled then b.store.className
      else (before.trimmed? Key.storeClass).getD Store.null.className)

/-- The names of the classes have no white space at their ends. -/
theorem trimmed_className (store : Store) : Text.trimmed store.className = store.className := by
  cases store <;> decide +kernel

theorem get?_applyTo_storeClass (b : Backend) (s : Settings) :
    (b.applyTo s).get? Key.storeClass =
      if b.isEnabled then some b.store.className else s.get? Key.storeClass := by
  unfold applyTo
  split
  · cases b.clientFactory <;>
      simp [Settings.setBool, Key.storeClass, Key.tableCreate, Key.clientFactory]
  · rfl

theorem trimmed?_applyTo_storeClass (b : Backend) (s : Settings) :
    (b.applyTo s).trimmed? Key.storeClass =
      if b.isEnabled then some b.store.className else s.trimmed? Key.storeClass := by
  rw [Settings.trimmed?, get?_applyTo_storeClass]
  split
  · rw [Option.map_some, trimmed_className]
  · rfl

theorem usesNullStore_applyTo_iff (b : Backend) (s : Settings) (bucket : String) :
    (b.applyTo s).usesNullStore bucket = true ↔
      storeInUse b s (b.applyTo s) bucket = Store.null.className := by
  rw [Settings.usesNullStore, beq_iff_eq, Settings.trimmed?_bucketView_storeClass,
    trimmed?_applyTo_storeClass, storeInUse]
  cases (b.applyTo s).trimmed? (Settings.ownKey bucket "metadatastore.impl") with
  | some own => rfl
  | none => cases b.isEnabled <;> rfl

/-! ### The state that a test needs -/

section Assumed

variable {enabled needed : Bool} (flag : enabledIn o s = .ok enabled)
  (required : Endpoint.require s = .ok endpoint)

include flag required

/-- The state is the one that is needed if the run's flag is and the bucket's store fits it. -/
theorem assumeState_of_fits (same : needed = enabled)
    (fits : needed ≠ s.usesNullStore endpoint.bucket) :
    (assumeState o needed s).outcome = .ok () := by
  have second : (needed != s.usesNullStore endpoint.bucket) = true := bne_iff_ne.mpr fits
  subst same
  simp only [assumeState, flag, required, Check.ofExcept_ok_bind, beq_self_eq_true,
    Check.assume_true, second]
  rfl

/-- Otherwise an assumption is violated. -/
theorem assumeState_of_not_fits
    (unfit : ¬ (needed = enabled ∧ needed ≠ s.usesNullStore endpoint.bucket)) :
    ∃ message, (assumeState o needed s).outcome = .error (.assumption message) := by
  simp only [assumeState, flag, required, Check.ofExcept_ok_bind]
  by_cases same : needed = enabled
  · have second : (needed != s.usesNullStore endpoint.bucket) = false := by
      simpa [same] using unfit
    subst same
    simp only [beq_self_eq_true, Check.assume_true, Check.ofExcept_ok_bind, second]
    exact ⟨_, rfl⟩
  · have first : (needed == enabled) = false := beq_eq_false_iff_ne.mpr same
    simp only [first, Check.assume_false_bind]
    exact ⟨_, rfl⟩

end Assumed

/-- The store in use keeps something exactly if there is a backend. -/
def Fits (b : Backend) (before after : Settings) (bucket : String) : Prop :=
  storeInUse b before after bucket ≠ Store.null.className ↔ b.isEnabled = true

theorem fits_applyTo_iff (b : Backend) (s : Settings) (bucket : String) :
    Fits b s (b.applyTo s) bucket ↔ b.isEnabled ≠ (b.applyTo s).usesNullStore bucket := by
  rw [Fits, ne_eq (storeInUse b s (b.applyTo s) bucket), ← usesNullStore_applyTo_iff]
  cases b.isEnabled <;> cases (b.applyTo s).usesNullStore bucket <;> decide

/-- Checking agrees with enabling. Where the run has been given its backend, or none, the state that
was reported is found exactly if the store in use fits it, and otherwise an assumption is violated;
the opposite state is never found. -/
theorem assumeState_enable (required : Endpoint.require s = .ok endpoint)
    (run : (enable o).outcome s = (.ok b, t)) :
    ((assumeState o b.isEnabled t).outcome = .ok () ↔ Fits b s t endpoint.bucket) ∧
      (¬ Fits b s t endpoint.bucket →
        ∃ message, (assumeState o b.isEnabled t).outcome = .error (.assumption message)) ∧
      ∃ message, (assumeState o (!b.isEnabled) t).outcome = .error (.assumption message) := by
  obtain ⟨_, read, rfl, rfl⟩ := (readsFirst_enable o).outcome_eq_ok_iff.mp run
  have flag : enabledIn o (b.applyTo s) = .ok b.isEnabled :=
    enabledIn_of_ofRun ((ofRun_applyTo o b s).trans read)
  have required_after : Endpoint.require (b.applyTo s) = .ok endpoint :=
    (require_applyTo b s).trans required
  have violated (misfit : ¬ Fits b s (b.applyTo s) endpoint.bucket) :
      ∃ message, (assumeState o b.isEnabled (b.applyTo s)).outcome =
        .error (.assumption message) :=
    assumeState_of_not_fits flag required_after fun both =>
      misfit ((fits_applyTo_iff b s endpoint.bucket).mpr both.2)
  refine ⟨⟨fun found => ?_, fun fits => ?_⟩, violated, ?_⟩
  · by_contra misfit
    obtain ⟨message, failed⟩ := violated misfit
    cases found.symm.trans failed
  · exact assumeState_of_fits flag required_after rfl ((fits_applyTo_iff b s _).mp fits)
  · exact assumeState_of_not_fits flag required_after fun both => by simp at both

/-- Settings in which one bucket has a store of its own, the one that keeps nothing. -/
def ownNullStore : Settings :=
  .ofList [(Key.endpoint, "s3a://landsat"),
    (Settings.ownKey "landsat" "metadatastore.impl", " " ++ Store.null.className)]

/-- Overrides that enable the backend. -/
def enabledRun : Overrides := .ofList [(Key.backendEnabled, "true")]

/-- The bucket's own store is found, whatever the backend that has been enabled. -/
theorem assumeState_enable_ownNullStore :
    Endpoint.require ownNullStore = .ok ⟨"s3a://landsat", "landsat"⟩ ∧
      (enable enabledRun).outcome ownNullStore =
        (.ok (ofMode .local true), (ofMode .local true).applyTo ownNullStore) ∧
      ¬ Fits (ofMode .local true) ownNullStore ((ofMode .local true).applyTo ownNullStore)
        "landsat" ∧
      ∃ message, (assumeState enabledRun true ((ofMode .local true).applyTo ownNullStore)).outcome =
        .error (.assumption message) := by
  have required : Endpoint.require ownNullStore = .ok ⟨"s3a://landsat", "landsat"⟩ := by
    decide +kernel
  have run : (enable enabledRun).outcome ownNullStore =
      (.ok (ofMode .local true), (ofMode .local true).applyTo ownNullStore) := by
    decide +kernel
  have misfit : ¬ Fits (ofMode .local true) ownNullStore
      ((ofMode .local true).applyTo ownNullStore) "landsat" := by
    unfold Fits
    decide +kernel
  exact ⟨required, run, misfit, (assumeState_enable required run).2.1 misfit⟩

end Backend

end StoreBench
