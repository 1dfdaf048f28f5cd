/-
One backend after the other enabled in the same settings.

* `Step` is a way to enable a backend, `enableAll` takes such steps one after the other.
* `Step.readsFirst_patch` says what a step does, `of_outcome_enableAll_eq_ok` what a run of steps
  comes to: the backends applied in order.
* `get?_applyAll_of_ne` and `get?_applyAll_clientFactory` say what is left of them. The last enabled
  backend decides on every option but one: the client factory of the local double stays, since only
  the mode that needs it writes there and none takes it away.
* `enableAll_eq_applyTo_last_iff` says when the last backend decides on everything;
  `dynamo_keeps_localClientFactory` is a run in which it does not.
-/

import Mathlib.Data.List.Induction
import StoreBench.Proofs.Backend.Enable

namespace StoreBench.Backend

variable {o : Overrides} {s t : Settings} {b : Backend} {bs : List Backend}

/-! ### Steps -/

/-- A way to enable a backend in settings. -/
inductive Step
  /-- The backend that the properties of a run come to. -/
  | byProperties (o : Overrides)
  /-- The backend of a mode, given by its name; none if backends are disabled. -/
  | byMode (enabled : Bool) (name : String) (authoritative : Bool)

namespace Step

/-- The backend that a step enables. -/
def backend : Step → Settings → Except Fault Backend
  | .byProperties o, s => ofRun o s
  | .byMode enabled name authoritative, _ => resolve enabled name authoritative

def patch : Step → Patch Backend
  | .byProperties o => enable o
  | .byMode enabled name authoritative => do
    let b ← Patch.reading fun _ => resolve enabled name authoritative
    modify b.applyTo
    return b

/-- A step reads its backend and then applies it. -/
theorem readsFirst_patch (step : Step) :
    Patch.ReadsFirst step.patch step.backend id applyTo := by
  cases step with
  | byProperties o => exact readsFirst_enable o
  | byMode enabled name authoritative =>
      intro s
      simp only [patch, backend, Patch.outcome_bind, Patch.outcome_reading]
      cases resolve enabled name authoritative <;> rfl

end Step

/-- A backend that a step may enable: none, or that of a mode. -/
def IsResolved (b : Backend) : Prop :=
  b = disabled ∨ ∃ mode authoritative, b = ofMode mode authoritative

theorem isResolved_of_resolve {enabled : Bool} {name : String} {authoritative : Bool}
    (read : resolve enabled name authoritative = .ok b) : IsResolved b := by
  cases enabled with
  | false =>
      cases read
      exact .inl rfl
  | true =>
      by_cases named : ∃ mode : Mode, mode.name = name
      · obtain ⟨mode, named⟩ := named
        cases (resolve_of_name named authoritative).symm.trans read
        exact .inr ⟨mode, authoritative, rfl⟩
      · cases (resolve_of_unknown (not_exists.mp named) authoritative).symm.trans read

theorem isResolved_of_ofRun (read : ofRun o s = .ok b) : IsResolved b := by
  rcases ofRun_cases o s with ⟨-, none⟩ | ⟨mode, authoritative, -, -, -, some⟩ | ⟨f, refused⟩
  · cases read.symm.trans none
    exact .inl rfl
  · cases read.symm.trans some
    exact .inr ⟨mode, authoritative, rfl⟩
  · cases read.symm.trans (ofRun_of_refused refused)

theorem Step.isResolved_of_backend {step : Step} (read : step.backend s = .ok b) :
    IsResolved b := by
  cases step with
  | byProperties o => exact isResolved_of_ofRun read
  | byMode enabled name authoritative => exact isResolved_of_resolve read

/-! ### Runs -/

/-- Takes the steps in order, up to the first one that fails. -/
def enableAll (steps : List Step) : Patch (List Backend) :=
  steps.mapM Step.patch

/-- Applies the backends in order. -/
def applyAll (bs : List Backend) (s : Settings) : Settings :=
  bs.foldl (fun s b => b.applyTo s) s

/-- A run of steps that all succeed applies their backends in order. -/
theorem of_outcome_enableAll_eq_ok {steps : List Step}
    (run : (enableAll steps).outcome s = (.ok bs, t)) :
    t = applyAll bs s ∧ ∀ b ∈ bs, IsResolved b := by
  induction steps generalizing s bs with
  | nil =>
      cases run
      exact ⟨rfl, by simp⟩
  | cons step steps ih =>
      rw [enableAll, List.mapM_cons] at run
      obtain ⟨b, u, first, run⟩ := Patch.of_outcome_bind_eq_ok run
      obtain ⟨others, v, rest, last⟩ := Patch.of_outcome_bind_eq_ok run
      obtain ⟨_, read, rfl, rfl⟩ := step.readsFirst_patch.outcome_eq_ok_iff.mp first
      cases last
      obtain ⟨rfl, resolved⟩ := ih rest
      exact ⟨rfl, List.forall_mem_cons.mpr ⟨Step.isResolved_of_backend read, resolved⟩⟩

/-- The last backend that is enabled, or none. -/
def lastEnabled (bs : List Backend) : Backend :=
  (bs.filter isEnabled).getLast?.getD disabled

theorem applyAll_concat (bs : List Backend) (b : Backend) (s : Settings) :
    applyAll (bs ++ [b]) s = b.applyTo (applyAll bs s) := by
  simp [applyAll]

theorem lastEnabled_concat (bs : List Backend) (b : Backend) :
    lastEnabled (bs ++ [b]) = if b.isEnabled then b else lastEnabled bs := by
  cases enabled : b.isEnabled <;> simp [lastEnabled, List.filter_append, enabled]

theorem applyTo_of_not_isEnabled (disabled : b.isEnabled = false) (s : Settings) :
    b.applyTo s = s := by
  simp [applyTo, disabled]

/-! ### What is left of a run -/

/-- An enabled backend writes all options but the client factory, whatever was there before. -/
theorem get?_applyTo_of_ne {key : String} (enabled : b.isEnabled = true)
    (other : key ≠ Key.clientFactory) (same : key ∉ optionKeys → s.get? key = t.get? key) :
    (b.applyTo s).get? key = (b.applyTo t).get? key := by
  by_cases option : key ∈ optionKeys
  · have written : key ∈ b.options.map Prod.fst := by
      simp only [optionKeys, List.mem_cons, List.not_mem_nil, or_false, other] at option
      rcases option with rfl | rfl | rfl <;> simp [options, enabled]
    simp only [applyTo_eq_setMany, Settings.get?_setMany _ b.options]
    cases found : (Settings.ofList b.options).get? key with
    | none => exact absurd written (Settings.get?_ofList_eq_none_iff.mp found)
    | some text => rfl
  · rw [get?_applyTo_of_not_mem option, get?_applyTo_of_not_mem option, same option]

/-- Backends leave what is no option as it is. -/
theorem get?_applyAll_of_not_mem {key : String} (foreign : key ∉ optionKeys) (bs : List Backend)
    (s : Settings) : (applyAll bs s).get? key = s.get? key := by
  induction bs generalizing s with
  | nil => rfl
  | cons b bs ih => exact (ih (b.applyTo s)).trans (get?_applyTo_of_not_mem foreign b s)

/-- On all options but the client factory the last enabled backend decides. -/
theorem get?_applyAll_of_ne {key : String} (other : key ≠ Key.clientFactory) (bs : List Backend)
    (s : Settings) : (applyAll bs s).get? key = ((lastEnabled bs).applyTo s).get? key := by
  induction bs using List.reverseRecOn with
  | nil => rfl
  | append_singleton bs b ih =>
      rw [applyAll_concat, lastEnabled_concat]
      cases enabled : b.isEnabled with
      | false =>
          rw [applyTo_of_not_isEnabled enabled]
          exact ih
      | true => exact get?_applyTo_of_ne enabled other fun foreign =>
          get?_applyAll_of_not_mem foreign bs s

/-- Only the mode of the local double writes a client factory. -/
theorem get?_applyTo_clientFactory (resolved : IsResolved b) (s : Settings) :
    (b.applyTo s).get? Key.clientFactory =
      if b.mode = some .dynamoLocal then some localClientFactory
      else s.get? Key.clientFactory := by
  rcases resolved with rfl | ⟨mode, authoritative, rfl⟩
  · rfl
  · rw [(installs_applyTo mode authoritative s).clientFactory]
    cases mode <;> rfl

/-- A client factory stays, once the mode of the local double has been enabled. -/
theorem get?_applyAll_clientFactory (resolved : ∀ b ∈ bs, IsResolved b) (s : Settings) :
    (applyAll bs s).get? Key.clientFactory =
      if ∃ b ∈ bs, b.mode = some .dynamoLocal then some localClientFactory
      else s.get? Key.clientFactory := by
  induction bs using List.reverseRecOn with
  | nil => simp [applyAll]
  | append_singleton bs b ih =>
      have last : IsResolved b := resolved b (by simp)
      have earlier : ∀ c ∈ bs, IsResolved c := fun c member => resolved c (by simp [member])
      rw [applyAll_concat, get?_applyTo_clientFactory last, ih earlier]
      by_cases double : b.mode = some .dynamoLocal
      · simp [double]
      · simp [double]

/-- The last enabled backend is one of the run, if there is one. -/
theorem lastEnabled_eq_or_mem (bs : List Backend) :
    lastEnabled bs = disabled ∨ lastEnabled bs ∈ bs := by
  unfold lastEnabled
  cases last : (bs.filter isEnabled).getLast? with
  | none => exact .inl rfl
  | some b => exact .inr (List.mem_filter.mp (List.mem_of_getLast? last)).1

theorem isResolved_lastEnabled (resolved : ∀ b ∈ bs, IsResolved b) :
    IsResolved (lastEnabled bs) := by
  rcases lastEnabled_eq_or_mem bs with none | member
  · exact .inl none
  · exact resolved _ member

theorem exists_mem_of_mode_lastEnabled {mode : Mode} (last : (lastEnabled bs).mode = some mode) :
    ∃ b ∈ bs, b.mode = some mode := by
  rcases lastEnabled_eq_or_mem bs with none | member
  · rw [none] at last
    cases last
  · exact ⟨_, member, last⟩

/-! ### When the last backend decides -/

/-- The client factory is all in which a run and its last enabled backend may differ. -/
theorem applyAll_eq_applyTo_last_iff (bs : List Backend) (s : Settings) :
    applyAll bs s = (lastEnabled bs).applyTo s ↔
      (applyAll bs s).get? Key.clientFactory =
        ((lastEnabled bs).applyTo s).get? Key.clientFactory := by
  constructor
  · intro same
    rw [same]
  · intro same
    ext key : 1
    by_cases other : key = Key.clientFactory
    · rw [other, same]
    · exact get?_applyAll_of_ne other bs s

/-- In settings without a client factory the last enabled backend of a run decides on everything,
unless the local double's mode was enabled and another one after it. Whether it does or not, a
client factory is there behind the run exactly if the local double's mode was enabled at all. -/
theorem enableAll_eq_applyTo_last_iff {steps : List Step}
    (fresh : s.get? Key.clientFactory = none)
    (run : (enableAll steps).outcome s = (.ok bs, t)) :
    (t = (lastEnabled bs).applyTo s ↔
        ((lastEnabled bs).mode = some .dynamoLocal ∨ ∀ b ∈ bs, b.mode ≠ some .dynamoLocal)) ∧
      (∀ key, key ≠ Key.clientFactory → t.get? key = ((lastEnabled bs).applyTo s).get? key) ∧
      t.get? Key.clientFactory =
        if ∃ b ∈ bs, b.mode = some .dynamoLocal then some localClientFactory else none := by
  obtain ⟨rfl, resolved⟩ := of_outcome_enableAll_eq_ok run
  have factory := get?_applyAll_clientFactory resolved s
  have factory_last := get?_applyTo_clientFactory (isResolved_lastEnabled resolved) s
  rw [fresh] at factory factory_last
  refine ⟨?_, fun key other => get?_applyAll_of_ne other bs s, factory⟩
  rw [applyAll_eq_applyTo_last_iff, factory, factory_last]
  by_cases last : (lastEnabled bs).mode = some .dynamoLocal
  · rw [if_pos (exists_mem_of_mode_lastEnabled last), if_pos last]
    exact ⟨fun _ => .inl last, fun _ => rfl⟩
  · by_cases double : ∃ b ∈ bs, b.mode = some .dynamoLocal
    · rw [if_pos double, if_neg last]
      obtain ⟨b, member, mode⟩ := double
      constructor
      · rintro ⟨⟩
      · rintro (first | never)
        · exact absurd first last
        · exact absurd mode (never b member)
    · rw [if_neg double, if_neg last]
      exact ⟨fun _ => .inr fun b member mode => double ⟨b, member, mode⟩, fun _ => rfl⟩

/-- The mode of the local double decides on everything where it is enabled last. -/
theorem enableAll_eq_applyTo_last_localDouble :
    Settings.empty.get? Key.clientFactory = none ∧
      (enableAll [.byMode true "dynamo" false, .byMode true "dynamo-local" true]).outcome .empty =
        (.ok [ofMode .dynamo false, ofMode .dynamoLocal true],
          (ofMode .dynamoLocal true).applyTo ((ofMode .dynamo false).applyTo .empty)) ∧
      (ofMode .dynamoLocal true).applyTo ((ofMode .dynamo false).applyTo .empty) =
        (ofMode .dynamoLocal true).applyTo .empty := by
  have fresh : Settings.empty.get? Key.clientFactory = none := by decide +kernel
  have run :
      (enableAll [.byMode true "dynamo" false, .byMode true "dynamo-local" true]).outcome .empty =
        (.ok [ofMode .dynamo false, ofMode .dynamoLocal true],
          (ofMode .dynamoLocal true).applyTo ((ofMode .dynamo false).applyTo .empty)) := by
    decide +kernel
  exact ⟨fresh, run, (enableAll_eq_applyTo_last_iff fresh run).1.mpr (.inl rfl)⟩

/-- Behind the mode of the local double that of the live service keeps the double's client factory,
which it does not write by itself. -/
theorem dynamo_keeps_localClientFactory :
    Settings.empty.get? Key.clientFactory = none ∧
      (enableAll [.byMode true "dynamo-local" true, .byMode true "dynamo" true]).outcome .empty =
        (.ok [ofMode .dynamoLocal true, ofMode .dynamo true],
          (ofMode .dynamo true).applyTo ((ofMode .dynamoLocal true).applyTo .empty)) ∧
      ((ofMode .dynamo true).applyTo ((ofMode .dynamoLocal true).applyTo .empty)).get?
        Key.clientFactory = some localClientFactory ∧
      ((ofMode .dynamo true).applyTo .empty).get? Key.clientFactory = none := by
  decide +kernel

end StoreBench.Backend
