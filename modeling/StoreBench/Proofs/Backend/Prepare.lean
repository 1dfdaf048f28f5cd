/-
Preparing settings for a run: all of it or nothing, and once is enough.

* `preparation` are the texts that preparing writes; nothing that it reads is among their keys
  (`get?_setMany_preparation`).
* `target` is what it reads, the endpoint and the run's backend, and `Unprepared` says why there may
  be none.
* `prepare_all_or_nothing` says that a failure leaves the settings as they were, that success
  changes the options alone, and that preparing again comes to the same and changes nothing.
-/

import StoreBench.Proofs.Backend.Enable

namespace StoreBench

variable {o : Overrides} {purge : Bool} {s t : Settings}

/-! ### What is written -/

/-- The keys at which a purge writes. -/
def purgeKeys : List String :=
  [Key.purge, Key.purgeAge]

/-- The texts that a purge writes, if there is one. -/
def purgeOptions (purge : Bool) : List (String × String) :=
  if purge then
    [(Key.purge, Text.boolWord true), (Key.purgeAge, Text.decimal purgeAgeSeconds.toInt)]
  else []

theorem fst_mem_purgeKeys {p : String × String} (member : p ∈ purgeOptions purge) :
    purge = true ∧ p.1 ∈ purgeKeys := by
  cases purge with
  | false => cases member
  | true =>
      simp only [purgeOptions, if_true, List.mem_cons, List.not_mem_nil, or_false] at member
      rcases member with rfl | rfl <;> simp [purgeKeys]

/-- The texts that preparing writes. -/
def preparation (b : Backend) (purge : Bool) : List (String × String) :=
  b.options ++ purgeOptions purge

theorem fst_of_mem_preparation {b : Backend} {p : String × String}
    (member : p ∈ preparation b purge) :
    p.1 ∈ Backend.optionKeys ∨ purge = true ∧ p.1 ∈ purgeKeys :=
  (List.mem_append.mp member).imp Backend.fst_mem_optionKeys fst_mem_purgeKeys

/-- Nothing that preparing reads is written by it. -/
theorem get?_setMany_preparation {key : String}
    (read : key ∈ Key.endpoint :: Backend.propertyKeys) (b : Backend) (purge : Bool)
    (s : Settings) : (s.setMany (preparation b purge)).get? key = s.get? key := by
  refine Settings.get?_setMany_of_forall_ne ?_ s
  rintro p member rfl
  have apart : ∀ key ∈ Key.endpoint :: Backend.propertyKeys,
      key ∉ Backend.optionKeys ∧ key ∉ purgeKeys := by decide
  rcases fst_of_mem_preparation member with written | ⟨-, written⟩
  · exact (apart p.1 read).1 written
  · exact (apart p.1 read).2 written

/-! ### What is read -/

/-- The endpoint and the backend that settings are prepared for. -/
def target (o : Overrides) (s : Settings) : Except Fault (Endpoint × Backend) := do
  let endpoint ← Endpoint.require s
  let b ← Backend.ofRun o s
  return (endpoint, b)

theorem target_congr
    (same : ∀ key ∈ Key.endpoint :: Backend.propertyKeys, s.get? key = t.get? key) :
    target o s = target o t := by
  have endpoint : Endpoint.require s = Endpoint.require t :=
    Endpoint.require_congr (same _ List.mem_cons_self)
  have backend : Backend.ofRun o s = Backend.ofRun o t :=
    Backend.ofRun_congr fun key member => same key (List.mem_cons_of_mem _ member)
  rw [target, endpoint, backend, target]

/-- Why settings cannot be prepared: they name no endpoint, or the properties of the run come to no
backend. -/
inductive Unprepared (o : Overrides) (s : Settings) : Fault → Prop
  | noEndpoint :
    Endpoint.ofUri? (Endpoint.nameIn s) = none →
      Unprepared o s (.assumption ("No test filesystem in " ++ Key.endpoint))
  | noBackend {endpoint : Endpoint} {f : Fault} :
    Endpoint.ofUri? (Endpoint.nameIn s) = some endpoint → Backend.Refused o s f →
      Unprepared o s f

theorem target_of_no_endpoint (nowhere : Endpoint.ofUri? (Endpoint.nameIn s) = none) :
    target o s = .error (.assumption ("No test filesystem in " ++ Key.endpoint)) := by
  simp only [target, Endpoint.require, nowhere]
  rfl

theorem target_of_endpoint {endpoint : Endpoint}
    (somewhere : Endpoint.ofUri? (Endpoint.nameIn s) = some endpoint) :
    target o s = (Backend.ofRun o s).map fun b => (endpoint, b) := by
  simp only [target, Endpoint.require, somewhere]
  rfl

theorem target_eq_error_iff {f : Fault} : target o s = .error f ↔ Unprepared o s f := by
  constructor
  · intro failed
    cases named : Endpoint.ofUri? (Endpoint.nameIn s) with
    | none =>
        cases (target_of_no_endpoint named).symm.trans failed
        exact .noEndpoint named
    | some endpoint =>
        rw [target_of_endpoint named] at failed
        cases read : Backend.ofRun o s with
        | error g =>
            rw [read] at failed
            cases failed
            exact .noBackend named (Backend.ofRun_eq_error_iff.mp read)
        | ok b =>
            rw [read] at failed
            cases failed
  · intro unprepared
    cases unprepared with
    | noEndpoint nowhere => exact target_of_no_endpoint nowhere
    | noBackend somewhere refused =>
        rw [target_of_endpoint somewhere, Backend.ofRun_of_refused refused]
        rfl

/-! ### Preparing -/

/-- Preparing reads the endpoint and the backend and then writes their options. -/
theorem readsFirst_prepare (o : Overrides) (purge : Bool) :
    Patch.ReadsFirst (prepare o purge) (target o) Prod.fst
      fun found s => s.setMany (preparation found.2 purge) := by
  intro s
  unfold prepare target
  rw [Patch.outcome_bind, Patch.outcome_reading]
  cases Endpoint.require s with
  | error f => rfl
  | ok endpoint =>
      simp only [Patch.outcome_bind, Backend.readsFirst_enable o s]
      cases Backend.ofRun o s with
      | error f => rfl
      | ok b =>
          change _ = (_, s.setMany (preparation b purge))
          rw [preparation, Settings.setMany_append, ← Backend.applyTo_eq_setMany]
          cases purge <;> rfl

/-- Preparing fails for a cause that it names and leaves the settings as they were. Where it
succeeds, it has changed at most the options of backends and, if a purge is asked for, those of the
purge, and preparing once more comes to the same endpoint and changes nothing. -/
theorem prepare_all_or_nothing (o : Overrides) (purge : Bool) (s : Settings) :
    (∀ f t, (prepare o purge).outcome s = (.error f, t) ↔ Unprepared o s f ∧ t = s) ∧
      ∀ endpoint t, (prepare o purge).outcome s = (.ok endpoint, t) →
        (∀ key, t.get? key ≠ s.get? key →
          key ∈ Backend.optionKeys ∨ purge = true ∧ key ∈ purgeKeys) ∧
        (prepare o purge).outcome t = (.ok endpoint, t) := by
  have reads := readsFirst_prepare o purge
  constructor
  · intro f t
    rw [reads.outcome_eq_error_iff, target_eq_error_iff]
  · intro endpoint t run
    obtain ⟨found, read, rfl, rfl⟩ := reads.outcome_eq_ok_iff.mp run
    constructor
    · intro key changed
      by_contra kept
      refine changed (Settings.get?_setMany_of_forall_ne ?_ s)
      rintro p member rfl
      exact kept (fst_of_mem_preparation member)
    · have kept : target o (s.setMany (preparation found.2 purge)) = target o s :=
        target_congr fun key read => get?_setMany_preparation read found.2 purge s
      refine reads.outcome_again (kept.trans read) ?_
      exact Settings.setMany_setMany (fun p member => List.mem_map_of_mem member) s

-- Nothing is written for a mode that nobody knows, not even for the purge.
example : ((prepare (.ofList [(Key.backendEnabled, "true"), (Key.backendMode, "cassandra")])
    true).outcome (.ofList [(Key.endpoint, "s3a://landsat")])).2 =
      .ofList [(Key.endpoint, "s3a://landsat")] := by decide +kernel

end StoreBench
