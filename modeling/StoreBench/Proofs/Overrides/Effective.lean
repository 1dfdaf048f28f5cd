/-
Overrides that force nothing, and overrides of other properties, cannot be told from absent ones.

* `ConsultsOnly` says of a function of the overrides that all it learns from them are the effective
  values at some keys. `consultsOnly_iff` says that to such a function the overrides are the same as
  their `relevantPart`, from which everything else is gone.
* `Placeholder.substitute_congr` is why a text asks for the keys that it refers to and no others.
* `consultsOnly_operations` names the keys of each operation that reads overrides: one property,
  the references of a text, or the properties of the run's backend.
-/

import StoreBench.Layers
import StoreBench.Proofs.Backend.Prepare
import StoreBench.Proofs.Placeholder.Scan
import StoreBench.Settings.Source

namespace StoreBench

/-! ### Asking the overrides -/

namespace Overrides

variable {β : Type} {keys : List String} {f : Overrides → β}

/-- Overrides that have the same effective values at the keys are the same to the function. -/
def ConsultsOnly (keys : List String) (f : Overrides → β) : Prop :=
  ∀ o p, (∀ key ∈ keys, o.effective? key = p.effective? key) → f o = f p

/-- The overrides at the keys that may override; the others are absent. -/
def relevantPart (keys : List String) (o : Overrides) : Overrides :=
  ⟨o.values.filter fun key value => key ∈ keys && isEffective value⟩

@[simp] theorem get?_relevantPart (keys : List String) (o : Overrides) (key : String) :
    (o.relevantPart keys).get? key = if key ∈ keys then o.effective? key else none := by
  rw [get?, relevantPart, Std.ExtTreeMap.getElem?_filter']
  by_cases member : key ∈ keys
  · simp [member, effective?, get?]
  · simp [member]

/-- What is left of the overrides has the effective values at the keys, and none elsewhere. -/
theorem effective?_relevantPart (keys : List String) (o : Overrides) (key : String) :
    (o.relevantPart keys).effective? key = if key ∈ keys then o.effective? key else none := by
  rw [effective?, get?_relevantPart]
  split
  · rw [effective?, Option.filter_filter]
    simp
  · rfl

/-- A function consults the overrides at the keys only exactly if it comes to the same without those
that may not override and those at other keys. -/
theorem consultsOnly_iff : ConsultsOnly keys f ↔ ∀ o, f (o.relevantPart keys) = f o := by
  constructor
  · intro consults o
    refine consults _ _ fun key member => ?_
    rw [effective?_relevantPart, if_pos member]
  · intro same o p agree
    have parts : o.relevantPart keys = p.relevantPart keys := by
      ext1 key
      rw [get?_relevantPart, get?_relevantPart]
      split
      · exact agree key ‹_›
      · rfl
    rw [← same o, parts, same p]

theorem ConsultsOnly.mono (consults : ConsultsOnly keys f) {more : List String}
    (among : ∀ key ∈ keys, key ∈ more) : ConsultsOnly more f := by
  intro o p agree
  exact consults o p fun key member => agree key (among key member)

end Overrides

open Overrides (ConsultsOnly)

/-! ### One property -/

namespace Layers

variable (settings : Option Settings) (key : String)

theorem consultsOnly_resolve (default : String) :
    ConsultsOnly [key] fun o => resolve ⟨o, settings⟩ key default := by
  intro o p agree
  simp only [resolve, candidate, agree key List.mem_cons_self]

theorem consultsOnly_resolveAs {α : Type} (read : String → Option α) (kind default : String) :
    ConsultsOnly [key] fun o => resolveAs read kind ⟨o, settings⟩ key default := by
  intro o p agree
  have text : resolve ⟨o, settings⟩ key default = resolve ⟨p, settings⟩ key default :=
    consultsOnly_resolve settings key default o p agree
  simp only [resolveAs, text]

end Layers

/-! ### References in a text -/

namespace Placeholder

variable {lookup other : String → Option String} {ps : List Piece}

theorem missing_congr (same : ∀ key ∈ keys ps, lookup key = other key) :
    missing lookup ps = missing other ps := by
  rw [missing, missing]
  congr 1
  exact List.filter_congr fun key member => by rw [same key member]

theorem flatMap_filled_congr (same : ∀ key ∈ keys ps, lookup key = other key) :
    ps.flatMap (Piece.filled lookup) = ps.flatMap (Piece.filled other) := by
  rw [List.flatMap_def, List.flatMap_def]
  refine congrArg List.flatten (List.map_congr_left fun piece member => ?_)
  cases piece with
  | literal c => rfl
  | reference key =>
      have value := same _ (mem_keys_iff.mpr ⟨key, member, rfl⟩)
      simp only [Piece.filled, value]

/-- The keys that a text refers to. -/
def references (text : String) : List String :=
  keys (pieces text.toList)

/-- Replacing looks up the keys that the text refers to, and no others. -/
theorem substitute_congr {text : String} (same : ∀ key ∈ references text, lookup key = other key) :
    substitute lookup text = substitute other text := by
  simp only [substitute, missing_congr same, flatMap_filled_congr same]

end Placeholder

theorem Settings.consultsOnly_ofYaml (text : String) :
    ConsultsOnly (Placeholder.references text) fun o => ofYaml o text := by
  intro o p agree
  simp only [ofYaml, Placeholder.substitute_congr agree]

/-! ### The backend of a run -/

namespace Backend

theorem consultsOnly_runFlag (key : String) (default : Bool) (s : Settings) :
    ConsultsOnly [key] fun o => runFlag o key default s :=
  Layers.consultsOnly_resolveAs none key Layers.readBool? "boolean" _

theorem consultsOnly_modeName (s : Settings) :
    ConsultsOnly [Key.backendMode] fun o => modeName o s :=
  Layers.consultsOnly_resolve none Key.backendMode _

theorem consultsOnly_ofRun (s : Settings) : ConsultsOnly propertyKeys fun o => ofRun o s := by
  intro o p agree
  have enabled : enabledIn o s = enabledIn p s :=
    (consultsOnly_runFlag Key.backendEnabled false s).mono (by decide) o p agree
  have authoritative : runFlag o Key.backendAuthoritative true s =
      runFlag p Key.backendAuthoritative true s :=
    (consultsOnly_runFlag Key.backendAuthoritative true s).mono (by decide) o p agree
  have mode : modeName o s = modeName p s :=
    (consultsOnly_modeName s).mono (by decide) o p agree
  simp only [ofRun, enabled, authoritative, mode]

theorem consultsOnly_enable (s : Settings) :
    ConsultsOnly propertyKeys fun o => (enable o).outcome s := by
  intro o p agree
  exact (readsFirst_enable o).outcome_congr (readsFirst_enable p) (consultsOnly_ofRun s o p agree)

/-- Of the three properties the state of a run reads only the one that enables a backend. -/
theorem consultsOnly_assumeState (needed : Bool) (s : Settings) :
    ConsultsOnly [Key.backendEnabled] fun o => assumeState o needed s := by
  intro o p agree
  have enabled : enabledIn o s = enabledIn p s :=
    consultsOnly_runFlag Key.backendEnabled false s o p agree
  simp only [assumeState, enabled]

end Backend

theorem consultsOnly_prepare (purge : Bool) (s : Settings) :
    ConsultsOnly Backend.propertyKeys fun o => (prepare o purge).outcome s := by
  intro o p agree
  have backend : Backend.ofRun o s = Backend.ofRun p s := Backend.consultsOnly_ofRun s o p agree
  have found : target o s = target p s := by rw [target, backend, target]
  exact (readsFirst_prepare o purge).outcome_congr (readsFirst_prepare p purge) found

/-! ### Every operation -/

/-- Each operation consults the overrides only at the keys that it names: the property that is
resolved, the references of the text that is read as settings, and the properties of the backend.
So overrides that may not override, and those at other keys, might as well be absent: without them
the operation comes to the same value, the same fault, the same lines of a log and the same settings
after it. (The directory of a run, `testPath`, is named by an override and not resolved; it is not
among these operations.) -/
theorem consultsOnly_operations :
    (∀ settings key default, ConsultsOnly [key] fun o =>
        Layers.resolve ⟨o, settings⟩ key default) ∧
      (∀ settings key default, ConsultsOnly [key] fun o =>
        Layers.resolveInt32 ⟨o, settings⟩ key default) ∧
      (∀ settings key default, ConsultsOnly [key] fun o =>
        Layers.resolveInt64 ⟨o, settings⟩ key default) ∧
      (∀ settings key default, ConsultsOnly [key] fun o =>
        Layers.resolveBool ⟨o, settings⟩ key default) ∧
      (∀ settings key default, ConsultsOnly [key] fun o =>
        Layers.resolveBytes ⟨o, settings⟩ key default) ∧
      (∀ text, ConsultsOnly (Placeholder.references text) fun o => Settings.ofYaml o text) ∧
      (∀ s, ConsultsOnly Backend.propertyKeys fun o => (Backend.enable o).outcome s) ∧
      (∀ needed s, ConsultsOnly Backend.propertyKeys fun o => Backend.assumeState o needed s) ∧
      (∀ purge s, ConsultsOnly Backend.propertyKeys fun o => (prepare o purge).outcome s) ∧
      ∀ {β : Type} (keys : List String) (f : Overrides → β),
        ConsultsOnly keys f → ∀ o, f (o.relevantPart keys) = f o := by
  refine ⟨fun settings key default => Layers.consultsOnly_resolve settings key default,
    fun settings key default => Layers.consultsOnly_resolveAs settings key _ _ _,
    fun settings key default => Layers.consultsOnly_resolveAs settings key _ _ _,
    fun settings key default => Layers.consultsOnly_resolveAs settings key _ _ _,
    fun settings key default => Layers.consultsOnly_resolveAs settings key _ _ _,
    Settings.consultsOnly_ofYaml, Backend.consultsOnly_enable,
    fun needed s => (Backend.consultsOnly_assumeState needed s).mono (by decide),
    consultsOnly_prepare, fun keys f => Overrides.consultsOnly_iff.mp⟩

end StoreBench
