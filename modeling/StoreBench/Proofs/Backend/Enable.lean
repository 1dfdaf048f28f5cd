/-
What enabling the backend of a run reads and what it writes.

* `ofRun` is the backend that the properties of a run come to. It reads the properties alone
  (`ofRun_congr`), and `ofRun_eq_error_iff` says when it is refused.
* `options` are the texts that a backend writes, at the keys of `optionKeys` only. `Installs` says
  what comes of writing those of a mode, key by key (`installs_iff_eq_applyTo`).
* `readsFirst_enable` says that enabling reads the run's backend and then writes its options. No
  option is a property, so a backend that has been enabled is the run's backend still
  (`ofRun_applyTo`).
-/

import StoreBench.Backend
import StoreBench.Proofs.Patch
import StoreBench.Proofs.Settings.Writing

namespace StoreBench

/-! ### Reading at one key -/

theorem Endpoint.require_congr {s t : Settings} (same : s.get? Key.endpoint = t.get? Key.endpoint) :
    Endpoint.require s = Endpoint.require t := by
  simp only [require, nameIn, Settings.trimmed?, same]

/-! ### Names of modes -/

namespace Mode

theorem ofName?_eq_some_iff {name : String} {m : Mode} : ofName? name = some m ↔ m.name = name := by
  constructor
  · intro found
    simpa using List.find?_some found
  · rintro rfl
    exact ofName?_name m

theorem ofName?_eq_none_iff {name : String} : ofName? name = none ↔ ∀ m : Mode, m.name ≠ name := by
  simp only [Option.eq_none_iff_forall_ne_some, ne_eq, ofName?_eq_some_iff]

end Mode

namespace Backend

variable {o : Overrides} {s t : Settings} {b : Backend}

/-! ### Flags of a run -/

/-- An override of the flag at the key is neither of the words for truth values. -/
def IsMalformed (o : Overrides) (key word : String) : Prop :=
  o.effective? key = some word ∧ word ≠ "true" ∧ word ≠ "false"

theorem readBool?_eq_none_iff {word : String} :
    Layers.readBool? word = none ↔ word ≠ "true" ∧ word ≠ "false" := by
  unfold Layers.readBool?
  split
  · simp_all
  · split <;> simp_all

/-- Without an override a flag is the one in the settings. -/
theorem runFlag_of_no_override {key : String} (absent : o.effective? key = none) (default : Bool)
    (s : Settings) : runFlag o key default s = .ok (s.getBool key default) := by
  simp [runFlag, Layers.resolveBool, Layers.resolveAs, Layers.resolve, Layers.candidate, absent]

/-- An override that is one of the two words decides, whatever is in the settings. -/
theorem runFlag_of_word {key word : String} {flag : Bool} (found : o.effective? key = some word)
    (read : Layers.readBool? word = some flag) (default : Bool) (s : Settings) :
    runFlag o key default s = .ok flag := by
  simp [runFlag, Layers.resolveBool, Layers.resolveAs, Layers.resolve, found, read]

theorem runFlag_of_isMalformed {key word : String} (malformed : IsMalformed o key word)
    (default : Bool) (s : Settings) :
    runFlag o key default s = .error (.parse key word "boolean") := by
  have read := readBool?_eq_none_iff.mpr malformed.2
  simp [runFlag, Layers.resolveBool, Layers.resolveAs, Layers.resolve, malformed.1, read]

/-- A flag is refused only for a malformed override. -/
theorem runFlag_eq_error_iff {key : String} {default : Bool} {f : Fault} :
    runFlag o key default s = .error f ↔
      ∃ word, IsMalformed o key word ∧ f = .parse key word "boolean" := by
  constructor
  · intro refused
    cases found : o.effective? key with
    | none =>
        rw [runFlag_of_no_override found] at refused
        cases refused
    | some word =>
        cases read : Layers.readBool? word with
        | some flag =>
            rw [runFlag_of_word found read] at refused
            cases refused
        | none =>
            have malformed : IsMalformed o key word := ⟨found, readBool?_eq_none_iff.mp read⟩
            rw [runFlag_of_isMalformed malformed] at refused
            cases refused
            exact ⟨word, malformed, rfl⟩
  · rintro ⟨word, malformed, rfl⟩
    exact runFlag_of_isMalformed malformed default s

theorem runFlag_congr {key : String} (same : s.get? key = t.get? key) (default : Bool) :
    runFlag o key default s = runFlag o key default t := by
  simp only [runFlag, Settings.getBool_congr same]

/-! ### The backend of a run -/

/-- The backend that the properties of a run come to. -/
def ofRun (o : Overrides) (s : Settings) : Except Fault Backend := do
  if ← enabledIn o s then
    let authoritative ← runFlag o Key.backendAuthoritative true s
    resolve true (modeName o s) authoritative
  else
    return disabled

theorem ofRun_of_disabled (h : enabledIn o s = .ok false) : ofRun o s = .ok disabled := by
  simp only [ofRun, h]
  rfl

theorem ofRun_of_enabled (h : enabledIn o s = .ok true) :
    ofRun o s =
      (runFlag o Key.backendAuthoritative true s).bind (resolve true (modeName o s)) := by
  simp only [ofRun, h]
  rfl

theorem resolve_of_name {name : String} {mode : Mode} (named : mode.name = name)
    (authoritative : Bool) :
    resolve true name authoritative = .ok (ofMode mode authoritative) := by
  simp [resolve, Mode.ofName, Mode.ofName?_eq_some_iff.mpr named, Except.map]

theorem resolve_of_unknown {name : String} (unknown : ∀ mode : Mode, mode.name ≠ name)
    (authoritative : Bool) :
    resolve true name authoritative =
      .error (.configuration (.unknownBackend name (Mode.all.map Mode.name))) := by
  simp [resolve, Mode.ofName, Mode.ofName?_eq_none_iff.mpr unknown, Except.map]

/-- Why the properties of a run come to no backend. -/
inductive Refused (o : Overrides) (s : Settings) : Fault → Prop
  | enabledFlag {word : String} :
    IsMalformed o Key.backendEnabled word →
      Refused o s (.parse Key.backendEnabled word "boolean")
  | authoritativeFlag {word : String} :
    enabledIn o s = .ok true → IsMalformed o Key.backendAuthoritative word →
      Refused o s (.parse Key.backendAuthoritative word "boolean")
  | unknownMode {authoritative : Bool} :
    enabledIn o s = .ok true → runFlag o Key.backendAuthoritative true s = .ok authoritative →
      (∀ mode : Mode, mode.name ≠ modeName o s) →
      Refused o s (.configuration (.unknownBackend (modeName o s) (Mode.all.map Mode.name)))

theorem ofRun_of_refused {f : Fault} (refused : Refused o s f) : ofRun o s = .error f := by
  cases refused with
  | enabledFlag malformed =>
      have enabled : enabledIn o s = _ := runFlag_of_isMalformed malformed false s
      simp only [ofRun, enabled]
      rfl
  | authoritativeFlag enabled malformed =>
      rw [ofRun_of_enabled enabled, runFlag_of_isMalformed malformed]
      rfl
  | unknownMode enabled authoritative unknown =>
      rw [ofRun_of_enabled enabled, authoritative]
      exact resolve_of_unknown unknown _

/-- What comes of the properties of a run: no backend, the backend of the mode that they name, or a
refusal. -/
theorem ofRun_cases (o : Overrides) (s : Settings) :
    (enabledIn o s = .ok false ∧ ofRun o s = .ok disabled) ∨
      (∃ mode authoritative, enabledIn o s = .ok true ∧
        runFlag o Key.backendAuthoritative true s = .ok authoritative ∧ modeName o s = mode.name ∧
        ofRun o s = .ok (ofMode mode authoritative)) ∨
      ∃ f, Refused o s f := by
  cases enabled : enabledIn o s with
  | error f =>
      obtain ⟨word, malformed, rfl⟩ := runFlag_eq_error_iff.mp enabled
      exact .inr (.inr ⟨_, .enabledFlag malformed⟩)
  | ok flag =>
      cases flag with
      | false => exact .inl ⟨rfl, ofRun_of_disabled enabled⟩
      | true =>
          refine .inr ?_
          cases authoritative : runFlag o Key.backendAuthoritative true s with
          | error f =>
              obtain ⟨word, malformed, rfl⟩ := runFlag_eq_error_iff.mp authoritative
              exact .inr ⟨_, .authoritativeFlag enabled malformed⟩
          | ok flag =>
              by_cases named : ∃ mode : Mode, mode.name = modeName o s
              · obtain ⟨mode, named⟩ := named
                refine .inl ⟨mode, flag, rfl, rfl, named.symm, ?_⟩
                rw [ofRun_of_enabled enabled, authoritative]
                exact resolve_of_name named flag
              · exact .inr ⟨_, .unknownMode enabled authoritative (not_exists.mp named)⟩

theorem ofRun_eq_error_iff {f : Fault} : ofRun o s = .error f ↔ Refused o s f := by
  refine ⟨fun failed => ?_, ofRun_of_refused⟩
  rcases ofRun_cases o s with ⟨-, read⟩ | ⟨_, _, -, -, -, read⟩ | ⟨g, refused⟩
  · cases failed.symm.trans read
  · cases failed.symm.trans read
  · cases failed.symm.trans (ofRun_of_refused refused)
    exact refused

/-- A run has a backend exactly if its properties enable one. -/
theorem enabledIn_of_ofRun (read : ofRun o s = .ok b) : enabledIn o s = .ok b.isEnabled := by
  rcases ofRun_cases o s with ⟨disabled, none⟩ | ⟨_, _, enabled, -, -, some⟩ | ⟨f, refused⟩
  · cases read.symm.trans none
    exact disabled
  · cases read.symm.trans some
    exact enabled
  · cases read.symm.trans (ofRun_of_refused refused)

/-- The keys of the properties that name a run's backend. -/
def propertyKeys : List String :=
  [Key.backendEnabled, Key.backendAuthoritative, Key.backendMode]

/-- Settings with the same properties come to the same backend. -/
theorem ofRun_congr (same : ∀ key ∈ propertyKeys, s.get? key = t.get? key) :
    ofRun o s = ofRun o t := by
  have enabled : enabledIn o s = enabledIn o t :=
    runFlag_congr (same _ (by simp [propertyKeys])) false
  have authoritative : runFlag o Key.backendAuthoritative true s =
      runFlag o Key.backendAuthoritative true t :=
    runFlag_congr (same _ (by simp [propertyKeys])) true
  have mode : modeName o s = modeName o t := by
    simp only [modeName, Settings.trimmed?, same Key.backendMode (by simp [propertyKeys])]
  simp only [ofRun, enabled, authoritative, mode]

/-! ### The options of a backend -/

/-- The keys at which backends write. -/
def optionKeys : List String :=
  [Key.authoritative, Key.storeClass, Key.tableCreate, Key.clientFactory]

/-- The texts that a backend writes; one that is disabled writes none. -/
def options (b : Backend) : List (String × String) :=
  if b.isEnabled then
    (Key.authoritative, Text.boolWord b.authoritative) :: (Key.storeClass, b.store.className) ::
      (Key.tableCreate, Text.boolWord true) ::
      (b.clientFactory.map fun factory => (Key.clientFactory, factory)).toList
  else []

theorem applyTo_eq_setMany (b : Backend) (s : Settings) : b.applyTo s = s.setMany b.options := by
  unfold applyTo options
  split
  · cases b.clientFactory <;> rfl
  · rfl

theorem fst_mem_optionKeys {p : String × String} (member : p ∈ b.options) : p.1 ∈ optionKeys := by
  unfold options at member
  split at member
  · simp only [List.mem_cons, Option.mem_toList, Option.map_eq_some_iff] at member
    rcases member with rfl | rfl | rfl | ⟨factory, -, rfl⟩ <;> simp [optionKeys]
  · cases member

/-- A backend changes nothing but its options. -/
theorem get?_applyTo_of_not_mem {key : String} (foreign : key ∉ optionKeys) (b : Backend)
    (s : Settings) : (b.applyTo s).get? key = s.get? key := by
  rw [applyTo_eq_setMany]
  refine Settings.get?_setMany_of_forall_ne ?_ s
  rintro p member rfl
  exact foreign (fst_mem_optionKeys member)

/-- No option is a property, so what a run's backend is does not change when one is applied. -/
theorem ofRun_applyTo (o : Overrides) (b : Backend) (s : Settings) :
    ofRun o (b.applyTo s) = ofRun o s := by
  refine ofRun_congr fun key member => get?_applyTo_of_not_mem ?_ b s
  exact (by decide : ∀ key ∈ propertyKeys, key ∉ optionKeys) key member

theorem require_applyTo (b : Backend) (s : Settings) :
    Endpoint.require (b.applyTo s) = Endpoint.require s :=
  Endpoint.require_congr (get?_applyTo_of_not_mem (by decide) b s)

/-- The second settings are the first ones with the options of the mode's backend set over them:
three of them in any case, and a client factory only for the local double. -/
structure Installs (mode : Mode) (authoritative : Bool) (s t : Settings) : Prop where
  authoritative : t.get? Key.authoritative = some (Text.boolWord authoritative)
  storeClass : t.get? Key.storeClass = some mode.store.className
  tableCreate : t.get? Key.tableCreate = some (Text.boolWord true)
  clientFactory : t.get? Key.clientFactory =
    if mode = .dynamoLocal then some localClientFactory else s.get? Key.clientFactory
  others : ∀ key, key ∉ optionKeys → t.get? key = s.get? key

theorem installs_applyTo (mode : Mode) (authoritative : Bool) (s : Settings) :
    Installs mode authoritative s ((ofMode mode authoritative).applyTo s) := by
  refine ⟨?_, ?_, ?_, ?_, fun key foreign => get?_applyTo_of_not_mem foreign _ s⟩
  all_goals
    cases mode <;>
      simp [applyTo, ofMode, isEnabled, Mode.clientFactory?, Settings.setBool, Key.authoritative,
        Key.storeClass, Key.tableCreate, Key.clientFactory]

/-- There is only one way to set the options of a backend over settings. -/
theorem Installs.unique {mode : Mode} {authoritative : Bool} {u : Settings}
    (first : Installs mode authoritative s t) (second : Installs mode authoritative s u) :
    t = u := by
  ext key : 1
  by_cases option : key ∈ optionKeys
  · simp only [optionKeys, List.mem_cons, List.not_mem_nil, or_false] at option
    rcases option with rfl | rfl | rfl | rfl
    · exact first.authoritative.trans second.authoritative.symm
    · exact first.storeClass.trans second.storeClass.symm
    · exact first.tableCreate.trans second.tableCreate.symm
    · exact first.clientFactory.trans second.clientFactory.symm
  · exact (first.others key option).trans (second.others key option).symm

/-- Enabling reads the run's backend and then writes its options. -/
theorem readsFirst_enable (o : Overrides) :
    Patch.ReadsFirst (enable o) (ofRun o) id applyTo := by
  intro s
  unfold enable
  rw [Patch.outcome_bind, Patch.outcome_reading]
  cases enabled : enabledIn o s with
  | error f =>
      simp only [ofRun, enabled]
      rfl
  | ok flag =>
      cases flag with
      | false =>
          rw [ofRun_of_disabled enabled]
          rfl
      | true =>
          rw [ofRun_of_enabled enabled]
          simp only [if_true, Patch.outcome_bind, Patch.outcome_reading]
          cases runFlag o Key.backendAuthoritative true s with
          | error f => rfl
          | ok authoritative =>
              simp only [Except.bind]
              cases resolve true (modeName o s) authoritative <;> rfl

end Backend

end StoreBench
