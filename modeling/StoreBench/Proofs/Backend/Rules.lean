/-
Enabling the backend of a run, told by rules: what each property of the run comes to, what is
written, and what is refused first.

* `Settles` are the rules for a flag of the run. An override must be one of two words, exactly; a
  text in the settings may be written otherwise, and counts for nothing if it is neither
  (`runFlag_eq_iff_settles`).
* `NamesMode` are the rules for the name of the run's mode: an override is taken as it is, a text in
  the settings without the white space around it (`modeName_eq_iff_namesMode`).
* `Enables` are the rules for enabling, and `outcome_enable_eq_iff_enables` says that enabling
  follows them.
-/

import StoreBench.Proofs.Backend.Enable
import StoreBench.Proofs.Settings.Flag

namespace StoreBench.Backend

variable {o : Overrides} {s t : Settings} {key name : String}

/-! ### Flags -/

/-- What a flag of the run comes to: the override that is effective, if it is the word for a truth
value and nothing but that word; without one, the truth value whose word the settings spell at the
key; without that, the default. -/
inductive Settles (o : Overrides) (s : Settings) (key : String) (default : Bool) :
    Except Fault Bool → Prop
  | override {flag : Bool} :
    o.effective? key = some (Text.boolWord flag) → Settles o s key default (.ok flag)
  | malformed {word : String} :
    IsMalformed o key word → Settles o s key default (.error (.parse key word "boolean"))
  | setting {text : String} {flag : Bool} :
    o.effective? key = none → s.get? key = some text →
      Settings.Spells text (Text.boolWord flag) → Settles o s key default (.ok flag)
  | default :
    o.effective? key = none →
      (∀ text flag, s.get? key = some text → ¬ Settings.Spells text (Text.boolWord flag)) →
      Settles o s key default (.ok default)

theorem settles_runFlag (o : Overrides) (s : Settings) (key : String) (default : Bool) :
    Settles o s key default (runFlag o key default s) := by
  cases found : o.effective? key with
  | none =>
      rw [runFlag_of_no_override found]
      by_cases spelled :
          ∃ text flag, s.get? key = some text ∧ Settings.Spells text (Text.boolWord flag)
      · obtain ⟨text, flag, stands, spells⟩ := spelled
        rw [Settings.getBool_of_spells stands spells]
        exact .setting found stands spells
      · have none_spelled : ∀ text flag, s.get? key = some text →
            ¬ Settings.Spells text (Text.boolWord flag) := fun text flag stands spells =>
          spelled ⟨text, flag, stands, spells⟩
        rw [Settings.getBool_of_forall_not_spells none_spelled]
        exact .default found none_spelled
  | some word =>
      by_cases known : ∃ flag, word = Text.boolWord flag
      · obtain ⟨flag, rfl⟩ := known
        rw [runFlag_of_word found (Layers.readBool?_boolWord flag)]
        exact .override found
      · have malformed : IsMalformed o key word :=
          ⟨found, fun same => known ⟨true, same⟩, fun same => known ⟨false, same⟩⟩
        rw [runFlag_of_isMalformed malformed]
        exact .malformed malformed

theorem runFlag_eq_iff_settles {default : Bool} {r : Except Fault Bool} :
    runFlag o key default s = r ↔ Settles o s key default r := by
  constructor
  · rintro rfl
    exact settles_runFlag o s key default
  · intro settles
    cases settles with
    | override found => exact runFlag_of_word found (Layers.readBool?_boolWord _) default s
    | malformed malformed => exact runFlag_of_isMalformed malformed default s
    | setting absent stands spells =>
        rw [runFlag_of_no_override absent, Settings.getBool_of_spells stands spells]
    | default absent none_spelled =>
        rw [runFlag_of_no_override absent, Settings.getBool_of_forall_not_spells none_spelled]

/-- A flag comes to one truth value, or one refusal, and no other. -/
theorem Settles.unique {default : Bool} {r r' : Except Fault Bool}
    (first : Settles o s key default r) (second : Settles o s key default r') : r = r' :=
  (runFlag_eq_iff_settles.mpr first).symm.trans (runFlag_eq_iff_settles.mpr second)

/-! ### The name of the mode -/

/-- What names the mode of the run: the override that is effective, as it is; without one, the text
in the settings without the white space around it; without that, the mode of a store inside the
process. -/
inductive NamesMode (o : Overrides) (s : Settings) : String → Prop
  | override {name : String} : o.effective? Key.backendMode = some name → NamesMode o s name
  | setting {text name : String} :
    o.effective? Key.backendMode = none → s.get? Key.backendMode = some text →
      Text.TrimsTo text.toList name.toList → NamesMode o s name
  | default :
    o.effective? Key.backendMode = none → s.get? Key.backendMode = none → NamesMode o s "local"

theorem modeName_eq_iff_namesMode : modeName o s = name ↔ NamesMode o s name := by
  unfold modeName Layers.resolve Layers.candidate
  constructor
  · rintro rfl
    cases found : o.effective? Key.backendMode with
    | some name => exact .override found
    | none =>
        cases stands : s.get? Key.backendMode with
        | some text =>
            rw [Settings.trimmed?, stands]
            exact .setting found stands (Text.trimmed_eq_iff.mp rfl)
        | none =>
            rw [Settings.trimmed?, stands]
            exact .default found stands
  · intro names
    cases names with
    | override found => rw [found, Option.getD_some]
    | setting absent stands trims =>
        rw [absent, Settings.trimmed?, stands]
        exact Text.trimmed_eq_iff.mpr trims
    | default absent nothing =>
        rw [absent, Settings.trimmed?, nothing]
        rfl

theorem NamesMode.unique {other : String} (first : NamesMode o s name)
    (second : NamesMode o s other) : name = other :=
  (modeName_eq_iff_namesMode.mpr first).symm.trans (modeName_eq_iff_namesMode.mpr second)

/-! ### Enabling -/

/-- What enabling comes to. The flag for backends is read first: where it is off, nothing else
counts, not even what is malformed. The other flag comes before the name of the mode. Settings are
changed only where nothing is refused. -/
inductive Enables (o : Overrides) (s : Settings) : Except Fault Backend → Settings → Prop
  | enabledFlag {f : Fault} :
    Settles o s Key.backendEnabled false (.error f) → Enables o s (.error f) s
  | disabled :
    Settles o s Key.backendEnabled false (.ok false) →
      Enables o s (.ok ⟨none, .null, false, none⟩) s
  | authoritativeFlag {f : Fault} :
    Settles o s Key.backendEnabled false (.ok true) →
      Settles o s Key.backendAuthoritative true (.error f) → Enables o s (.error f) s
  | unknownMode {authoritative : Bool} {name : String} :
    Settles o s Key.backendEnabled false (.ok true) →
      Settles o s Key.backendAuthoritative true (.ok authoritative) → NamesMode o s name →
      (∀ mode : Mode, mode.name ≠ name) →
      Enables o s (.error (.configuration (.unknownBackend name (Mode.all.map Mode.name)))) s
  | enabled {authoritative : Bool} {mode : Mode} {t : Settings} :
    Settles o s Key.backendEnabled false (.ok true) →
      Settles o s Key.backendAuthoritative true (.ok authoritative) → NamesMode o s mode.name →
      Installs mode authoritative s t →
      Enables o s (.ok ⟨some mode, mode.store, authoritative,
        if mode = .dynamoLocal then some localClientFactory else none⟩) t

theorem ofMode_eq (mode : Mode) (authoritative : Bool) :
    ofMode mode authoritative = ⟨some mode, mode.store, authoritative,
      if mode = .dynamoLocal then some localClientFactory else none⟩ := by
  cases mode <;> rfl

/-- A run that is refused follows a rule for refusals, and its settings stay. -/
theorem Refused.enables {f : Fault} (refused : Refused o s f) : Enables o s (.error f) s := by
  cases refused with
  | enabledFlag malformed => exact .enabledFlag (.malformed malformed)
  | authoritativeFlag enabled malformed =>
      exact .authoritativeFlag (runFlag_eq_iff_settles.mp enabled) (.malformed malformed)
  | unknownMode enabled authoritative unknown =>
      exact .unknownMode (runFlag_eq_iff_settles.mp enabled)
        (runFlag_eq_iff_settles.mp authoritative) (modeName_eq_iff_namesMode.mp rfl) unknown

theorem enables_outcome_enable (o : Overrides) (s : Settings) :
    Enables o s ((enable o).outcome s).1 ((enable o).outcome s).2 := by
  have reads := readsFirst_enable o
  rcases ofRun_cases o s with
    ⟨off, read⟩ | ⟨mode, authoritative, on, flag, named, read⟩ | ⟨f, refused⟩
  · rw [reads.outcome_of_read read]
    exact .disabled (runFlag_eq_iff_settles.mp off)
  · have written := Enables.enabled (runFlag_eq_iff_settles.mp on) (runFlag_eq_iff_settles.mp flag)
      (modeName_eq_iff_namesMode.mp named) (installs_applyTo mode authoritative s)
    rw [← ofMode_eq] at written
    rw [reads.outcome_of_read read]
    exact written
  · rw [reads.outcome_eq_error_iff.mpr ⟨ofRun_of_refused refused, rfl⟩]
    exact refused.enables

-- A flag that is off lets a malformed one pass.
example :
    (enable (.ofList [(Key.backendEnabled, "false"), (Key.backendAuthoritative, "maybe")])).outcome
      (.ofList [(Key.backendEnabled, "true")]) =
        (.ok disabled, .ofList [(Key.backendEnabled, "true")]) := by decide +kernel

end StoreBench.Backend
