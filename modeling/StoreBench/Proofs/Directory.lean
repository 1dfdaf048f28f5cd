/-
The directories of runs, and which runs share one.

* `forkDirectory` is the directory of a run that has a name, and `testPath_eq_elim` says that the
  name, as it is passed, decides for it, and the default only where there is none.
* `forkDirectory_injective` is why runs with different names work apart. `testPath_eq_iff` says when
  two runs share a directory, and `nodup_testPath_iff` when all the runs of a build work apart.
* `unset_is_a_name` says what becomes of the word that declares a property to be unset: it is a name
  like any other. `unset_leaves_default` is a run that leaves its default for `/unset/test`, and
  `not_consultsOnly_testPath` says that no default makes up for this.
-/

import Mathlib.Data.List.Nodup
import StoreBench.Endpoint
import StoreBench.Proofs.Overrides.Effective

namespace StoreBench

variable {o p : Overrides} {fork other : String}

/-! ### The directory of a name -/

/-- The directory of a run with the name. -/
def forkDirectory (fork : String) : String :=
  if fork = "" then "/test" else "/" ++ fork ++ "/test"

theorem testPath_eq_elim (o : Overrides) (default : String) :
    testPath o default = (o.get? Key.forkId).elim default forkDirectory := by
  unfold testPath
  cases o.get? Key.forkId with
  | none => rfl
  | some fork => simp [forkDirectory]

theorem testPath_of_fork (named : o.get? Key.forkId = some fork) (default : String) :
    testPath o default = forkDirectory fork := by
  rw [testPath_eq_elim, named, Option.elim_some]

theorem testPath_of_no_fork (unnamed : o.get? Key.forkId = none) (default : String) :
    testPath o default = default := by
  rw [testPath_eq_elim, unnamed, Option.elim_none]

/-- A name can be read off its directory, the empty one by the missing slash. -/
theorem forkDirectory_injective : Function.Injective forkDirectory := by
  have root_apart (fork : String) : "/test" ≠ "/" ++ fork ++ "/test" := by
    intro same
    have lengths := congrArg String.length same
    simp at lengths
  intro fork other same
  rw [forkDirectory, forkDirectory] at same
  by_cases first : fork = ""
  · by_cases second : other = ""
    · rw [first, second]
    · rw [if_pos first, if_neg second] at same
      exact absurd same (root_apart other)
  · by_cases second : other = ""
    · rw [if_neg first, if_pos second] at same
      exact absurd same.symm (root_apart fork)
    · simpa [first, second] using same

/-- The overrides of a run that has the name and nothing else. -/
def forkNamed (fork : String) : Overrides := .ofList [(Key.forkId, fork)]

theorem get?_forkNamed (fork key : String) :
    (forkNamed fork).get? key = if Key.forkId = key then some fork else none := by
  simp [forkNamed, Overrides.ofList, Overrides.insertMany]

theorem testPath_forkNamed (fork default : String) :
    testPath (forkNamed fork) default = forkDirectory fork :=
  testPath_of_fork (by rw [get?_forkNamed, if_pos rfl]) default

/-! ### Runs that share a directory -/

/-- Two runs with names share a directory exactly if they have the same name, whatever their
defaults are. -/
theorem testPath_eq_iff_of_forks (named : o.get? Key.forkId = some fork)
    (named' : p.get? Key.forkId = some other) (default default' : String) :
    testPath o default = testPath p default' ↔ fork = other := by
  rw [testPath_of_fork named, testPath_of_fork named', forkDirectory_injective.eq_iff]

/-- A run with a name and one without share a directory exactly if the other one's default is the
directory of the name. -/
theorem testPath_eq_iff_of_no_fork (named : o.get? Key.forkId = some fork)
    (unnamed : p.get? Key.forkId = none) (default default' : String) :
    testPath o default = testPath p default' ↔ default' = forkDirectory fork := by
  rw [testPath_of_fork named, testPath_of_no_fork unnamed, eq_comm]

/-- The runs in the directory of a name are those that have it, and those without a name if it is
their default. -/
theorem testPath_eq_forkDirectory_iff (o : Overrides) (default fork : String) :
    testPath o default = forkDirectory fork ↔
      o.get? Key.forkId = some fork ∨
        o.get? Key.forkId = none ∧ default = forkDirectory fork := by
  rw [testPath_eq_elim]
  cases o.get? Key.forkId with
  | none => simp
  | some other => simp [forkDirectory_injective.eq_iff]

/-- The first run has no name, and the default leads it into the directory of the second one's. -/
def LandsOn (o p : Overrides) (default : String) : Prop :=
  o.get? Key.forkId = none ∧ ∃ fork, p.get? Key.forkId = some fork ∧ default = forkDirectory fork

/-- Two runs of a build share a directory exactly if they have the same name, or none at all, or if
one of them lands on the other. -/
theorem testPath_eq_iff (o p : Overrides) (default : String) :
    testPath o default = testPath p default ↔
      o.get? Key.forkId = p.get? Key.forkId ∨ LandsOn o p default ∨ LandsOn p o default := by
  rw [testPath_eq_elim, testPath_eq_elim, LandsOn, LandsOn]
  cases o.get? Key.forkId with
  | none =>
      cases p.get? Key.forkId with
      | none => simp
      | some other => simp
  | some fork =>
      cases p.get? Key.forkId with
      | none => simp [eq_comm]
      | some other => simp [forkDirectory_injective.eq_iff]

/-- The runs of a build work apart from each other exactly if no two of them have the same name, at
most one has none, and that one does not land on another. -/
theorem nodup_testPath_iff (runs : List Overrides) (default : String) :
    (runs.map (testPath · default)).Nodup ↔
      (runs.map (·.get? Key.forkId)).Nodup ∧
        ∀ o ∈ runs, ∀ p ∈ runs, ¬ LandsOn o p default := by
  constructor
  · intro apart
    have same_run {o p : Overrides} (here : o ∈ runs) (there : p ∈ runs)
        (shared : testPath o default = testPath p default) : o = p :=
      List.inj_on_of_nodup_map apart here there shared
    refine ⟨apart.of_map.map_on fun o here p there names => ?_, fun o here p there lands => ?_⟩
    · exact same_run here there ((testPath_eq_iff o p default).mpr (.inl names))
    · cases same_run here there ((testPath_eq_iff o p default).mpr (.inr (.inl lands)))
      obtain ⟨unnamed, fork, named, -⟩ := lands
      cases unnamed.symm.trans named
  · rintro ⟨names, clear⟩
    refine names.of_map.map_on fun o here p there shared => ?_
    rcases (testPath_eq_iff o p default).mp shared with same | lands | lands
    · exact List.inj_on_of_nodup_map names here there same
    · exact absurd lands (clear o here p there)
    · exact absurd lands (clear p there o here)

/-! ### The word for what is unset -/

/-- The word that declares a property to be unset is the name of a run like any other. Passing it on
comes to the same as having no name only if the default is `/unset/test`; the runs that work there
are those that pass it on, and with that default those without a name. Runs with names share a
directory exactly if they have the same one. -/
theorem unset_is_a_name (o p : Overrides) (default default' : String) :
    (o.get? Key.forkId = some Overrides.unset → p.get? Key.forkId = none →
        (testPath o default = testPath p default ↔ default = "/unset/test")) ∧
      (testPath o default = "/unset/test" ↔
        o.get? Key.forkId = some Overrides.unset ∨
          o.get? Key.forkId = none ∧ default = "/unset/test") ∧
      ∀ fork other, o.get? Key.forkId = some fork → p.get? Key.forkId = some other →
        (testPath o default = testPath p default' ↔ fork = other) := by
  have directory : forkDirectory Overrides.unset = "/unset/test" := by decide
  refine ⟨fun named unnamed => ?_, ?_, fun fork other named named' => ?_⟩
  · rw [testPath_eq_iff_of_no_fork named unnamed, directory]
  · rw [← directory]
    exact testPath_eq_forkDirectory_iff o default Overrides.unset
  · exact testPath_eq_iff_of_forks named named' default default'

/-- Where the default is `/unset/test` itself, a run that passes the word on stays in it. The empty
name and the name `test` lead to `/test` and to `/test/test`. -/
theorem unset_is_a_name_forks :
    (forkNamed Overrides.unset).get? Key.forkId = some Overrides.unset ∧
      Overrides.empty.get? Key.forkId = none ∧
      testPath (forkNamed Overrides.unset) "/unset/test" = testPath .empty "/unset/test" ∧
      (forkNamed "").get? Key.forkId = some "" ∧
      (forkNamed "test").get? Key.forkId = some "test" ∧
      testPath (forkNamed "") "/work" ≠ testPath (forkNamed "test") "/other" := by
  have named (fork : String) : (forkNamed fork).get? Key.forkId = some fork := by
    rw [get?_forkNamed, if_pos rfl]
  have unnamed := Overrides.get?_empty Key.forkId
  have shared := (unset_is_a_name (forkNamed Overrides.unset) .empty "/unset/test" "/work").1
  have apart := (unset_is_a_name (forkNamed "") (forkNamed "test") "/work" "/other").2.2
  exact ⟨named _, unnamed, (shared (named _) unnamed).mpr rfl, named _, named _,
    mt (apart _ _ (named _) (named _)).mp (by decide)⟩

/-- A run that passes the property on although nobody has set it leaves the default. -/
theorem unset_leaves_default :
    (forkNamed Overrides.unset).get? Key.forkId = some Overrides.unset ∧
      Overrides.empty.get? Key.forkId = none ∧
      testPath (forkNamed Overrides.unset) "/work" = "/unset/test" ∧
      testPath .empty "/work" = "/work" ∧
      testPath (forkNamed Overrides.unset) "/work" ≠ testPath .empty "/work" := by
  decide +kernel

/-- Overrides that may not override are not without effect on the directory of a run, whatever its
default is: the empty name and the word for what is unset lead to two different ones. -/
theorem not_consultsOnly_testPath (keys : List String) (default : String) :
    ¬ Overrides.ConsultsOnly keys (testPath · default) := by
  intro consults
  have ineffective (key : String) :
      (forkNamed "").effective? key = (forkNamed Overrides.unset).effective? key := by
    rw [Overrides.effective?, Overrides.effective?, get?_forkNamed, get?_forkNamed]
    split
    · decide
    · rfl
  have shared := consults (forkNamed "") (forkNamed Overrides.unset) fun key _ => ineffective key
  simp only [testPath_forkNamed] at shared
  exact absurd (forkDirectory_injective shared) (by decide)

end StoreBench
