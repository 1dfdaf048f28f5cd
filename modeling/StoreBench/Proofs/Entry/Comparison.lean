/-
What the comparison of an entry with an expected one reports, said field by field.

* `Field` are the fields that are compared, in the order in which a report lists them.
* `asFile` and `asDirectory` make an expected entry the one that should be found.
* `Differs` says of a field that it counts and has another value than it should.
* `Outcome` is success where no field differs, and otherwise a report of those that do.
* `verify_reports_differing_fields` says that both comparisons have that outcome, and of what in the
  expected entry it depends on nothing.
-/

import StoreBench.Entry

namespace StoreBench.Entry

variable {actual expected target : Entry}

/-! ### Fields -/

/-- The fields of an entry that are compared; its path is not. -/
inductive Field
  | isDirectory
  | length
  | modified
  | blockSize
  | replication
  | accessed
  | owner
  | group
  | permission
deriving Repr, DecidableEq

namespace Field

def inOrder : List Field :=
  [.isDirectory, .length, .modified, .blockSize, .replication, .accessed, .owner, .group,
    .permission]

def name : Field → String
  | .isDirectory => "is_directory"
  | .length => "len"
  | .modified => "modification_time"
  | .blockSize => "block_size"
  | .replication => "replication"
  | .accessed => "access_time"
  | .owner => "owner"
  | .group => "group"
  | .permission => "permission"

/-- The value that an entry has in the field, as a report shows it. -/
def shown (e : Entry) : Field → String
  | .isDirectory => Text.boolWord e.isDirectory
  | .length => word64 e.length
  | .modified => signed64 e.modified
  | .blockSize => word64 e.blockSize
  | .replication => word16 e.replication
  | .accessed => signed64 e.accessed
  | .owner => e.owner.getD "<none>"
  | .group => e.group.getD "<none>"
  | .permission => (e.permission.map Permission.text).getD "<none>"

theorem mem_inOrder (f : Field) : f ∈ inOrder := by
  cases f <;> decide

theorem nodup_inOrder : inOrder.Nodup := by decide

theorem name_injective {f g : Field} (h : f.name = g.name) : f = g := by
  cases f <;> cases g <;> first | rfl | exact absurd h (by decide)

end Field

/-! ### What should be found -/

/-- The entry that should be found where a file is expected. -/
def asFile (expected : Entry) : Entry :=
  { expected with isDirectory := false }

/-- The entry that should be found where a directory is expected. -/
def asDirectory (expected : Entry) : Entry :=
  { expected with isDirectory := true, length := 0 }

/-- The field counts, and the entry has another value in it than it should. Kind, length and time of
modification always count, other numbers unless they should be zero, and the rest if something is
expected of it. -/
def Differs (actual target : Entry) : Field → Prop
  | .isDirectory => actual.isDirectory ≠ target.isDirectory
  | .length => actual.length ≠ target.length
  | .modified => actual.modified ≠ target.modified
  | .blockSize => target.blockSize ≠ 0 ∧ actual.blockSize ≠ target.blockSize
  | .replication => target.replication ≠ 0 ∧ actual.replication ≠ target.replication
  | .accessed => target.accessed ≠ 0 ∧ actual.accessed ≠ target.accessed
  | .owner => target.owner ≠ none ∧ actual.owner ≠ target.owner
  | .group => target.group ≠ none ∧ actual.group ≠ target.group
  | .permission => target.permission ≠ none ∧ actual.permission ≠ target.permission

instance (actual target : Entry) : DecidablePred (Differs actual target) := fun f => by
  cases f <;> unfold Differs <;> infer_instance

/-- The mismatch of a field, with the value that should be found and the one that is. -/
def mismatch (actual target : Entry) (f : Field) : Mismatch :=
  ⟨f.name, f.shown target, f.shown actual⟩

/-- What comparing comes to: success if no field differs; otherwise a fault at the path of the entry
with all fields that do, each once and in order. -/
inductive Outcome (actual target : Entry) : Except Fault Unit → Prop
  | same : (∀ f, ¬ Differs actual target f) → Outcome actual target (.ok ())
  | different {fields : List Field} : fields ≠ [] → (∀ f, f ∈ fields ↔ Differs actual target f) →
    fields.Sublist Field.inOrder → fields.Nodup →
    Outcome actual target (.error (.entry actual.path (fields.map (mismatch actual target))))

/-! ### What is reported -/

theorem differ_eq {α : Type} [DecidableEq α] (text : α → String) (field : String) (want got : α) :
    differ text field want got = if got ≠ want then [⟨field, text want, text got⟩] else [] := by
  by_cases same : got = want
  · simp [differ, same]
  · simp [differ, same, Ne.symm same]

theorem differUnless_eq {α : Type} [DecidableEq α] (text : α → String) (zero : α) (field : String)
    (want got : α) :
    differUnless text zero field want got =
      if want ≠ zero ∧ got ≠ want then [⟨field, text want, text got⟩] else [] := by
  by_cases unset : want = zero
  · simp [differUnless, unset]
  · simp [differUnless, unset, differ_eq]

theorem differGiven_eq {α : Type} [DecidableEq α] (text : α → String) (field : String)
    (want got : Option α) :
    differGiven text field want got =
      if want ≠ none ∧ got ≠ want then
        [⟨field, (want.map text).getD "<none>", (got.map text).getD "<none>"⟩]
      else [] := by
  cases want with
  | none => simp [differGiven]
  | some want =>
      cases got with
      | none => simp [differGiven]
      | some got => simp [differGiven, differ_eq]

/-- The mismatches that an entry is tested for are those of the fields that differ, in order. -/
theorem mismatches_eq_map_filter (actual target : Entry) :
    mismatches target.isDirectory target.length actual target =
      (Field.inOrder.filter (Differs actual target)).map (mismatch actual target) := by
  have listed : ∀ fields : List Field,
      (fields.filter (Differs actual target)).map (mismatch actual target) =
        fields.flatMap fun f =>
          if Differs actual target f then [mismatch actual target f] else [] := by
    intro fields
    induction fields with
    | nil => rfl
    | cons f fields ih => by_cases differs : Differs actual target f <;> simp [differs, ih]
  rw [listed]
  simp only [mismatches, commonMismatches, differ_eq, differUnless_eq, differGiven_eq]
  simp [Field.inOrder, Differs, mismatch, Field.name, Field.shown]

theorem outcome_settle (actual target : Entry) :
    Outcome actual target
      (settle actual (mismatches target.isDirectory target.length actual target)) := by
  have found : ∀ f, f ∈ Field.inOrder.filter (Differs actual target) ↔ Differs actual target f := by
    intro f
    rw [List.mem_filter, decide_eq_true_iff]
    exact and_iff_right f.mem_inOrder
  rw [mismatches_eq_map_filter]
  by_cases none_found : Field.inOrder.filter (Differs actual target) = []
  · rw [none_found]
    refine .same fun f differs => ?_
    have member := (found f).mpr differs
    rw [none_found] at member
    cases member
  · rw [settle, if_neg (by simpa using none_found)]
    exact .different none_found found List.filter_sublist (Field.nodup_inOrder.filter _)

theorem outcome_verifyFile (actual expected : Entry) :
    Outcome actual expected.asFile (verifyFile actual expected) :=
  outcome_settle actual expected.asFile

theorem outcome_verifyDirectory (actual expected : Entry) :
    Outcome actual expected.asDirectory (verifyDirectory actual expected) :=
  outcome_settle actual expected.asDirectory

/-- The outcome is a fault that lists the mismatch. -/
def Lists (outcome : Except Fault Unit) (m : Mismatch) : Prop :=
  ∃ path found, outcome = .error (.entry path found) ∧ m ∈ found

/-- The outcome is a fault that lists the field. -/
def Reports (outcome : Except Fault Unit) (f : Field) : Prop :=
  ∃ path found, outcome = .error (.entry path found) ∧ ∃ m ∈ found, m.field = f.name

/-- What is listed are the mismatches of the fields that differ. -/
theorem Outcome.lists_iff {outcome : Except Fault Unit} {m : Mismatch}
    (h : Outcome actual target outcome) :
    Lists outcome m ↔ ∃ f, Differs actual target f ∧ mismatch actual target f = m := by
  cases h with
  | same none_differs =>
      constructor
      · rintro ⟨path, found, fault, -⟩
        cases fault
      · rintro ⟨f, differs, -⟩
        exact absurd differs (none_differs f)
  | different _ listed =>
      constructor
      · rintro ⟨path, found, fault, member⟩
        cases fault
        obtain ⟨f, inside, rfl⟩ := List.mem_map.mp member
        exact ⟨f, (listed f).mp inside, rfl⟩
      · rintro ⟨f, differs, rfl⟩
        exact ⟨_, _, rfl, List.mem_map.mpr ⟨f, (listed f).mpr differs, rfl⟩⟩

theorem Outcome.reports_iff {outcome : Except Fault Unit} {f : Field}
    (h : Outcome actual target outcome) : Reports outcome f ↔ Differs actual target f := by
  constructor
  · rintro ⟨path, found, fault, m, member, named⟩
    obtain ⟨g, differs, rfl⟩ := h.lists_iff.mp ⟨path, found, fault, member⟩
    rwa [Field.name_injective named] at differs
  · intro differs
    obtain ⟨path, found, fault, member⟩ := h.lists_iff.mpr ⟨f, differs, rfl⟩
    exact ⟨path, found, fault, _, member, rfl⟩

/-- Both comparisons report the fields that differ from what should be found, and all of them. -/
theorem verify_reports_differing_fields (actual expected : Entry) :
    Outcome actual expected.asFile (verifyFile actual expected) ∧
      Outcome actual expected.asDirectory (verifyDirectory actual expected) ∧
      (∀ path isDirectory,
        verifyFile actual { expected with path := path, isDirectory := isDirectory } =
          verifyFile actual expected) ∧
      ∀ path isDirectory length,
        verifyDirectory actual
            { expected with path := path, isDirectory := isDirectory, length := length } =
          verifyDirectory actual expected :=
  ⟨outcome_verifyFile actual expected, outcome_verifyDirectory actual expected,
    fun _ _ => rfl, fun _ _ _ => rfl⟩

-- An owner is expected and there is none; the time of access may be any.
example : verifyFile { path := "a", accessed := 7 } { owner := some "alice" } =
    .error (.entry "a" [⟨"owner", "alice", "<none>"⟩]) := rfl

end StoreBench.Entry
