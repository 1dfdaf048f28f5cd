/-
Which bits a permission may have, by the way it was made.

* `Permission.IsProper` says that no bit beyond the twelve with a meaning is set; `ofBits` makes no
  other permissions.
* `Gives` says that a text is a document with a number as its permission. `permission_ofYaml_iff` says
  that an entry that is read has the number as its bits, all of them.
* `ofYaml_hasProperPermission_iff` says when a permission that is read is proper, and that it agrees
  with the one made of the same number exactly then. `fileMode_not_proper` is a text with which it
  does not.
-/

import Mathlib.Data.List.Induction
import StoreBench.Entry.Yaml
import StoreBench.Proofs.Entry.Comparison

namespace StoreBench

/-! ### Proper permissions -/

namespace Permission

/-- No bit is set but the twelve that have a meaning. -/
def IsProper (p : Permission) : Prop :=
  p.bits &&& 0o7777 = p.bits

instance (p : Permission) : Decidable p.IsProper :=
  inferInstanceAs (Decidable (_ = _))

theorem isProper_ofBits (bits : UInt16) : (ofBits bits).IsProper := by
  rw [IsProper, ofBits, UInt16.and_assoc, UInt16.and_self]

theorem isProper_iff {p : Permission} : p.IsProper ↔ p.bits.toNat < 0o10000 := by
  have low : p.bits.toNat &&& (2 ^ 12 - 1) = p.bits.toNat % 2 ^ 12 :=
    Nat.and_two_pow_sub_one_eq_mod p.bits.toNat 12
  rw [IsProper, ← UInt16.toNat_inj, UInt16.toNat_and]
  change p.bits.toNat &&& (2 ^ 12 - 1) = p.bits.toNat ↔ _
  omega

/-- Dropping the bits without a meaning leaves proper permissions alone, and no others. -/
theorem ofBits_eq_iff {bits : UInt16} : ofBits bits = ⟨bits⟩ ↔ (⟨bits⟩ : Permission).IsProper := by
  rw [ofBits, mk.injEq, IsProper]

end Permission

namespace Entry

variable {d : Yaml.Document} {e e' : Entry} {name text : String} {node : Yaml.Node}
  {seen : List String} {fields : List (String × Yaml.Node)}

/-- The permission, if there is one, is proper. -/
def HasProperPermission (e : Entry) : Prop :=
  ∀ p ∈ e.permission, p.IsProper

/-! ### Reading entries -/

theorem exists_of_bind_eq_ok {α β ε : Type} {read : Except ε α} {next : α → Except ε β} {b : β}
    (h : read >>= next = .ok b) : ∃ a, read = .ok a ∧ next a = .ok b := by
  cases read with
  | error fault => cases h
  | ok a => exact ⟨a, rfl, h⟩

/-- Fields of other names leave the permission. -/
theorem permission_readField?_of_ne (other : name ≠ "permission")
    (read : e.readField? d name node = some (.ok e')) : e'.permission = e.permission := by
  unfold readField? at read
  split at read
  case h_10 => exact absurd rfl other
  case h_11 => cases read
  all_goals
    obtain ⟨value, -, written⟩ := exists_of_bind_eq_ok (Option.some.inj read)
    cases written
    rfl

/-- The permission has all the bits of the number that is read. -/
theorem permission_readField? (read : e.readField? d "permission" node = some (.ok e')) :
    ∃ bits, d.optionOf (d.naturalOf UInt16.size) node = .ok bits ∧
      e'.permission = bits.map fun n => ⟨.ofNat n⟩ := by
  obtain ⟨bits, number, written⟩ := exists_of_bind_eq_ok (Option.some.inj read)
  cases written
  exact ⟨bits, number, rfl⟩

/-- What reading the first of the fields does: the field is unknown and passed over, or it is known,
has not come before, and is read. -/
theorem readFields_cons_cases (read : readFields d e seen ((name, node) :: fields) = .ok e') :
    (e.readField? d name node = none ∧ readFields d e seen fields = .ok e') ∨
      ∃ e₁, e.readField? d name node = some (.ok e₁) ∧ name ∉ seen ∧
        readFields d e₁ (name :: seen) fields = .ok e' := by
  rw [readFields] at read
  cases known : e.readField? d name node with
  | none =>
      rw [known] at read
      exact .inl ⟨rfl, read⟩
  | some first =>
      rw [known] at read
      by_cases again : seen.contains name
      · simp only [again, if_true] at read
        cases read
      · simp only [again] at read
        obtain ⟨e₁, rfl, rest⟩ := exists_of_bind_eq_ok read
        exact .inr ⟨e₁, rfl, by simpa using again, rest⟩

/-- A permission that has come does not come again. -/
theorem not_mem_of_seen (read : readFields d e seen fields = .ok e') (come : "permission" ∈ seen)
    (node : Yaml.Node) : ("permission", node) ∉ fields := by
  induction fields generalizing e seen with
  | nil => exact List.not_mem_nil
  | cons field fields ih =>
      obtain ⟨name, first⟩ := field
      rw [List.mem_cons, not_or]
      rcases readFields_cons_cases read with ⟨unknown, rest⟩ | ⟨e₁, -, new, rest⟩
      · refine ⟨?_, ih rest come⟩
        rintro ⟨⟩
        cases unknown
      · refine ⟨?_, ih rest (List.mem_cons_of_mem name come)⟩
        rintro ⟨⟩
        exact new come

theorem permission_readFields_of_not_mem (read : readFields d e seen fields = .ok e')
    (absent : ∀ node, ("permission", node) ∉ fields) : e'.permission = e.permission := by
  induction fields generalizing e seen with
  | nil =>
      cases read
      rfl
  | cons field fields ih =>
      obtain ⟨name, first⟩ := field
      have absent_later : ∀ node, ("permission", node) ∉ fields := fun node member =>
        absent node (List.mem_cons_of_mem _ member)
      rcases readFields_cons_cases read with ⟨-, rest⟩ | ⟨e₁, known, -, rest⟩
      · exact ih rest absent_later
      · have other : name ≠ "permission" := by
          rintro rfl
          exact absent first List.mem_cons_self
        rw [ih rest absent_later, permission_readField?_of_ne other known]

theorem permission_readFields_of_mem (read : readFields d e seen fields = .ok e')
    (member : ("permission", node) ∈ fields) :
    ∃ bits, d.optionOf (d.naturalOf UInt16.size) node = .ok bits ∧
      e'.permission = bits.map fun n => ⟨.ofNat n⟩ := by
  induction fields generalizing e seen with
  | nil => cases member
  | cons field fields ih =>
      obtain ⟨name, first⟩ := field
      rcases List.mem_cons.mp member with same | later
      · cases same
        rcases readFields_cons_cases read with ⟨unknown, -⟩ | ⟨e₁, known, -, rest⟩
        · cases unknown
        · -- No permission follows, so what is read here stays.
          obtain ⟨bits, number, permission⟩ := permission_readField? known
          have kept := permission_readFields_of_not_mem rest
            (not_mem_of_seen rest List.mem_cons_self)
          exact ⟨bits, number, kept.trans permission⟩
      · rcases readFields_cons_cases read with ⟨-, rest⟩ | ⟨e₁, -, -, rest⟩
        · exact ih rest later
        · exact ih rest later

/-! ### Permissions in documents -/

/-- The text is a document that gives the number as its permission. -/
def Gives (text : String) (n : Nat) : Prop :=
  ∃ d fields node, Yaml.parse text = .ok d ∧ d.fields = .ok fields ∧
    ("permission", node) ∈ fields ∧ d.optionOf (d.naturalOf UInt16.size) node = .ok (some n)

/-- An optional value that is there has been read. -/
theorem of_optionOf_eq_some {α : Type} {read : Yaml.Node → Except Yaml.Fault α} {a : α}
    (h : d.optionOf read node = .ok (some a)) : ∃ target, read target = .ok a := by
  have of_map : ∀ {target}, some <$> read target = .ok (some a) → read target = .ok a := by
    intro target mapped
    cases value : read target with
    | error fault =>
        rw [value] at mapped
        cases mapped
    | ok b =>
        rw [value] at mapped
        cases mapped
        rfl
  obtain ⟨target, -, inner⟩ := exists_of_bind_eq_ok h
  refine ⟨target, ?_⟩
  split at inner
  · split at inner
    · split at inner <;> cases inner
    · split at inner
      · cases inner
      · exact of_map inner
  · exact of_map inner

/-- A number that is read is below its bound. -/
theorem lt_of_naturalOf {bound n : Nat} (h : d.naturalOf bound node = .ok n) : n < bound := by
  obtain ⟨s, -, demanded⟩ := exists_of_bind_eq_ok h
  cases number : (Yaml.Scalar.unsigned? s.toList).filter (· < bound) with
  | none =>
      rw [number] at demanded
      cases demanded
  | some m =>
      rw [number] at demanded
      cases demanded
      exact of_decide_eq_true (Option.filter_eq_some_iff.mp number).2

/-- An entry that is read has the number that is given as the bits of its permission, all of
them. -/
theorem permission_ofYaml_iff {p : Permission} (read : ofYaml text = .ok e) :
    e.permission = some p ↔ Gives text p.bits.toNat := by
  obtain ⟨d, parsed, read⟩ := exists_of_bind_eq_ok read
  obtain ⟨fields, listed, read⟩ := exists_of_bind_eq_ok read
  constructor
  · intro permission
    by_cases present : ∃ node, ("permission", node) ∈ fields
    · obtain ⟨node, member⟩ := present
      obtain ⟨bits, number, given⟩ := permission_readFields_of_mem read member
      obtain ⟨n, rfl, rfl⟩ := Option.map_eq_some_iff.mp (given.symm.trans permission)
      obtain ⟨target, value⟩ := of_optionOf_eq_some number
      have fits : (UInt16.ofNat n).toNat = n := UInt16.toNat_ofNat_of_lt' (lt_of_naturalOf value)
      exact ⟨d, fields, node, parsed, listed, member, by rw [number, fits]⟩
    · rw [permission_readFields_of_not_mem read (not_exists.mp present)] at permission
      cases permission
  · rintro ⟨d', fields', node, parsed', listed', member, number⟩
    cases parsed.symm.trans parsed'
    cases listed.symm.trans listed'
    obtain ⟨bits, number', given⟩ := permission_readFields_of_mem read member
    cases number.symm.trans number'
    rw [given, Option.map_some, UInt16.ofNat_toNat]

theorem Gives.lt {n : Nat} (h : Gives text n) : n < UInt16.size := by
  obtain ⟨d, fields, node, -, -, -, number⟩ := h
  obtain ⟨target, value⟩ := of_optionOf_eq_some number
  exact lt_of_naturalOf value

/-- The permission of a number and the one with all its bits are told apart if both are given. -/
theorem differs_permission_iff {actual target : Entry} {p q : Permission}
    (found : actual.permission = some p) (given : target.permission = some q) :
    Differs actual target.asFile .permission ↔ p ≠ q := by
  change target.permission ≠ none ∧ actual.permission ≠ target.permission ↔ p ≠ q
  rw [found, given]
  simp

/-- Permissions that are made are proper. One that is read is proper exactly if the number that is
given is below a bound, and exactly then it agrees with the permission that is made of the number. -/
theorem ofYaml_hasProperPermission_iff (read : ofYaml text = .ok e) :
    (∀ bits, (Permission.ofBits bits).IsProper) ∧
      (e.HasProperPermission ↔ ∀ n, Gives text n → n < 0o10000) ∧
      ∀ n, Gives text n → ∀ made : Entry, made.permission = some (.ofBits (.ofNat n)) →
        (Reports (verifyFile made e) .permission ↔ 0o10000 ≤ n) ∧
          (Reports (verifyFile e made) .permission ↔ 0o10000 ≤ n) := by
  refine ⟨Permission.isProper_ofBits, ?_, ?_⟩
  · constructor
    · intro proper n given
      have fits : (UInt16.ofNat n).toNat = n := UInt16.toNat_ofNat_of_lt' given.lt
      have permission : e.permission = some ⟨.ofNat n⟩ :=
        (permission_ofYaml_iff read).mpr (fits.symm ▸ given)
      exact fits ▸ Permission.isProper_iff.mp (proper _ permission)
    · intro bounded p permission
      exact Permission.isProper_iff.mpr (bounded _ ((permission_ofYaml_iff read).mp permission))
  · intro n given made permission
    have fits : (UInt16.ofNat n).toNat = n := UInt16.toNat_ofNat_of_lt' given.lt
    have all_bits : e.permission = some ⟨.ofNat n⟩ :=
      (permission_ofYaml_iff read).mpr (fits.symm ▸ given)
    have apart : Permission.ofBits (.ofNat n) ≠ ⟨.ofNat n⟩ ↔ 0o10000 ≤ n := by
      rw [Ne, Permission.ofBits_eq_iff, Permission.isProper_iff, fits, Nat.not_lt]
    constructor
    · rw [(outcome_verifyFile made e).reports_iff, differs_permission_iff permission all_bits]
      exact apart
    · rw [(outcome_verifyFile e made).reports_iff, differs_permission_iff all_bits permission]
      exact ne_comm.trans apart

/-- The mode of a regular file is no proper permission, and is told apart from the one made of it. -/
theorem fileMode_reported :
    ofYaml "permission: 33188" = .ok { permission := some ⟨33188⟩ } ∧
      Gives "permission: 33188" 33188 ∧
      Reports (verifyFile { permission := some (.ofBits 33188) } { permission := some ⟨33188⟩ })
        .permission := by
  have read : ofYaml "permission: 33188" = .ok { permission := some ⟨33188⟩ } := by
    decide +kernel
  have given : Gives "permission: 33188" 33188 := (permission_ofYaml_iff read).mp rfl
  have reported := ((ofYaml_hasProperPermission_iff read).2.2 33188 given
    { permission := some (.ofBits 33188) } rfl).1
  exact ⟨read, given, reported.mpr (by decide)⟩

/-- The mode of a regular file keeps the bits of its kind when it is read, and so differs from the
permission that is made of it, with the same text. -/
theorem fileMode_not_proper :
    ofYaml "permission: 33188" = .ok { permission := some ⟨33188⟩ } ∧
      ¬ (⟨33188⟩ : Permission).IsProper ∧
      verifyFile { permission := some (.ofBits 33188) } { permission := some ⟨33188⟩ } =
        .error (.entry "" [⟨"permission", "rw-r--r--", "rw-r--r--"⟩]) := by
  decide +kernel

end Entry

end StoreBench
