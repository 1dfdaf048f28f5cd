/-
Changes that read first and write last, and so never leave half of their work behind.

* `ReadsFirst` says of a change what it reads, what it answers and what it writes.
* `ReadsFirst.outcome_eq_error_iff` and `ReadsFirst.outcome_eq_ok_iff` say when such a change fails,
  which leaves the settings alone, and when it succeeds.
* `ReadsFirst.outcome_again` says when doing it twice is doing it once.
-/

import StoreBench.Patch

namespace StoreBench.Patch

variable {α β ρ : Type} {s t : Settings}

/-- Where two changes succeed one after the other, each of them does. -/
theorem of_outcome_bind_eq_ok {p : Patch α} {next : α → Patch β} {b : β}
    (run : outcome (p >>= next) s = (.ok b, t)) :
    ∃ a u, p.outcome s = (.ok a, u) ∧ (next a).outcome u = (.ok b, t) := by
  rw [outcome_bind] at run
  rcases first : p.outcome s with ⟨_ | a, u⟩
  · simp [first] at run
  · exact ⟨a, u, rfl, by simpa [first] using run⟩

/-- The change reads all that it needs, and then answers and writes by what it has read. Where
reading fails, it fails and writes nothing. -/
def ReadsFirst (p : Patch α) (read : Settings → Except Fault ρ) (answer : ρ → α)
    (write : ρ → Settings → Settings) : Prop :=
  ∀ s, p.outcome s =
    match read s with
    | .ok r => (.ok (answer r), write r s)
    | .error f => (.error f, s)

namespace ReadsFirst

variable {p : Patch α} {read : Settings → Except Fault ρ} {answer : ρ → α}
  {write : ρ → Settings → Settings} (h : ReadsFirst p read answer write)

include h

theorem outcome_of_read {r : ρ} (found : read s = .ok r) :
    p.outcome s = (.ok (answer r), write r s) := by
  rw [h, found]

theorem outcome_eq_error_iff {f : Fault} :
    p.outcome s = (.error f, t) ↔ read s = .error f ∧ t = s := by
  rw [h]
  cases read s with
  | error g => simp [eq_comm]
  | ok r => simp

theorem outcome_eq_ok_iff {a : α} :
    p.outcome s = (.ok a, t) ↔ ∃ r, read s = .ok r ∧ a = answer r ∧ t = write r s := by
  rw [h]
  cases read s with
  | error f => simp
  | ok r => simp [eq_comm]

/-- A change that does not write what it reads comes to the same again, and changes nothing more if
writing twice is writing once. -/
theorem outcome_again {r : ρ} (kept : read (write r s) = .ok r)
    (settled : write r (write r s) = write r s) :
    p.outcome (write r s) = (.ok (answer r), write r s) := by
  rw [outcome_of_read h kept, settled]

/-- Changes that answer and write alike have the same outcome where they read the same. -/
theorem outcome_congr {q : Patch α} {read' : Settings → Except Fault ρ}
    (h' : ReadsFirst q read' answer write) (same : read s = read' s) :
    p.outcome s = q.outcome s := by
  rw [h, h', same]

end ReadsFirst

end StoreBench.Patch
