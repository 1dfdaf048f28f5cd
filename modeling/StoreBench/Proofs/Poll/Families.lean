/-
Whose flag an interrupter reports, told from the steps of a run alone.

* `TakenAt` says that a run takes a step, and how many interrupters there are then; `Founds`,
  `CopiedTo` and `Kin` tell from it which interrupters descend by copying from one that was created.
* `family?_eq_iff_kin` says that two interrupters have one family exactly if they are kin.
* `mem_raised_iff` says that the families raised are those of the interrupters that a step has
  interrupted.
* `isRaised_iff_kin_interrupted` puts the two together for a whole run: what an interrupter reports,
  what changes it, and what a sleep answers.
-/

import Mathlib.Data.List.Induction
import Mathlib.Logic.Relation
import StoreBench.Poll.Interrupter

namespace StoreBench.Interrupters

variable {n m i j k f : Nat} {step : Step} {steps : List Step} {w : Interrupters}

/-! ### Families in a run -/

/-- So many interrupters, each a family of its own, all flags down. -/
def separate (n : Nat) : Interrupters :=
  ⟨List.range n, []⟩

example : separate 1 = single := rfl

/-- How many interrupters there are behind the steps, if there are `n` before them. -/
def countAfter (n : Nat) : List Step → Nat
  | [] => n
  | .create :: steps => countAfter (n + 1) steps
  | .copy i :: steps => countAfter (if i < n then n + 1 else n) steps
  | .interrupt _ :: steps => countAfter n steps
  | .sleep _ _ :: steps => countAfter n steps
  | .look :: steps => countAfter n steps

/-- The run takes the step where there are `m` interrupters. -/
def TakenAt (n : Nat) (steps : List Step) (step : Step) (m : Nat) : Prop :=
  ∃ before after, steps = before ++ step :: after ∧ countAfter n before = m

/-- The interrupter is no copy: it is there from the start, or a step creates it. -/
def Founds (n : Nat) (steps : List Step) (i : Nat) : Prop :=
  i < n ∨ TakenAt n steps .create i

/-- A step copies the interrupter `i`, and `j` is the copy. -/
def CopiedTo (n : Nat) (steps : List Step) (i j : Nat) : Prop :=
  TakenAt n steps (.copy i) j ∧ i < j

/-- The two interrupters descend by copying from one and the same. -/
def Kin (n : Nat) (steps : List Step) (i j : Nat) : Prop :=
  ∃ root, Founds n steps root ∧ Relation.ReflTransGen (CopiedTo n steps) root i ∧
    Relation.ReflTransGen (CopiedTo n steps) root j

/-- A step interrupts the interrupter, which is there by then. -/
def Interrupted (n : Nat) (steps : List Step) (i : Nat) : Prop :=
  ∃ m, TakenAt n steps (.interrupt i) m ∧ i < m

theorem countAfter_append (n : Nat) (first second : List Step) :
    countAfter n (first ++ second) = countAfter (countAfter n first) second := by
  induction first generalizing n with
  | nil => rfl
  | cons step first ih => cases step <;> exact ih _

theorem le_countAfter (n : Nat) (steps : List Step) : n ≤ countAfter n steps := by
  induction steps generalizing n with
  | nil => exact Nat.le_refl n
  | cons step steps ih =>
      cases step with
      | create => exact Nat.le_of_succ_le (ih (n + 1))
      | copy i =>
          rw [countAfter]
          split
          · exact Nat.le_of_succ_le (ih (n + 1))
          · exact ih n
      | interrupt i => exact ih n
      | sleep i d => exact ih n
      | look => exact ih n

theorem TakenAt.le_countAfter (h : TakenAt n steps step m) : m ≤ countAfter n steps := by
  obtain ⟨before, after, rfl, rfl⟩ := h
  rw [countAfter_append]
  exact Interrupters.le_countAfter _ _

theorem TakenAt.append (h : TakenAt n steps step m) (more : List Step) :
    TakenAt n (steps ++ more) step m := by
  obtain ⟨before, after, rfl, count⟩ := h
  exact ⟨before, after ++ more, by simp, count⟩

theorem takenAt_last (n : Nat) (steps : List Step) (step : Step) :
    TakenAt n (steps ++ [step]) step (countAfter n steps) :=
  ⟨steps, [], rfl, rfl⟩

/-- Every interrupter is there from the start, or created, or copied from an earlier one. -/
theorem founds_or_copied (there : i < countAfter n steps) :
    Founds n steps i ∨ ∃ j, CopiedTo n steps j i := by
  induction steps using List.reverseRecOn with
  | nil => exact .inl (.inl there)
  | append_singleton steps step ih =>
      by_cases earlier : i < countAfter n steps
      · rcases ih earlier with (start | created) | ⟨j, copied, older⟩
        · exact .inl (.inl start)
        · exact .inl (.inr (created.append _))
        · exact .inr ⟨j, copied.append _, older⟩
      · rw [countAfter_append] at there
        cases step with
        | create =>
            obtain rfl : i = countAfter n steps :=
              Nat.le_antisymm (Nat.le_of_lt_succ there) (Nat.le_of_not_lt earlier)
            exact .inl (.inr (takenAt_last n steps .create))
        | copy j =>
            rw [countAfter] at there
            split at there
            · rename_i older
              obtain rfl : i = countAfter n steps :=
                Nat.le_antisymm (Nat.le_of_lt_succ there) (Nat.le_of_not_lt earlier)
              exact .inr ⟨j, takenAt_last n steps (.copy j), older⟩
            · exact absurd there earlier
        | interrupt j => exact absurd there earlier
        | sleep j d => exact absurd there earlier
        | look => exact absurd there earlier

/-- Every interrupter descends from one that is no copy. -/
theorem exists_founds (there : i < countAfter n steps) :
    ∃ root, Founds n steps root ∧ Relation.ReflTransGen (CopiedTo n steps) root i := by
  induction i using Nat.strongRecOn with
  | ind i ih =>
      rcases founds_or_copied there with founds | ⟨j, copied, older⟩
      · exact ⟨i, founds, .refl⟩
      · obtain ⟨root, founds, descends⟩ := ih j older (Nat.lt_trans older there)
        exact ⟨root, founds, descends.tail ⟨copied, older⟩⟩

/-! ### What a step does to the families -/

/-- The family of the interrupter at the place. -/
def family? (w : Interrupters) (i : Nat) : Option Nat :=
  w.families[i]?

theorem family?_isSome_iff : (w.family? i).isSome ↔ i < w.families.length := by
  simp [family?]

theorem lt_freshFamily (known : f ∈ w.families) : f < w.freshFamily := by
  have bound : f ≤ w.families.max (List.ne_nil_of_mem known) := List.le_max_of_mem known
  rw [freshFamily, List.foldl_max_eq_max (List.ne_nil_of_mem known)]
  omega

/-- No step takes an interrupter away or moves it. -/
theorem families_after (w : Interrupters) (step : Step) :
    ∃ added, (w.after step).families = w.families ++ added := by
  cases step with
  | create => exact ⟨_, rfl⟩
  | copy i => exact ⟨_, rfl⟩
  | interrupt i => exact ⟨[], (List.append_nil _).symm⟩
  | sleep i d => exact ⟨[], (List.append_nil _).symm⟩
  | look => exact ⟨[], (List.append_nil _).symm⟩

theorem length_families_after (w : Interrupters) (step : Step) :
    (w.after step).families.length = countAfter w.families.length [step] := by
  cases step with
  | create => simp [after, create, countAfter]
  | copy i =>
      simp only [after, copy, countAfter, List.length_append]
      split
      · simp [*]
      · simp [*]
  | interrupt i => rfl
  | sleep i d => rfl
  | look => rfl

theorem family?_after (there : i < w.families.length) (step : Step) :
    (w.after step).family? i = w.family? i := by
  obtain ⟨added, grown⟩ := families_after w step
  rw [family?, grown, List.getElem?_append_left there, family?]

/-- A created interrupter has a family that no other has. -/
theorem family?_create_ne (earlier : j < w.families.length) :
    w.create.family? j ≠ w.create.family? w.families.length := by
  have fresh : w.families[j] < w.freshFamily := lt_freshFamily (List.getElem_mem earlier)
  simp only [family?, create, List.getElem?_append_left earlier, List.getElem?_concat_length,
    List.getElem?_eq_getElem earlier, ne_eq, Option.some.injEq]
  omega

/-- A copy has the family of what it is a copy of. -/
theorem family?_copy (there : i < w.families.length) :
    (w.copy i).family? w.families.length = w.family? i := by
  simp [family?, copy, there]

theorem mem_raised_after (w : Interrupters) (step : Step) :
    f ∈ (w.after step).raised ↔
      f ∈ w.raised ∨ ∃ k, step = .interrupt k ∧ w.family? k = some f := by
  cases step with
  | interrupt k => simp [after, interrupt, family?, or_comm]
  | create => simp [after, create]
  | copy i => simp [after, copy]
  | sleep i d => simp [after]
  | look => simp [after]

theorem isRaised_iff : w.isRaised i = true ↔ ∃ f, w.family? i = some f ∧ f ∈ w.raised := by
  cases held : w.families[i]? with
  | none => simp [isRaised, family?, held]
  | some f => simp [isRaised, family?, held]

/-- No step lowers a flag. -/
theorem isRaised_after (raised : w.isRaised i = true) (step : Step) :
    (w.after step).isRaised i = true := by
  obtain ⟨f, family, up⟩ := isRaised_iff.mp raised
  have there : i < w.families.length := family?_isSome_iff.mp (by simp [family])
  exact isRaised_iff.mpr ⟨f, (family?_after there step).trans family,
    (mem_raised_after w step).mpr (.inl up)⟩

theorem flags_eq_map_isRaised (w : Interrupters) :
    w.flags = (List.range w.families.length).map w.isRaised := by
  apply List.ext_getElem
  · simp [flags]
  · intro i inFlags inRange
    have there : i < w.families.length := by simpa [flags] using inFlags
    simp [flags, isRaised, there]

/-! ### What a run does to the families -/

theorem afterAll_append (w : Interrupters) (first second : List Step) :
    w.afterAll (first ++ second) = (w.afterAll first).afterAll second :=
  List.foldl_append

theorem length_families_afterAll (w : Interrupters) (steps : List Step) :
    (w.afterAll steps).families.length = countAfter w.families.length steps := by
  induction steps generalizing w with
  | nil => rfl
  | cons step steps ih =>
      calc ((w.after step).afterAll steps).families.length
        _ = countAfter (w.after step).families.length steps := ih _
        _ = countAfter (countAfter w.families.length [step]) steps := by
            rw [length_families_after]
        _ = countAfter w.families.length (step :: steps) := (countAfter_append _ [step] steps).symm

theorem length_families_separate (n : Nat) (steps : List Step) :
    ((separate n).afterAll steps).families.length = countAfter n steps := by
  rw [length_families_afterAll, separate, List.length_range]

theorem family?_afterAll (there : i < w.families.length) (steps : List Step) :
    (w.afterAll steps).family? i = w.family? i := by
  induction steps generalizing w with
  | nil => rfl
  | cons step steps ih =>
      obtain ⟨added, grown⟩ := families_after w step
      have stillThere : i < (w.after step).families.length := by
        rw [grown, List.length_append]
        omega
      exact (ih stillThere).trans (family?_after there step)

theorem isRaised_afterAll (raised : w.isRaised i = true) (steps : List Step) :
    (w.afterAll steps).isRaised i = true := by
  induction steps generalizing w with
  | nil => exact raised
  | cons step steps ih => exact ih (isRaised_after raised step)

/-- The state in which a run takes a step, and what of it the rest of the run keeps. -/
theorem TakenAt.exists_state (taken : TakenAt n steps step m) :
    ∃ w : Interrupters, w.families.length = m ∧
      ∀ i < (w.after step).families.length,
        ((separate n).afterAll steps).family? i = (w.after step).family? i := by
  obtain ⟨before, after, rfl, rfl⟩ := taken
  refine ⟨(separate n).afterAll before, length_families_separate n before, ?_⟩
  intro i there
  rw [afterAll_append]
  exact family?_afterAll there after

theorem CopiedTo.family?_eq (copied : CopiedTo n steps i j) :
    ((separate n).afterAll steps).family? i = ((separate n).afterAll steps).family? j := by
  obtain ⟨taken, older⟩ := copied
  obtain ⟨w, rfl, keeps⟩ := taken.exists_state
  have grown : (w.after (.copy i)).families.length = w.families.length + 1 := by
    rw [length_families_after, countAfter, if_pos older, countAfter]
  calc ((separate n).afterAll steps).family? i
    _ = (w.after (.copy i)).family? i := keeps i (by omega)
    _ = w.family? i := family?_after older _
    _ = (w.copy i).family? w.families.length := (family?_copy older).symm
    _ = ((separate n).afterAll steps).family? w.families.length := (keeps _ (by omega)).symm

/-- An interrupter that is no copy has a family that no earlier one has. -/
theorem Founds.family?_ne (founds : Founds n steps i) (earlier : j < i) :
    ((separate n).afterAll steps).family? j ≠ ((separate n).afterAll steps).family? i := by
  rcases founds with start | created
  · have length : (separate n).families.length = n := List.length_range
    rw [family?_afterAll (by omega) steps, family?_afterAll (by omega) steps]
    simp only [separate, family?, List.getElem?_range start,
      List.getElem?_range (Nat.lt_trans earlier start), ne_eq, Option.some.injEq]
    omega
  · obtain ⟨w, rfl, keeps⟩ := created.exists_state
    have grown : (w.after .create).families.length = w.families.length + 1 :=
      length_families_after w .create
    rw [keeps j (by omega), keeps _ (by omega)]
    exact family?_create_ne earlier

/-! ### Kin -/

theorem family?_eq_of_descends (descends : Relation.ReflTransGen (CopiedTo n steps) i j) :
    ((separate n).afterAll steps).family? i = ((separate n).afterAll steps).family? j := by
  induction descends with
  | refl => rfl
  | tail _ copied ih => exact ih.trans copied.family?_eq

theorem Kin.family?_eq (kin : Kin n steps i j) :
    ((separate n).afterAll steps).family? i = ((separate n).afterAll steps).family? j := by
  obtain ⟨root, -, toFirst, toSecond⟩ := kin
  exact (family?_eq_of_descends toFirst).symm.trans (family?_eq_of_descends toSecond)

/-- Interrupters that are no copies have one family only if they are one and the same. -/
theorem Founds.eq_of_family?_eq (first : Founds n steps i) (second : Founds n steps j)
    (one : ((separate n).afterAll steps).family? i = ((separate n).afterAll steps).family? j) :
    i = j := by
  rcases Nat.lt_trichotomy i j with earlier | same | later
  · exact absurd one (second.family?_ne earlier)
  · exact same
  · exact absurd one.symm (first.family?_ne later)

/-- An interrupter that is there has the family of exactly its kin. -/
theorem family?_eq_iff_kin (there : i < countAfter n steps) :
    ((separate n).afterAll steps).family? i = ((separate n).afterAll steps).family? j ↔
      Kin n steps i j := by
  constructor
  · intro one
    have thereToo : j < countAfter n steps := by
      rw [← length_families_separate, ← family?_isSome_iff, ← one, family?_isSome_iff,
        length_families_separate]
      exact there
    obtain ⟨root, founds, descends⟩ := exists_founds there
    obtain ⟨root', founds', descends'⟩ := exists_founds thereToo
    obtain rfl : root = root' := founds.eq_of_family?_eq founds' <|
      (family?_eq_of_descends descends).trans (one.trans (family?_eq_of_descends descends').symm)
    exact ⟨root, founds, descends, descends'⟩
  · exact Kin.family?_eq

/-! ### Interruptions -/

theorem takenAt_concat_iff {last : Step} :
    TakenAt n (steps ++ [last]) step m ↔
      TakenAt n steps step m ∨ last = step ∧ countAfter n steps = m := by
  constructor
  · rintro ⟨before, after, cut, count⟩
    rcases List.eq_nil_or_concat after with rfl | ⟨rest, final, rfl⟩
    · obtain ⟨rfl, same⟩ := List.append_inj' cut rfl
      exact .inr ⟨List.head_eq_of_cons_eq same, count⟩
    · rw [List.concat_eq_append, ← List.cons_append, ← List.append_assoc] at cut
      obtain ⟨rfl, -⟩ := List.append_inj' cut rfl
      exact .inl ⟨before, rest, rfl, count⟩
  · rintro (taken | ⟨rfl, rfl⟩)
    · exact taken.append [last]
    · exact takenAt_last n steps last

theorem interrupted_concat_iff {last : Step} :
    Interrupted n (steps ++ [last]) k ↔
      Interrupted n steps k ∨ last = .interrupt k ∧ k < countAfter n steps := by
  constructor
  · rintro ⟨m, taken, there⟩
    rcases takenAt_concat_iff.mp taken with taken | ⟨rfl, rfl⟩
    · exact .inl ⟨m, taken, there⟩
    · exact .inr ⟨rfl, there⟩
  · rintro (⟨m, taken, there⟩ | ⟨rfl, there⟩)
    · exact ⟨m, taken.append [last], there⟩
    · exact ⟨_, takenAt_last n steps _, there⟩

theorem Interrupted.lt_countAfter (interrupted : Interrupted n steps k) :
    k < countAfter n steps := by
  obtain ⟨m, taken, there⟩ := interrupted
  exact Nat.lt_of_lt_of_le there taken.le_countAfter

theorem not_interrupted_nil : ¬ Interrupted n [] k := by
  rintro ⟨m, ⟨before, after, cut, -⟩, -⟩
  simp at cut

/-- The families raised are those of the interrupters that a step has interrupted. -/
theorem mem_raised_iff (n : Nat) (steps : List Step) (f : Nat) :
    f ∈ ((separate n).afterAll steps).raised ↔
      ∃ k, Interrupted n steps k ∧ ((separate n).afterAll steps).family? k = some f := by
  induction steps using List.reverseRecOn with
  | nil => simp [afterAll, separate, not_interrupted_nil]
  | append_singleton steps last ih =>
      -- Only those that are there can be interrupted, and the last step leaves them their families.
      have keeps : ∀ k < countAfter n steps,
          (((separate n).afterAll steps).after last).family? k =
            ((separate n).afterAll steps).family? k := by
        intro k there
        exact family?_after (by rwa [length_families_separate]) last
      have lastly : (separate n).afterAll (steps ++ [last]) =
          ((separate n).afterAll steps).after last := afterAll_append _ steps [last]
      rw [lastly, mem_raised_after, ih]
      constructor
      · rintro (⟨k, interrupted, family⟩ | ⟨k, rfl, family⟩)
        · exact ⟨k, interrupted_concat_iff.mpr (.inl interrupted),
            (keeps k interrupted.lt_countAfter).trans family⟩
        · have there : k < countAfter n steps := by
            rw [← length_families_separate, ← family?_isSome_iff, family]
            rfl
          exact ⟨k, interrupted_concat_iff.mpr (.inr ⟨rfl, there⟩), (keeps k there).trans family⟩
      · rintro ⟨k, interrupted, family⟩
        rcases interrupted_concat_iff.mp interrupted with earlier | ⟨rfl, there⟩
        · exact .inl ⟨k, earlier, (keeps k earlier.lt_countAfter).symm.trans family⟩
        · exact .inr ⟨k, rfl, (keeps k there).symm.trans family⟩

/-! ### What an interrupter reports -/

theorem isRaised_separate_iff :
    ((separate n).afterAll steps).isRaised i = true ↔
      ∃ k, Interrupted n steps k ∧ Kin n steps k i := by
  constructor
  · intro raised
    obtain ⟨f, family, up⟩ := isRaised_iff.mp raised
    obtain ⟨k, interrupted, same⟩ := (mem_raised_iff n steps f).mp up
    exact ⟨k, interrupted,
      (family?_eq_iff_kin interrupted.lt_countAfter).mp (same.trans family.symm)⟩
  · rintro ⟨k, interrupted, kin⟩
    have there : (((separate n).afterAll steps).family? k).isSome := by
      rw [family?_isSome_iff, length_families_separate]
      exact interrupted.lt_countAfter
    obtain ⟨f, family⟩ := Option.isSome_iff_exists.mp there
    exact isRaised_iff.mpr ⟨f, kin.family?_eq.symm.trans family,
      (mem_raised_iff n steps f).mpr ⟨k, interrupted, family⟩⟩

/-- Raising the flag of one family leaves that of every other as it is. -/
theorem isRaised_interrupt_of_apart
    (apart : ∀ f, w.family? k = some f → w.family? i ≠ some f) :
    (w.after (.interrupt k)).isRaised i = w.isRaised i := by
  rw [Bool.eq_iff_iff]
  constructor
  · intro raised
    obtain ⟨f, family, up⟩ := isRaised_iff.mp raised
    rcases (mem_raised_after w _).mp up with up | ⟨k', same, family'⟩
    · exact isRaised_iff.mpr ⟨f, family, up⟩
    · cases same
      exact absurd family (apart f family')
  · intro raised
    exact isRaised_after raised _

theorem sleep_of_isRaised_or (d : Duration) (ends : w.isRaised i = true ∨ d.isRepresentable) :
    w.sleep i d = some (!w.isRaised i) := by
  cases raised : w.isRaised i with
  | true => simp [sleep, raised]
  | false =>
      have representable : d.isRepresentable := by simpa [raised] using ends
      simp [sleep, raised, representable]

/-- What the interrupters report after a run. One is interrupted exactly if a step has interrupted
one of its kin; it stays so whatever steps follow; interrupting another that is none of its kin
changes nothing for it; and a sleep that ends tells whether it has gone uninterrupted, and leaves
all flags as they are. -/
theorem isRaised_iff_kin_interrupted (n : Nat) (steps : List Step) :
    let w := (separate n).afterAll steps
    w.flags = (List.range (countAfter n steps)).map w.isRaised ∧
    (∀ i, w.isRaised i = true ↔ ∃ k, Interrupted n steps k ∧ Kin n steps k i) ∧
    (∀ i more, w.isRaised i = true →
      ((separate n).afterAll (steps ++ more)).isRaised i = true) ∧
    (∀ i k, ¬ Kin n steps k i → (w.after (.interrupt k)).isRaised i = w.isRaised i) ∧
    (∀ i d, w.isRaised i = true ∨ d.isRepresentable →
      ∃ whole, w.sleep i d = some whole ∧
        (whole = true ↔ ¬ ∃ k, Interrupted n steps k ∧ Kin n steps k i) ∧
        (w.after (.sleep i d)).flags = w.flags) := by
  intro w
  have length : w.families.length = countAfter n steps := length_families_separate n steps
  refine ⟨?flags, fun i => isRaised_separate_iff, ?stays, ?apart, ?sleep⟩
  case flags =>
    rw [← length]
    exact flags_eq_map_isRaised w
  case stays =>
    intro i more raised
    rw [afterAll_append]
    exact isRaised_afterAll raised more
  case apart =>
    intro i k strangers
    refine isRaised_interrupt_of_apart fun f family family' => strangers ?_
    have there : k < countAfter n steps := by
      rw [← length, ← family?_isSome_iff, family]
      rfl
    exact (family?_eq_iff_kin there).mp (family.trans family'.symm)
  case sleep =>
    intro i d ends
    refine ⟨!w.isRaised i, sleep_of_isRaised_or d ends, ?_, rfl⟩
    rw [← isRaised_separate_iff, Bool.not_eq_true', Bool.not_eq_true]

-- The copy of a copy, taken behind the interruption, and a family of its own.
example : (single.afterAll [.copy 0, .interrupt 0, .copy 1, .create]).flags =
    [true, true, true, false] := by decide

end StoreBench.Interrupters
