/-
What it amounts to when many texts are written in order.

* `get?_ofList_eq_some_iff` says that of the texts for one key the last one stays.
* `get?_setMany` says that what is written stands over what was there.
* `setMany_setMany` says that writing is forgotten once all its keys are written again; so writing
  the same twice is writing it once.
-/

import Mathlib.Data.List.Induction
import StoreBench.Settings

namespace StoreBench.Settings

/-! ### The last text of a key -/

theorem setMany_append (s : Settings) (first second : List (String × String)) :
    s.setMany (first ++ second) = (s.setMany first).setMany second :=
  List.foldl_append

theorem setMany_append_cons (s : Settings) (before after : List (String × String))
    (p : String × String) :
    s.setMany (before ++ p :: after) = ((s.setMany before).set p.1 p.2).setMany after := by
  simp [setMany]

theorem ofList_concat (pairs : List (String × String)) (last : String × String) :
    ofList (pairs ++ [last]) = (ofList pairs).set last.1 last.2 :=
  setMany_append_cons empty pairs [] last

/-- Writing at other keys leaves the text at a key. -/
theorem get?_setMany_of_forall_ne {pairs : List (String × String)} {key : String}
    (h : ∀ p ∈ pairs, p.1 ≠ key) (s : Settings) : (s.setMany pairs).get? key = s.get? key := by
  induction pairs generalizing s with
  | nil => rfl
  | cons p pairs ih =>
      have others := ih (fun q member => h q (List.mem_cons_of_mem p member)) (s.set p.1 p.2)
      rw [get?_set, if_neg (h p List.mem_cons_self)] at others
      exact others

/-- A key has the text of the last pair with that key. -/
theorem get?_ofList_eq_some_iff {pairs : List (String × String)} {key text : String} :
    (ofList pairs).get? key = some text ↔
      ∃ before after, pairs = before ++ (key, text) :: after ∧ ∀ p ∈ after, p.1 ≠ key := by
  constructor
  · intro found
    induction pairs using List.reverseRecOn with
    | nil => simp [ofList, setMany] at found
    | append_singleton pairs last ih =>
        rw [ofList_concat, get?_set] at found
        split at found
        · rename_i same
          cases found
          exact ⟨pairs, [], by rw [← same], by simp⟩
        · rename_i other
          obtain ⟨before, after, rfl, others⟩ := ih found
          refine ⟨before, after ++ [last], by simp, fun p member => ?_⟩
          rcases List.mem_append.mp member with member | member
          · exact others p member
          · rw [List.mem_singleton.mp member]
            exact other
  · rintro ⟨before, after, rfl, others⟩
    rw [ofList, setMany_append_cons, get?_setMany_of_forall_ne others, get?_set, if_pos rfl]

/-- What stands at a key is one of the pairs. -/
theorem mem_of_get?_ofList {pairs : List (String × String)} {key text : String}
    (found : (ofList pairs).get? key = some text) : (key, text) ∈ pairs := by
  obtain ⟨before, after, rfl, -⟩ := get?_ofList_eq_some_iff.mp found
  simp

/-- Where no two pairs share a key, every pair counts. -/
theorem get?_ofList_of_mem {pairs : List (String × String)} {key text : String}
    (distinct : pairs.Pairwise fun p q => p.1 ≠ q.1) (member : (key, text) ∈ pairs) :
    (ofList pairs).get? key = some text := by
  obtain ⟨before, after, rfl⟩ := List.append_of_mem member
  have later := (List.pairwise_cons.mp (List.pairwise_append.mp distinct).2.1).1
  exact get?_ofList_eq_some_iff.mpr ⟨before, after, rfl, fun p member => (later p member).symm⟩

theorem get?_ofList_eq_none_iff {pairs : List (String × String)} {key : String} :
    (ofList pairs).get? key = none ↔ key ∉ pairs.map Prod.fst := by
  induction pairs using List.reverseRecOn with
  | nil => simp [ofList, setMany]
  | append_singleton pairs last ih =>
      rw [ofList_concat, get?_set]
      by_cases same : last.1 = key
      · simp [same]
      · simp [same, Ne.symm same, ih]

/-- Every key of the pairs has a text. -/
theorem exists_get?_ofList_of_mem {pairs : List (String × String)} {p : String × String}
    (member : p ∈ pairs) : ∃ text, (ofList pairs).get? p.1 = some text := by
  apply Option.ne_none_iff_exists'.mp
  intro absent
  exact get?_ofList_eq_none_iff.mp absent (List.mem_map_of_mem member)

theorem length_toList_set (s : Settings) (key text : String) :
    (s.set key text).toList.length =
      if s.contains key then s.toList.length else s.toList.length + 1 := by
  simp only [toList, set, contains, Std.ExtTreeMap.length_toList, Std.ExtTreeMap.size_insert]

/-- Where no two pairs share a key, there are as many texts as pairs. -/
theorem length_toList_ofList {pairs : List (String × String)}
    (distinct : pairs.Pairwise fun p q => p.1 ≠ q.1) :
    (ofList pairs).toList.length = pairs.length := by
  induction pairs using List.reverseRecOn with
  | nil => rfl
  | append_singleton pairs last ih =>
      obtain ⟨distinct_before, -, apart⟩ := List.pairwise_append.mp distinct
      have absent : (ofList pairs).get? last.1 = none := by
        rw [get?_ofList_eq_none_iff]
        intro among
        obtain ⟨p, member, same⟩ := List.mem_map.mp among
        exact apart p member last List.mem_cons_self same
      rw [ofList_concat, length_toList_set, contains_eq_isSome, absent, ih distinct_before,
        List.length_append, List.length_singleton]
      rfl

/-! ### Writing over settings -/

theorem get?_setMany (s : Settings) (pairs : List (String × String)) (key : String) :
    (s.setMany pairs).get? key = ((ofList pairs).get? key).or (s.get? key) := by
  induction pairs using List.reverseRecOn with
  | nil => simp [ofList, setMany]
  | append_singleton pairs last ih =>
      rw [ofList, setMany_append_cons, setMany_append_cons, ← ofList]
      simp only [setMany, List.foldl_nil, get?_set] at ih ⊢
      rw [ih]
      split <;> rfl

/-- What is written first is forgotten if all its keys are written again. -/
theorem setMany_setMany {first second : List (String × String)}
    (again : ∀ p ∈ first, p.1 ∈ second.map Prod.fst) (s : Settings) :
    (s.setMany first).setMany second = s.setMany second := by
  ext key : 1
  rw [get?_setMany _ second, get?_setMany s second]
  cases last : (ofList second).get? key with
  | some text => rfl
  | none =>
      have absent := get?_ofList_eq_none_iff.mp last
      have elsewhere : ∀ p ∈ first, p.1 ≠ key := by
        rintro p member rfl
        exact absent (again p member)
      rw [get?_setMany_of_forall_ne elsewhere]

end StoreBench.Settings
