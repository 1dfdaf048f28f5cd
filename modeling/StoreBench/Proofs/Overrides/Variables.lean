/-
Which overrides the variables of an environment stand for.

* `StandsFor` says of a variable's name that it stands for a key: the name begins with the text
  asked for, and its other characters read as those of the key, one by one (`ReadsAs`).
* `Gives` says which value an environment gives a key, that of the last variable that stands for it.
* `Lowered` is what every key of a variable is, and `variableName` is a name for every such key.
* `ofVariables_last_value` says that the overrides of an environment have at each key the value
  which the environment gives it, and how one more variable adds any lowered key.
-/

import Mathlib.Data.List.Forall2
import Mathlib.Data.Set.Card
import StoreBench.Overrides
import StoreBench.Proofs.Settings.Writing

namespace StoreBench.Overrides

variable {start name key value : String} {environment : List (String × String)}

/-! ### Letters -/

theorem toLower_of_small {c : Char} (small : c.isUpper = false) : c.toLower = c :=
  dif_neg (of_decide_eq_false small)

/-- The small letter of a capital one is no capital letter and no underscore. -/
theorem toLower_of_capital {c : Char} (capital : c.isUpper = true) :
    c.toLower ≠ '_' ∧ c.toLower.isUpper = false := by
  have bound : c.toNat ≤ 'Z'.toNat := UInt32.le_iff_toNat_le.mp (of_decide_eq_true capital).2
  have letters : ∀ c : Char, c.toNat < 128 → c.isUpper = true →
      c.toLower ≠ '_' ∧ c.toLower.isUpper = false := Text.forall_ascii (by decide)
  exact letters c (Nat.lt_of_le_of_lt bound (by decide)) capital

/-- A character that is no capital letter can be raised and lowered again. -/
theorem toLower_toUpper_of_small {c : Char} (small : c.isUpper = false) :
    c.toUpper.toLower = c := by
  by_cases letter : 'a'.val ≤ c.val ∧ c.val ≤ 'z'.val
  · have bound : c.toNat ≤ 'z'.toNat := UInt32.le_iff_toNat_le.mp letter.2
    have letters : ∀ c : Char, c.toNat < 128 → c.isUpper = false → c.toUpper.toLower = c :=
      Text.forall_ascii (by decide)
    exact letters c (Nat.lt_of_le_of_lt bound (by decide)) small
  · have raised : c.toUpper = c := dif_neg letter
    rw [raised, toLower_of_small small]

/-! ### Names and keys -/

/-- The character of a name reads as the character of a key: an underscore as a dot, a capital
letter of ASCII as the small one, and any other character as itself. -/
inductive ReadsAs : Char → Char → Prop
  | underscore : ReadsAs '_' '.'
  | capital {c : Char} : c.isUpper = true → ReadsAs c c.toLower
  | other {c : Char} : c ≠ '_' → c.isUpper = false → ReadsAs c c

/-- The name begins with `start`, letter by letter, and what follows reads as the key. -/
def StandsFor (start name key : String) : Prop :=
  ∃ rest, name = start ++ rest ∧ List.Forall₂ ReadsAs rest.toList key.toList

theorem keyChar_eq_iff {c d : Char} : keyChar c = d ↔ ReadsAs c d := by
  constructor
  · rintro rfl
    unfold keyChar
    split
    · rename_i underscore
      rw [beq_iff_eq.mp underscore]
      exact .underscore
    · rename_i other
      cases capital : c.isUpper with
      | true => exact .capital capital
      | false =>
          rw [toLower_of_small capital]
          exact .other (by simpa using other) capital
  · intro reads
    cases reads with
    | underscore => rfl
    | capital capital =>
        have not_underscore : c ≠ '_' := by
          rintro rfl
          exact absurd capital (by decide)
        simp [keyChar, not_underscore]
    | other not_underscore small =>
        simp [keyChar, not_underscore, toLower_of_small small]

theorem map_keyChar_eq_iff {rest key : List Char} :
    rest.map keyChar = key ↔ List.Forall₂ ReadsAs rest key := by
  simp only [← List.forall₂_eq_eq_eq, List.forall₂_map_left_iff, keyChar_eq_iff]

theorem variableKey?_eq_some_iff :
    variableKey? start name = some key ↔ StandsFor start name key := by
  simp only [variableKey?, Option.map_eq_some_iff, Text.behind?_eq_some_iff, StandsFor,
    ← String.toList_inj, String.toList_map, map_keyChar_eq_iff]

/-- No underscore and no capital letter of ASCII is in the key. -/
def Lowered (key : String) : Prop :=
  ∀ c ∈ key.toList, c ≠ '_' ∧ c.isUpper = false

theorem ReadsAs.lowered {c d : Char} (reads : ReadsAs c d) : d ≠ '_' ∧ d.isUpper = false := by
  cases reads with
  | underscore => decide
  | capital capital => exact toLower_of_capital capital
  | other not_underscore small => exact ⟨not_underscore, small⟩

theorem StandsFor.lowered (stands : StandsFor start name key) : Lowered key := by
  obtain ⟨rest, -, reads⟩ := stands
  intro c member
  rw [← map_keyChar_eq_iff.mpr reads] at member
  obtain ⟨d, -, read⟩ := List.mem_map.mp member
  exact (keyChar_eq_iff.mp read).lowered

/-! ### A name for every key -/

/-- The character of a name that stands for a character of a key: a dot becomes an underscore, and
small letters of ASCII become capital. -/
def nameChar (c : Char) : Char :=
  if c = '.' then '_' else c.toUpper

/-- A variable that has this name behind the beginning stands for the key. -/
def variableName (key : String) : String :=
  key.map nameChar

theorem keyChar_nameChar {c : Char} (not_underscore : c ≠ '_') (small : c.isUpper = false) :
    keyChar (nameChar c) = c := by
  unfold nameChar
  split
  · rename_i dot
    rw [dot]
    rfl
  · have lower : c.toUpper.toLower = c := toLower_toUpper_of_small small
    have raised : c.toUpper ≠ '_' := by
      intro underscore
      rw [underscore] at lower
      exact not_underscore lower.symm
    rw [keyChar, if_neg (by simpa using raised), lower]

theorem standsFor_variableName (start : String) (lowered : Lowered key) :
    StandsFor start (start ++ variableName key) key := by
  refine ⟨variableName key, rfl, ?_⟩
  rw [← map_keyChar_eq_iff, variableName, String.toList_map, List.map_map]
  calc key.toList.map (keyChar ∘ nameChar)
      = key.toList.map id := List.map_congr_left fun c member =>
        keyChar_nameChar (lowered c member).1 (lowered c member).2
    _ = key.toList := List.map_id _

/-! ### The overrides of an environment -/

/-- Overrides are filled from pairs just as settings are. -/
theorem ofList_eq (pairs : List (String × String)) :
    ofList pairs = ⟨(Settings.ofList pairs).entries⟩ :=
  List.foldl_hom (fun s : Settings => (⟨s.entries⟩ : Overrides)) fun _ _ => rfl

theorem get?_ofList (pairs : List (String × String)) (key : String) :
    (ofList pairs).get? key = (Settings.ofList pairs).get? key := by
  rw [ofList_eq]
  rfl

/-- The environment gives the key the value of the last variable that stands for it. -/
def Gives (start : String) (environment : List (String × String)) (key value : String) : Prop :=
  ∃ before name after, environment = before ++ (name, value) :: after ∧
    StandsFor start name key ∧ ∀ v ∈ after, ¬ StandsFor start v.1 key

/-- The key and the value that a variable stands for. -/
def setting? (start : String) (v : String × String) : Option (String × String) :=
  (variableKey? start v.1).map fun key => (key, v.2)

theorem setting?_eq_some_iff {v : String × String} :
    setting? start v = some (key, value) ↔ StandsFor start v.1 key ∧ v.2 = value := by
  simp [setting?, variableKey?_eq_some_iff]

theorem ofVariables_eq (start : String) (environment : List (String × String)) :
    ofVariables start environment = ofList (environment.filterMap (setting? start)) := rfl

/-- None of what the variables stand for is for the key exactly if none of them stands for it. -/
theorem forall_setting_ne_iff :
    (∀ p ∈ environment.filterMap (setting? start), p.1 ≠ key) ↔
      ∀ v ∈ environment, ¬ StandsFor start v.1 key := by
  constructor
  · intro others v member stands
    have given : setting? start v = some (key, v.2) := setting?_eq_some_iff.mpr ⟨stands, rfl⟩
    exact others _ (List.mem_filterMap.mpr ⟨v, member, given⟩) rfl
  · rintro others ⟨key, value⟩ among rfl
    obtain ⟨v, member, given⟩ := List.mem_filterMap.mp among
    exact others v member (setting?_eq_some_iff.mp given).1

theorem get?_ofVariables_eq_some_iff :
    (ofVariables start environment).get? key = some value ↔ Gives start environment key value := by
  rw [ofVariables_eq, get?_ofList, Settings.get?_ofList_eq_some_iff]
  constructor
  · rintro ⟨first, second, cut, others⟩
    obtain ⟨before, behind, rfl, -, cut⟩ := List.filterMap_eq_append_iff.mp cut
    obtain ⟨skipped, v, after, rfl, -, given, rfl⟩ := List.filterMap_eq_cons_iff.mp cut
    obtain ⟨stands, rfl⟩ := setting?_eq_some_iff.mp given
    exact ⟨before ++ skipped, v.1, after, by simp, stands, forall_setting_ne_iff.mp others⟩
  · rintro ⟨before, name, after, rfl, stands, others⟩
    have given : setting? start (name, value) = some (key, value) :=
      setting?_eq_some_iff.mpr ⟨stands, rfl⟩
    refine ⟨before.filterMap (setting? start), after.filterMap (setting? start), ?_,
      forall_setting_ne_iff.mpr others⟩
    rw [List.filterMap_append, List.filterMap_cons_some given]

theorem get?_ofVariables_eq_none_iff :
    (ofVariables start environment).get? key = none ↔
      ∀ v ∈ environment, ¬ StandsFor start v.1 key := by
  rw [ofVariables_eq, get?_ofList, Settings.get?_ofList_eq_none_iff, ← forall_setting_ne_iff]
  simp only [List.mem_map, not_exists, not_and, ne_eq]

/-- There are as many overrides as keys that have one. -/
theorem size_eq_ncard (o : Overrides) : o.size = {key | o.get? key ≠ none}.ncard := by
  have keys : {key | o.get? key ≠ none} = (o.values.keys.toFinset : Set String) := by
    ext key
    simp [get?]
  rw [keys, Set.ncard_coe_finset, List.toFinset_card_of_nodup o.values.nodup_keys,
    Std.ExtTreeMap.length_keys]
  rfl

/-- There are as many overrides as keys that variables stand for. -/
theorem size_ofVariables (start : String) (environment : List (String × String)) :
    (ofVariables start environment).size =
      {key | ∃ v ∈ environment, StandsFor start v.1 key}.ncard := by
  rw [size_eq_ncard]
  congr 1
  ext key
  simp [get?_ofVariables_eq_none_iff]

theorem lowered_of_get?_ofVariables
    (found : (ofVariables start environment).get? key = some value) : Lowered key := by
  obtain ⟨before, name, after, -, stands, -⟩ := get?_ofVariables_eq_some_iff.mp found
  exact stands.lowered

/-- One more variable is one more override, or another value of one. -/
theorem ofVariables_concat (stands : StandsFor start name key) (value : String) :
    ofVariables start (environment ++ [(name, value)]) =
      (ofVariables start environment).insert key value := by
  have given : setting? start (name, value) = some (key, value) :=
    setting?_eq_some_iff.mpr ⟨stands, rfl⟩
  rw [ofVariables_eq, List.filterMap_append, List.filterMap_cons_some given]
  exact List.foldl_append

/-- The overrides of an environment have at each key the value of the last variable that stands for
it, and are as many as the keys that variables stand for. No such key has an underscore or a capital
letter of ASCII; for every key without them there is a variable, which, where it comes last, sets
that key and leaves all others. -/
theorem ofVariables_last_value (start : String) (environment : List (String × String)) :
    (∀ key value, (ofVariables start environment).get? key = some value ↔
        Gives start environment key value) ∧
      (∀ key, (ofVariables start environment).get? key = none ↔
        ∀ v ∈ environment, ¬ StandsFor start v.1 key) ∧
      (ofVariables start environment).size =
        {key | ∃ v ∈ environment, StandsFor start v.1 key}.ncard ∧
      (∀ key value, (ofVariables start environment).get? key = some value → Lowered key) ∧
      ∀ key value, Lowered key → ∀ other,
        (ofVariables start (environment ++ [(start ++ variableName key, value)])).get? other =
          if key = other then some value else (ofVariables start environment).get? other := by
  refine ⟨fun _ _ => get?_ofVariables_eq_some_iff, fun _ => get?_ofVariables_eq_none_iff,
    size_ofVariables start environment, fun _ _ => lowered_of_get?_ofVariables, ?_⟩
  intro key value lowered other
  rw [ofVariables_concat (standsFor_variableName start lowered), get?_insert]

/-- Two variables whose names stand for one key, and between them one that begins otherwise. -/
def colliding : List (String × String) :=
  [("S3A_A_B", "1"), ("s3a_A_B", "2"), ("S3A_a.B", "3")]

/-- Names that differ in case or have dots for underscores share a key, and the last of them counts,
also where one more is added. -/
theorem colliding_last_value :
    Gives "S3A_" colliding "a.b" "3" ∧ (ofVariables "S3A_" colliding).get? "a.b" = some "3" ∧
      Lowered "a.b" ∧ variableName "a.b" = "A_B" ∧
      (ofVariables "S3A_" (colliding ++ [("S3A_" ++ "A_B", "4")])).get? "a.b" = some "4" := by
  obtain ⟨found_iff, -, -, lowered, adds⟩ := ofVariables_last_value "S3A_" colliding
  have stands : StandsFor "S3A_" "S3A_a.B" "a.b" :=
    ⟨"a.B", rfl, .cons (.other (by decide) (by decide)) (.cons (.other (by decide) (by decide))
      (.cons (.capital (by decide)) .nil))⟩
  have gives : Gives "S3A_" colliding "a.b" "3" :=
    ⟨[("S3A_A_B", "1"), ("s3a_A_B", "2")], "S3A_a.B", [], rfl, stands, by simp⟩
  have found := (found_iff _ _).mpr gives
  have name : variableName "a.b" = "A_B" := by
    rw [← String.toList_inj, variableName, String.toList_map]
    decide
  have added := adds "a.b" "4" (lowered _ _ found) "a.b"
  rw [name, if_pos rfl] at added
  exact ⟨gives, found, lowered _ _ found, name, added⟩

end StoreBench.Overrides
