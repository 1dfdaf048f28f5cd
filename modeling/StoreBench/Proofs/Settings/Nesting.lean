/-
A document as the value of a single key: whether its settings are those of the document with the key
and a dot in front of their keys.

* `Prefixes` says so of two settings.
* `ofValue_nested` says that the document flattens there too, that every leaf gets the key and all
  segments of its path, and that this is no more than a prefix where no leaf stands below an empty
  outermost key.
* `blankKey_not_prefixed` is a document in which one does: on its own the document loses the dot
  behind the empty key, and as a value it keeps it.
-/

import StoreBench.Proofs.Settings.Located

namespace StoreBench.Settings

/-! ### Prefixes -/

/-- The second settings have the texts of the first ones, each at its key behind the name and a dot,
and nothing else. -/
def Prefixes (name : String) (s t : Settings) : Prop :=
  ∀ key text, t.get? key = some text ↔ ∃ k, key = name ++ "." ++ k ∧ s.get? k = some text

/-- Settings of pairs whose keys all get the prefix. -/
theorem prefixes_ofList (name : String) (pairs : List (String × String)) :
    Prefixes name (ofList pairs) (ofList (pairs.map fun p => (name ++ "." ++ p.1, p.2))) := by
  intro key text
  induction pairs using List.reverseRecOn with
  | nil => simp [ofList, setMany]
  | append_singleton pairs last ih =>
      rw [List.map_append, List.map_singleton, ofList_concat, ofList_concat, get?_set]
      by_cases same : name ++ "." ++ last.1 = key
      · rw [if_pos same]
        constructor
        · intro found
          exact ⟨last.1, same.symm, by rw [get?_set, if_pos rfl, found]⟩
        · rintro ⟨k, rfl, found⟩
          rw [get?_set, if_pos ((String.append_right_inj _).mp same)] at found
          exact found
      · rw [if_neg same, ih]
        refine exists_congr fun k => and_congr_right fun prefixed => ?_
        rw [get?_set, if_neg]
        rintro rfl
        exact same prefixed.symm

/-! ### Leaves of a nested document -/

/-- The key and the text of a leaf if no segment of its path is left out. -/
def whole (leaf : List String × String) : String × String :=
  (Text.joined "." leaf.1, leaf.2)

/-- The path leads through the value of an empty outermost key. -/
def BelowBlank (path : List String) : Prop :=
  ∃ segment rest, path = "" :: segment :: rest

section Nested

variable {entries : List (Yaml.Value × Yaml.Value)} {name : String}

theorem located_nested (name : String) (entries : List (Yaml.Value × Yaml.Value)) :
    located (.mapping [(.text name, .mapping entries)]) =
      (located (.mapping entries)).map fun leaf => (name :: leaf.1, leaf.2) := by
  rw [located_mapping, List.flatMap_singleton, behindKey_of_isScalar .text]

/-- Below a key with text, a leaf gets that key and all segments of its path. -/
theorem map_keyed_located_nested (filled : name ≠ "") :
    (located (.mapping [(.text name, .mapping entries)])).map keyed =
      ((located (.mapping entries)).map whole).map fun p => (name ++ "." ++ p.1, p.2) := by
  rw [located_nested, List.map_map, List.map_map]
  apply List.map_congr_left
  rintro ⟨path, text⟩ member
  cases path with
  | nil => exact absurd rfl (path_ne_nil member)
  | cons segment path =>
      rw [Function.comp_apply, keyed, pathKey_cons_of_ne_empty filled]
      rfl

/-- On its own the document gives a leaf all segments of its path too, unless the leaf is below an
empty outermost key. -/
theorem keyed_eq_whole {leaf : List String × String} (member : leaf ∈ located (.mapping entries))
    (not_below : ¬ BelowBlank leaf.1) : keyed leaf = whole leaf := by
  obtain ⟨path, text⟩ := leaf
  cases path with
  | nil => exact absurd rfl (path_ne_nil member)
  | cons segment path =>
      by_cases blank : segment = ""
      · cases path with
        | nil => simp [keyed, whole, pathKey, Text.joined, blank]
        | cons second path => exact absurd ⟨second, path, by rw [blank]⟩ not_below
      · rw [keyed, pathKey_cons_of_ne_empty blank]
        rfl

/-- No key that a document without dots in its segments gives on its own begins with a dot. -/
theorem pathKey_ne_joined_of_belowBlank {path below : List String}
    (plain : ∀ segment ∈ path, '.' ∉ segment.toList)
    (plain_below : ∀ segment ∈ below, '.' ∉ segment.toList) (blank : BelowBlank below) :
    pathKey path ≠ Text.joined "." below := by
  obtain ⟨segment, rest, rfl⟩ := blank
  intro same
  rw [pathKey] at same
  cases kept : path.dropWhile (· == "") with
  | nil => simp [kept, Text.joined] at same
  | cons first others =>
      have plain_kept : ∀ segment ∈ first :: others, '.' ∉ segment.toList := by
        intro segment member
        rw [← kept] at member
        exact plain segment ((List.dropWhile_sublist _).subset member)
      have filled := List.head?_dropWhile_not (· == "") path
      rw [kept] at same filled
      rw [joined_inj (by simp) (by simp) plain_kept plain_below, List.cons.injEq] at same
      simp [same.1] at filled

end Nested

/-! ### Settings of a nested document -/

/-- A mapping that flattens flattens below any key with text, and there every leaf gets the key and
all segments of its path. These are the settings of the mapping with the key and a dot in front, if
no leaf is below an empty outermost key; and where no segment has a dot, only then. -/
theorem ofValue_nested {entries : List (Yaml.Value × Yaml.Value)} {s : Settings} {name : String}
    (read : ofValue (.mapping entries) = .ok s) (filled : name ≠ "") :
    ∃ t, ofValue (.mapping [(.text name, .mapping entries)]) = .ok t ∧
      Prefixes name (ofList ((located (.mapping entries)).map whole)) t ∧
      ((∀ leaf ∈ located (.mapping entries), ¬ BelowBlank leaf.1) → Prefixes name s t) ∧
      ((∀ leaf ∈ located (.mapping entries), ∀ segment ∈ leaf.1, '.' ∉ segment.toList) →
        Prefixes name s t → ∀ leaf ∈ located (.mapping entries), ¬ BelowBlank leaf.1) := by
  obtain ⟨flattens, rfl⟩ := ofValue_eq_ok_iff_flattens.mp read
  have nested : Flattens (.mapping [(.text name, .mapping entries)]) := by
    apply Flattens.mapping
    · exact List.forall_mem_singleton.mpr ⟨name, .text⟩
    · exact List.forall_mem_singleton.mpr flattens
  have whole_paths : Prefixes name (ofList ((located (.mapping entries)).map whole))
      (ofList ((located (.mapping [(.text name, .mapping entries)])).map keyed)) := by
    rw [map_keyed_located_nested filled]
    exact prefixes_ofList name _
  refine ⟨_, ofValue_eq_ok_iff_flattens.mpr ⟨nested, rfl⟩, whole_paths, ?_, ?_⟩
  · intro not_below
    have same : (located (.mapping entries)).map keyed = (located (.mapping entries)).map whole :=
      List.map_congr_left fun leaf member => keyed_eq_whole member (not_below leaf member)
    rw [same]
    exact whole_paths
  · intro plain prefixed leaf member below
    -- The nested leaf has a key that the prefix does not account for.
    have there : whole leaf ∈ (located (.mapping entries)).map whole := List.mem_map_of_mem member
    obtain ⟨text, found⟩ := exists_get?_ofList_of_mem there
    obtain ⟨k, key, own⟩ := (prefixed _ _).mp ((whole_paths _ _).mpr ⟨_, rfl, found⟩)
    rw [String.append_right_inj] at key
    obtain ⟨other, among, same⟩ := List.mem_map.mp (mem_of_get?_ofList own)
    have no_prefix := pathKey_ne_joined_of_belowBlank (plain other among) (plain leaf member) below
    exact no_prefix ((Prod.mk.inj same).1.trans key.symm)

/-- An empty key further in changes nothing: its dots are there on both sides. -/
theorem innerBlankKey_prefixed :
    ∃ t, ofValue (.mapping [(.text "p", .mapping [(.text "fs",
        .mapping [(.text "", .mapping [(.text "a", .text "x")])])])]) = .ok t ∧
      Prefixes "p" (ofList [("fs..a", "x")]) t := by
  have read : ofValue (.mapping [(.text "fs",
      .mapping [(.text "", .mapping [(.text "a", .text "x")])])]) =
        .ok (ofList [("fs..a", "x")]) := rfl
  have filled : "p" ≠ "" := by decide
  obtain ⟨t, nested, -, prefixed, -⟩ := ofValue_nested read filled
  refine ⟨t, nested, prefixed ?_⟩
  intro leaf member
  cases List.mem_singleton.mp member
  rintro ⟨segment, rest, same⟩
  simp at same

/-- A leaf below an empty outermost key: the document gives it the key `a`, and as the value of `p`
the key `p..a` in place of `p.a`. -/
theorem blankKey_not_prefixed :
    ofValue (.mapping [(.text "", .mapping [(.text "a", .text "x")])]) =
        .ok (ofList [("a", "x")]) ∧
      ofValue (.mapping [(.text "p", .mapping [(.text "", .mapping [(.text "a", .text "x")])])]) =
        .ok (ofList [("p..a", "x")]) ∧
      ¬ Prefixes "p" (ofList [("a", "x")]) (ofList [("p..a", "x")]) := by
  refine ⟨rfl, rfl, ?_⟩
  intro prefixed
  have own : (ofList [("a", "x")]).get? "a" = some "x" := by simp [ofList, setMany]
  have there := (prefixed "p.a" "x").mpr ⟨"a", rfl, own⟩
  simp [ofList, setMany] at there

end StoreBench.Settings
