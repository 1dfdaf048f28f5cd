/-
The leaves of a value by the paths that lead to them, before keys are made of the paths.

* `located` lists the leaves of a value, each with its path and its text.
* `joined_inj` says that segments without dots can be read off the key of a path.
* `Flattens` says of a value that nothing in it is in the way of flattening, wherever it stands.
* `ofValue_eq_ok_iff_flattens` says that a mapping has settings exactly if it flattens, and that
  they are those of its leaves, each at the key of its path.
-/

import StoreBench.Proofs.Settings.Leaves

namespace StoreBench.Settings

/-! ### Induction on values -/

/-- Induction on a value into the values of mappings and behind tags. Keys, and the items of a
sequence, are not gone into. -/
@[elab_as_elim]
theorem valueInduction {motive : Yaml.Value → Prop}
    (scalar : ∀ value text, IsScalar value text → motive value)
    (sequence : ∀ items, motive (.sequence items))
    (mapping : ∀ entries, (∀ entry ∈ entries, motive entry.2) → motive (.mapping entries))
    (tagged : ∀ tag value, motive value → motive (.tagged tag value)) :
    ∀ value, motive value
  | .null => scalar _ _ .null
  | .bool true => scalar _ _ .yes
  | .bool false => scalar _ _ .no
  | .number _ => scalar _ _ .number
  | .text _ => scalar _ _ .text
  | .sequence items => sequence items
  | .mapping entries => mapping entries fun entry _ =>
      valueInduction scalar sequence mapping tagged entry.2
  | .tagged tag value => tagged tag value (valueInduction scalar sequence mapping tagged value)
termination_by value => sizeOf value
decreasing_by
  · rename_i member
    have inside := List.sizeOf_lt_of_mem member
    obtain ⟨key, value⟩ := entry
    rw [Prod.mk.sizeOf_spec] at inside
    rw [Yaml.Value.mapping.sizeOf_spec]
    show sizeOf value < 1 + sizeOf entries
    omega
  · rw [Yaml.Value.tagged.sizeOf_spec]
    omega

/-! ### Leaves by their paths -/

/-- The leaves of an entry, from those of its value: they are one segment further down. Behind a key
that is no segment there are none. -/
def behindKey (key : Yaml.Value) (leaves : List (List String × String)) :
    List (List String × String) :=
  match scalarText? key with
  | some segment => leaves.map fun leaf => (segment :: leaf.1, leaf.2)
  | none => []

mutual

/-- The leaves of a value in document order, each with the segments that lead to it and its text: a
scalar is one, and so is a sequence of scalars. The tag of a value counts for nothing. -/
def located : Yaml.Value → List (List String × String)
  | .sequence items =>
    ((items.mapM scalarText?).map fun texts => ([], Text.joined "," texts)).toList
  | .mapping entries => locatedIn entries
  | .tagged _ value => located value
  | scalar => ((scalarText? scalar).map fun text => ([], text)).toList

/-- The leaves of the entries of a mapping. -/
def locatedIn : List (Yaml.Value × Yaml.Value) → List (List String × String)
  | [] => []
  | (key, value) :: entries => behindKey key (located value) ++ locatedIn entries

end

theorem located_of_isScalar {value : Yaml.Value} {text : String} (scalar : IsScalar value text) :
    located value = [([], text)] := by
  cases scalar <;> rfl

theorem locatedIn_eq_flatMap (entries : List (Yaml.Value × Yaml.Value)) :
    locatedIn entries = entries.flatMap fun entry => behindKey entry.1 (located entry.2) := by
  induction entries with
  | nil => rfl
  | cons entry entries ih => rw [locatedIn, List.flatMap_cons, ih]

theorem located_mapping (entries : List (Yaml.Value × Yaml.Value)) :
    located (.mapping entries) =
      entries.flatMap fun entry => behindKey entry.1 (located entry.2) := by
  rw [located, locatedIn_eq_flatMap]

theorem behindKey_of_isScalar {key : Yaml.Value} {segment : String} (scalar : IsScalar key segment)
    (leaves : List (List String × String)) :
    behindKey key leaves = leaves.map fun leaf => (segment :: leaf.1, leaf.2) := by
  simp only [behindKey, scalarText?_eq_some_iff.mpr scalar]

theorem mem_behindKey_iff {key : Yaml.Value} {leaves : List (List String × String)}
    {leaf : List String × String} :
    leaf ∈ behindKey key leaves ↔
      ∃ segment path, IsScalar key segment ∧ (path, leaf.2) ∈ leaves ∧
        leaf.1 = segment :: path := by
  cases found : scalarText? key with
  | none =>
      have no_scalar := scalarText?_eq_none_iff.mp found
      simp only [behindKey, found, List.not_mem_nil, false_iff]
      rintro ⟨segment, _, scalar, _⟩
      exact no_scalar segment scalar
  | some segment =>
      have scalar := scalarText?_eq_some_iff.mp found
      rw [behindKey_of_isScalar scalar, List.mem_map]
      constructor
      · rintro ⟨⟨path, text⟩, member, rfl⟩
        exact ⟨segment, path, scalar, member, rfl⟩
      · rintro ⟨other, path, scalar', member, split⟩
        have same := found.symm.trans (scalarText?_eq_some_iff.mpr scalar')
        cases same
        exact ⟨(path, leaf.2), member, by rw [← split]⟩

/-- A leaf of a mapping is at least one segment down. -/
theorem path_ne_nil {entries : List (Yaml.Value × Yaml.Value)} {leaf : List String × String}
    (member : leaf ∈ located (.mapping entries)) : leaf.1 ≠ [] := by
  rw [located_mapping, List.mem_flatMap] at member
  obtain ⟨entry, _, behind⟩ := member
  obtain ⟨segment, path, _, _, split⟩ := mem_behindKey_iff.mp behind
  rw [split]
  exact List.cons_ne_nil segment path

/-- The leaves met in the value at a path are the located ones, each at the key of its path. -/
theorem filterMap_leaf?_walk (path : List String) (value : Yaml.Value) :
    (walk path value).filterMap Met.leaf? =
      (located value).map fun leaf => (pathKey (path ++ leaf.1), leaf.2) := by
  induction value using valueInduction generalizing path with
  | scalar value text scalar =>
      rw [located_of_isScalar scalar]
      cases scalar <;> simp [walk, Met.leaf?, scalarText?, Text.boolWord]
  | sequence items =>
      rw [walk, List.filterMap_append, filterMap_leaf?_items, located]
      cases found : items.mapM scalarText? <;> simp [Met.leaf?, found]
  | mapping entries ih =>
      rw [walk, located]
      induction entries with
      | nil => rfl
      | cons entry entries others =>
          obtain ⟨inside, outside⟩ := List.forall_mem_cons.mp ih
          -- The key itself is no leaf; what is met behind it goes by the hypothesis for its value.
          rw [walkEntries, List.cons_append, List.filterMap_cons_none rfl, List.filterMap_append,
            locatedIn, List.map_append, ← others outside, behindKey]
          cases found : scalarText? entry.1 with
          | none => rfl
          | some segment => simp [inside (path ++ [segment])]
  | tagged tag value ih => exact ih path

/-! ### Keys of paths -/

theorem toList_joined (separator : String) (texts : List String) :
    (Text.joined separator texts).toList =
      separator.toList.intercalate (texts.map String.toList) := by
  rw [Text.joined_eq_intercalate, String.toList_intercalate]

/-- Segments without dots can be told from the text in which dots join them. -/
theorem joined_inj {first second : List String} (some_first : first ≠ [])
    (some_second : second ≠ []) (plain_first : ∀ segment ∈ first, '.' ∉ segment.toList)
    (plain_second : ∀ segment ∈ second, '.' ∉ segment.toList) :
    Text.joined "." first = Text.joined "." second ↔ first = second := by
  have split : ∀ {segments : List String}, segments ≠ [] →
      (∀ segment ∈ segments, '.' ∉ segment.toList) →
        (Text.joined "." segments).toList.splitOn '.' = segments.map String.toList := by
    intro segments some_segment plain
    rw [toList_joined]
    refine List.splitOn_intercalate '.' (fun part among => ?_) (by simpa using some_segment)
    obtain ⟨segment, member, rfl⟩ := List.mem_map.mp among
    exact plain segment member
  refine ⟨fun same => ?_, fun same => same ▸ rfl⟩
  have parts := (split some_first plain_first).symm.trans (same ▸ split some_second plain_second)
  exact List.map_injective_iff.mpr (fun _ _ => String.toList_inj.mp) parts

/-- No segment is left out of the key where the first one is not empty. -/
theorem pathKey_cons_of_ne_empty {segment : String} (filled : segment ≠ "") (path : List String) :
    pathKey (segment :: path) = Text.joined "." (segment :: path) := by
  rw [pathKey, List.dropWhile_cons_of_neg (by simpa using filled)]

/-! ### Values that flatten -/

/-- Every key met in the value is a scalar, and so is every item of a sequence met. -/
inductive Flattens : Yaml.Value → Prop
  | scalar {value : Yaml.Value} {text : String} : IsScalar value text → Flattens value
  | sequence {items : List Yaml.Value} :
    (∀ item ∈ items, ∃ text, IsScalar item text) → Flattens (.sequence items)
  | mapping {entries : List (Yaml.Value × Yaml.Value)} :
    (∀ entry ∈ entries, ∃ segment, IsScalar entry.1 segment) →
      (∀ entry ∈ entries, Flattens entry.2) → Flattens (.mapping entries)
  | tagged {tag : String} {value : Yaml.Value} : Flattens value → Flattens (.tagged tag value)

theorem flattens_sequence_iff {items : List Yaml.Value} :
    Flattens (.sequence items) ↔ ∀ item ∈ items, ∃ text, IsScalar item text := by
  constructor
  · intro flattens
    cases flattens with
    | scalar scalar => cases scalar
    | sequence scalars => exact scalars
  · exact Flattens.sequence

theorem flattens_mapping_iff {entries : List (Yaml.Value × Yaml.Value)} :
    Flattens (.mapping entries) ↔
      ∀ entry ∈ entries, (∃ segment, IsScalar entry.1 segment) ∧ Flattens entry.2 := by
  constructor
  · intro flattens entry member
    cases flattens with
    | scalar scalar => cases scalar
    | mapping keys inside => exact ⟨keys entry member, inside entry member⟩
  · intro each
    exact .mapping (fun entry member => (each entry member).1) fun entry member =>
      (each entry member).2

theorem flattens_tagged_iff {tag : String} {value : Yaml.Value} :
    Flattens (.tagged tag value) ↔ Flattens value := by
  constructor
  · intro flattens
    cases flattens with
    | scalar scalar => cases scalar
    | tagged flattens => exact flattens
  · exact Flattens.tagged

theorem mem_walkEntries_iff {path : List String} {entries : List (Yaml.Value × Yaml.Value)}
    {m : Met} :
    m ∈ walkEntries path entries ↔
      ∃ entry ∈ entries, m = .key path entry.1 ∨
        ∃ segment, IsScalar entry.1 segment ∧ m ∈ walk (path ++ [segment]) entry.2 := by
  induction entries with
  | nil => simp [walkEntries]
  | cons entry entries ih =>
      rw [walkEntries, List.cons_append, List.mem_cons, List.mem_append, ih,
        List.exists_mem_cons_iff, or_assoc]
      refine or_congr_right (or_congr_left ?_)
      simp only [← scalarText?_eq_some_iff]
      cases scalarText? entry.1 <;> simp

/-- Nothing met in a value offends, whatever path leads to it, exactly if the value flattens. -/
theorem forall_not_offends_iff_flattens (path : List String) {value : Yaml.Value} :
    (∀ m ∈ walk path value, ∀ cause, ¬ m.Offends cause) ↔ Flattens value := by
  constructor
  · intro clean
    induction value using valueInduction generalizing path with
    | scalar value text scalar => exact .scalar scalar
    | sequence items =>
        apply Flattens.sequence
        intro item member
        by_contra no_scalar
        have met : .item path item ∈ walk path (.sequence items) :=
          List.mem_append_left _ (List.mem_map_of_mem member)
        exact clean _ met _ (.item (not_exists.mp no_scalar))
    | mapping entries ih =>
        have key : ∀ entry ∈ entries, ∃ segment, IsScalar entry.1 segment := by
          intro entry member
          by_contra no_scalar
          have met : .key path entry.1 ∈ walkEntries path entries :=
            mem_walkEntries_iff.mpr ⟨entry, member, .inl rfl⟩
          exact clean _ met _ (.key (not_exists.mp no_scalar))
        apply Flattens.mapping key
        intro entry member
        obtain ⟨segment, scalar⟩ := key entry member
        apply ih entry member (path ++ [segment])
        intro m met
        apply clean m
        exact mem_walkEntries_iff.mpr ⟨entry, member, .inr ⟨segment, scalar, met⟩⟩
    | tagged tag value ih => exact .tagged (ih path clean)
  · intro flattens
    induction flattens generalizing path with
    | scalar scalar =>
        intro m met cause offends
        cases scalar <;> cases List.mem_singleton.mp met <;> cases offends
    | sequence scalars =>
        intro m met cause offends
        rcases List.mem_append.mp met with inside | whole
        · obtain ⟨item, member, rfl⟩ := List.mem_map.mp inside
          obtain ⟨text, scalar⟩ := scalars item member
          cases offends with
          | item no_scalar => exact no_scalar text scalar
        · cases List.mem_singleton.mp whole
          cases offends
    | mapping keys _ ih =>
        intro m met cause offends
        obtain ⟨entry, member, rfl | ⟨segment, _, inside⟩⟩ := mem_walkEntries_iff.mp met
        · obtain ⟨segment, scalar⟩ := keys entry member
          cases offends with
          | key no_scalar => exact no_scalar segment scalar
        · exact ih entry member (path ++ [segment]) m inside cause offends
    | tagged _ ih => exact ih path

/-! ### Settings of a mapping -/

/-- The key and the text of a leaf. -/
def keyed (leaf : List String × String) : String × String :=
  (pathKey leaf.1, leaf.2)

/-- A mapping has settings exactly if it flattens: those of its leaves, in document order. -/
theorem ofValue_eq_ok_iff_flattens {entries : List (Yaml.Value × Yaml.Value)} {s : Settings} :
    ofValue (.mapping entries) = .ok s ↔
      Flattens (.mapping entries) ∧ s = ofList ((located (.mapping entries)).map keyed) := by
  have leaves := filterMap_leaf?_walk [] (.mapping entries)
  have clean := @forall_not_offends_iff_flattens [] (.mapping entries)
  rw [walk] at leaves clean
  rw [ofValue_mapping_eq_ok_iff, leaves, clean]
  rfl

end StoreBench.Settings
