/-
Which tags of a document its settings depend on.

* `bare` takes away the tags of a value, of the values of mappings and of the items of sequences in
  it, at any depth. The keys of mappings stay as they are.
* `HasTaggedItem` says that a sequence in the value, not one inside another, has an item with a tag.
* `ofValue_bare_iff` says that the tags of a document do not matter exactly if it is refused without
  them, or neither its root nor an item has one: those in front of values of mappings never do.
* `rootTag_and_itemTag_refused` are a document of each kind that is refused for its tag.
-/

import StoreBench.Proofs.Settings.Located

namespace StoreBench.Settings

/-! ### Values without tags -/

mutual

/-- The value without its tags and those inside it. -/
def bare : Yaml.Value → Yaml.Value
  | .sequence items => .sequence (bareItems items)
  | .mapping entries => .mapping (bareEntries entries)
  | .tagged _ value => bare value
  | scalar => scalar

def bareItems : List Yaml.Value → List Yaml.Value
  | [] => []
  | item :: items => bare item :: bareItems items

def bareEntries : List (Yaml.Value × Yaml.Value) → List (Yaml.Value × Yaml.Value)
  | [] => []
  | (key, value) :: entries => (key, bare value) :: bareEntries entries

end

def IsTagged (value : Yaml.Value) : Prop :=
  ∃ tag inner, value = .tagged tag inner

/-- A sequence that is reached through values of mappings has an item with a tag. -/
inductive HasTaggedItem : Yaml.Value → Prop
  | item {items : List Yaml.Value} {item : Yaml.Value} :
    item ∈ items → IsTagged item → HasTaggedItem (.sequence items)
  | entry {entries : List (Yaml.Value × Yaml.Value)} {entry : Yaml.Value × Yaml.Value} :
    entry ∈ entries → HasTaggedItem entry.2 → HasTaggedItem (.mapping entries)
  | tagged {tag : String} {value : Yaml.Value} :
    HasTaggedItem value → HasTaggedItem (.tagged tag value)

theorem bareItems_eq_map (items : List Yaml.Value) : bareItems items = items.map bare := by
  induction items with
  | nil => rfl
  | cons item items ih => rw [bareItems, List.map_cons, ih]

theorem bareEntries_eq_map (entries : List (Yaml.Value × Yaml.Value)) :
    bareEntries entries = entries.map fun entry => (entry.1, bare entry.2) := by
  induction entries with
  | nil => rfl
  | cons entry entries ih => rw [bareEntries, List.map_cons, ih]

theorem bare_of_isScalar {value : Yaml.Value} {text : String} (scalar : IsScalar value text) :
    bare value = value := by
  cases scalar <;> rfl

/-- What is left of an item without a tag has the same text, or none as before. -/
theorem scalarText?_bare {value : Yaml.Value} (not_tagged : ¬ IsTagged value) :
    scalarText? (bare value) = scalarText? value := by
  cases value with
  | tagged tag inner => exact absurd ⟨tag, inner, rfl⟩ not_tagged
  | sequence items => rfl
  | mapping entries => rfl
  | _ => rfl

theorem mapM_scalarText?_bare {items : List Yaml.Value}
    (not_tagged : ∀ item ∈ items, ¬ IsTagged item) :
    (items.map bare).mapM scalarText? = items.mapM scalarText? := by
  induction items with
  | nil => rfl
  | cons item items ih =>
      obtain ⟨first, others⟩ := List.forall_mem_cons.mp not_tagged
      rw [List.map_cons, List.mapM_cons, List.mapM_cons, scalarText?_bare first, ih others]

/-! ### Flattening without tags -/

/-- Where items of sequences have tags, nothing flattens. -/
theorem Flattens.not_hasTaggedItem {value : Yaml.Value} (flattens : Flattens value) :
    ¬ HasTaggedItem value := by
  intro tagged
  induction tagged with
  | item member tagged =>
      obtain ⟨tag, inner, rfl⟩ := tagged
      obtain ⟨text, scalar⟩ := flattens_sequence_iff.mp flattens _ member
      cases scalar
  | entry member _ ih => exact ih (flattens_mapping_iff.mp flattens _ member).2
  | tagged _ ih => exact ih (flattens_tagged_iff.mp flattens)

theorem flattens_bare_iff {value : Yaml.Value} (plain : ¬ HasTaggedItem value) :
    Flattens (bare value) ↔ Flattens value := by
  induction value using valueInduction with
  | scalar value text scalar => rw [bare_of_isScalar scalar]
  | sequence items =>
      rw [bare, bareItems_eq_map, flattens_sequence_iff, flattens_sequence_iff, List.forall_mem_map]
      refine forall₂_congr fun item member => ?_
      have not_tagged : ¬ IsTagged item := fun tagged => plain (.item member tagged)
      simp only [← scalarText?_eq_some_iff, scalarText?_bare not_tagged]
  | mapping entries ih =>
      rw [bare, bareEntries_eq_map, flattens_mapping_iff, flattens_mapping_iff, List.forall_mem_map]
      refine forall₂_congr fun entry member => and_congr_right' ?_
      exact ih entry member fun tagged => plain (.entry member tagged)
  | tagged tag value ih =>
      rw [bare, flattens_tagged_iff]
      exact ih fun tagged => plain (.tagged tagged)

/-- Taking tags away from values of mappings leaves the leaves as they are. -/
theorem located_bare {value : Yaml.Value} (plain : ¬ HasTaggedItem value) :
    located (bare value) = located value := by
  induction value using valueInduction with
  | scalar value text scalar => rw [bare_of_isScalar scalar]
  | sequence items =>
      have not_tagged : ∀ item ∈ items, ¬ IsTagged item := by
        intro item member tagged
        exact plain (.item member tagged)
      rw [bare, bareItems_eq_map, located, mapM_scalarText?_bare not_tagged, located]
  | mapping entries ih =>
      rw [bare, bareEntries_eq_map, located_mapping, located_mapping, List.flatMap_map]
      refine List.flatMap_congr fun entry member => ?_
      rw [ih entry member fun tagged => plain (.entry member tagged)]
  | tagged tag value ih => exact ih fun tagged => plain (.tagged tagged)

/-! ### Settings without tags -/

/-- A document that has settings has no tag at its root, and none in front of an item. -/
theorem not_tagged_of_ofValue {value : Yaml.Value} {s : Settings} (read : ofValue value = .ok s) :
    ¬ IsTagged value ∧ ¬ HasTaggedItem value := by
  constructor
  · rintro ⟨tag, inner, rfl⟩
    cases read
  · intro tagged
    cases tagged with
    | item member _ => cases read
    | entry member inside =>
        have flattens := (ofValue_eq_ok_iff_flattens.mp read).1
        exact flattens.not_hasTaggedItem (.entry member inside)
    | tagged _ => cases read

theorem ofValue_bare_of_plain {value : Yaml.Value} (not_tagged : ¬ IsTagged value)
    (plain : ¬ HasTaggedItem value) (s : Settings) :
    ofValue value = .ok s ↔ ofValue (bare value) = .ok s := by
  cases value with
  | tagged tag inner => exact absurd ⟨tag, inner, rfl⟩ not_tagged
  | mapping entries =>
      have flattens := flattens_bare_iff plain
      have leaves := located_bare plain
      rw [bare] at flattens leaves ⊢
      rw [ofValue_eq_ok_iff_flattens, ofValue_eq_ok_iff_flattens, flattens, leaves]
  | sequence items =>
      -- Both are refused, though the messages may show different items.
      constructor
      · intro read
        cases read
      · intro read
        cases read
  | _ => rfl

/-- The tags at the root, in front of values of mappings and in front of items do not matter to the
settings of a document, or to whether it has any, exactly if it has none without them either, or
neither its root nor an item has a tag. -/
theorem ofValue_bare_iff (value : Yaml.Value) :
    (∀ s, ofValue value = .ok s ↔ ofValue (bare value) = .ok s) ↔
      (∀ s, ofValue (bare value) ≠ .ok s) ∨ ¬ IsTagged value ∧ ¬ HasTaggedItem value := by
  constructor
  · intro same
    by_cases refused : ∀ s, ofValue (bare value) ≠ .ok s
    · exact .inl refused
    · obtain ⟨s, read⟩ := not_forall_not.mp refused
      exact .inr (not_tagged_of_ofValue ((same s).mpr read))
  · rintro (refused | ⟨not_tagged, plain⟩) s
    · constructor
      · intro read
        obtain ⟨not_tagged, plain⟩ := not_tagged_of_ofValue read
        exact (ofValue_bare_of_plain not_tagged plain s).mp read
      · intro read
        exact absurd read (refused s)
    · exact ofValue_bare_of_plain not_tagged plain s

/-- A tag in front of the whole document, and a tag in front of an item: either document is refused,
and has settings without the tag. -/
theorem rootTag_and_itemTag_refused :
    (∃ cause, ofValue (.tagged "!conf" (.mapping [(.text "a", .text "x")])) =
        .error (.configuration cause)) ∧
      ofValue (bare (.tagged "!conf" (.mapping [(.text "a", .text "x")]))) =
        .ok (ofList [("a", "x")]) ∧
      ofValue (.mapping [(.text "a", .sequence [.tagged "!t" (.text "x")])]) =
        .error (.configuration (.nestedList "a")) ∧
      ofValue (bare (.mapping [(.text "a", .sequence [.tagged "!t" (.text "x")])])) =
        .ok (ofList [("a", "x")]) :=
  ⟨⟨_, rfl⟩, rfl, rfl, rfl⟩

end StoreBench.Settings
