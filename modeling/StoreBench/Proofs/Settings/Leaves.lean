/-
What flattening meets in a document and what it makes of it.

* `IsScalar` gives the scalars without a tag and their texts, `pathKey` the key at the end of a path
  of segments.
* `walk` lists everything met in a value, depth first and in document order, faults and all.
* `Met.Offends` and `Met.IsLeaf` say which of it is a fault and which is a leaf.
* `ofValue_eq_last_leaves` says that the first fault met decides, and that without one the settings
  are those of the leaves, the last leaf of a key counting.
-/

import Mathlib.Data.List.Forall2
import Mathlib.Data.List.TakeWhile
import StoreBench.Proofs.Settings.Writing
import StoreBench.Settings.Flatten

namespace StoreBench.Settings

/-! ### Scalars -/

/-- The value is a scalar without a tag and has the text. -/
inductive IsScalar : Yaml.Value → String → Prop
  | null : IsScalar .null ""
  | yes : IsScalar (.bool true) "true"
  | no : IsScalar (.bool false) "false"
  | number {n : Yaml.Number} : IsScalar (.number n) n.text
  | text {s : String} : IsScalar (.text s) s

theorem scalarText?_eq_some_iff {value : Yaml.Value} {text : String} :
    scalarText? value = some text ↔ IsScalar value text := by
  constructor
  · intro found
    cases value with
    | bool b =>
        cases b
        · cases found
          exact .no
        · cases found
          exact .yes
    | sequence items => cases found
    | mapping entries => cases found
    | tagged tag value => cases found
    | _ =>
        cases found
        constructor
  · intro scalar
    cases scalar <;> rfl

theorem scalarText?_eq_none_iff {value : Yaml.Value} :
    scalarText? value = none ↔ ∀ text, ¬ IsScalar value text := by
  simp only [Option.eq_none_iff_forall_ne_some, ne_eq, scalarText?_eq_some_iff]

theorem mapM_scalarText?_eq_some_iff {items : List Yaml.Value} {texts : List String} :
    items.mapM scalarText? = some texts ↔ List.Forall₂ IsScalar items texts := by
  induction items generalizing texts with
  | nil => cases texts <;> simp
  | cons item items ih =>
      simp only [List.mapM_cons, Option.bind_eq_bind, Option.bind_eq_some_iff,
        scalarText?_eq_some_iff, ih, Option.pure_def, Option.some.injEq,
        List.forall₂_cons_left_iff]
      constructor
      · rintro ⟨text, scalar, others, scalars, rfl⟩
        exact ⟨text, others, scalar, scalars, rfl⟩
      · rintro ⟨text, others, scalar, scalars, rfl⟩
        exact ⟨text, scalar, others, scalars, rfl⟩

/-! ### Keys of paths -/

/-- The key at the end of a path: its segments joined by dots, empty ones in front left out. -/
def pathKey (path : List String) : String :=
  Text.joined "." (path.dropWhile (· == ""))

theorem keyBelow_pathKey (path : List String) (segment : String) :
    keyBelow (pathKey path) segment = pathKey (path ++ [segment]) := by
  unfold pathKey keyBelow
  cases kept : path.dropWhile (· == "") with
  | nil =>
      rw [List.dropWhile_append, kept]
      by_cases blank : segment = ""
      · simp [Text.joined, blank]
      · simp [Text.joined, blank]
  | cons first others =>
      -- A segment with text is above, so the key above is not empty and a dot joins the new one.
      have filled : first ≠ "" := by
        have := List.head?_dropWhile_not (· == "") path
        rw [kept] at this
        simpa using this
      have above := Text.joined_cons_ne_empty "." filled others
      rw [List.dropWhile_append, kept]
      simp only [List.isEmpty_cons, Bool.false_eq_true, if_false, beq_iff_eq, above]
      rw [Text.joined_concat "." (List.cons_ne_nil first others)]

/-! ### What is met -/

/-- Something that flattening meets in a document; the segments of the path lead there. -/
inductive Met
  /-- The key of an entry of the mapping at the path. -/
  | key (path : List String) (value : Yaml.Value)
  /-- An item of the sequence at the path. -/
  | item (path : List String) (value : Yaml.Value)
  | scalar (path : List String) (value : Yaml.Value)
  /-- A whole sequence, behind its items. -/
  | sequence (path : List String) (items : List Yaml.Value)

mutual

/-- All that is met in the value at the path, depth first and in document order. The tag of a value
is passed over, nothing inside an item is met, and nothing behind a key that is no segment. -/
def walk (path : List String) : Yaml.Value → List Met
  | .null => [.scalar path .null]
  | .bool b => [.scalar path (.bool b)]
  | .number n => [.scalar path (.number n)]
  | .text s => [.scalar path (.text s)]
  | .sequence items => items.map (.item path) ++ [.sequence path items]
  | .mapping entries => walkEntries path entries
  | .tagged _ value => walk path value

/-- All that is met in the entries of the mapping at the path. -/
def walkEntries (path : List String) : List (Yaml.Value × Yaml.Value) → List Met
  | [] => []
  | (key, value) :: entries =>
    .key path key ::
      (match scalarText? key with
      | some segment => walk (path ++ [segment]) value
      | none => []) ++ walkEntries path entries

end

namespace Met

/-- What is met must not be there, for the cause: a key or an item that is no scalar. -/
inductive Offends : Met → Misconfiguration → Prop
  | key {path : List String} {value : Yaml.Value} :
    (∀ text, ¬ IsScalar value text) → Offends (.key path value) (.unsupportedKey (pathKey path))
  | item {path : List String} {value : Yaml.Value} :
    (∀ text, ¬ IsScalar value text) → Offends (.item path value) (.nestedList (pathKey path))

/-- What is met is a leaf with the key and the text: a scalar, or a sequence of scalars. -/
inductive IsLeaf : Met → String → String → Prop
  | scalar {path : List String} {value : Yaml.Value} {text : String} :
    IsScalar value text → IsLeaf (.scalar path value) (pathKey path) text
  | sequence {path : List String} {items : List Yaml.Value} {texts : List String} :
    List.Forall₂ IsScalar items texts →
      IsLeaf (.sequence path items) (pathKey path) (Text.joined "," texts)

/-- The cause why what is met must not be there. -/
def cause? : Met → Option Misconfiguration
  | .key path value =>
    match scalarText? value with
    | some _ => none
    | none => some (.unsupportedKey (pathKey path))
  | .item path value =>
    match scalarText? value with
    | some _ => none
    | none => some (.nestedList (pathKey path))
  | .scalar _ _ => none
  | .sequence _ _ => none

/-- The key and the text of a leaf. -/
def leaf? : Met → Option (String × String)
  | .key _ _ => none
  | .item _ _ => none
  | .scalar path value => (scalarText? value).map fun text => (pathKey path, text)
  | .sequence path items =>
    (items.mapM scalarText?).map fun texts => (pathKey path, Text.joined "," texts)

theorem cause?_eq_some_iff {m : Met} {cause : Misconfiguration} :
    m.cause? = some cause ↔ m.Offends cause := by
  constructor
  · intro found
    cases m with
    | key path value =>
        simp only [cause?] at found
        split at found
        · cases found
        · rename_i no_text
          cases found
          exact .key (scalarText?_eq_none_iff.mp no_text)
    | item path value =>
        simp only [cause?] at found
        split at found
        · cases found
        · rename_i no_text
          cases found
          exact .item (scalarText?_eq_none_iff.mp no_text)
    | scalar path value => cases found
    | sequence path items => cases found
  · rintro (no_scalar | no_scalar)
    · simp [cause?, scalarText?_eq_none_iff.mpr no_scalar]
    · simp [cause?, scalarText?_eq_none_iff.mpr no_scalar]

theorem leaf?_eq_some_iff {m : Met} {key text : String} :
    m.leaf? = some (key, text) ↔ m.IsLeaf key text := by
  constructor
  · intro found
    cases m with
    | key path value => cases found
    | item path value => cases found
    | scalar path value =>
        obtain ⟨text, scalar, same⟩ := Option.map_eq_some_iff.mp found
        cases same
        exact .scalar (scalarText?_eq_some_iff.mp scalar)
    | sequence path items =>
        obtain ⟨texts, scalars, same⟩ := Option.map_eq_some_iff.mp found
        cases same
        exact .sequence (mapM_scalarText?_eq_some_iff.mp scalars)
  · rintro (scalar | scalars)
    · simp [leaf?, scalarText?_eq_some_iff.mpr scalar]
    · simp [leaf?, mapM_scalarText?_eq_some_iff.mpr scalars]

end Met

/-! ### Gathering leaves -/

/-- What comes of a list of things met: the first cause among them, or else the leaves. -/
def gathered (ms : List Met) : Except Fault (List (String × String)) :=
  match ms.findSome? Met.cause? with
  | some cause => .error (.configuration cause)
  | none => .ok (ms.filterMap Met.leaf?)

theorem gathered_append (ms ns : List Met) :
    gathered (ms ++ ns) = do
      let first ← gathered ms
      let others ← gathered ns
      return first ++ others := by
  unfold gathered
  rw [List.findSome?_append, List.filterMap_append]
  cases ms.findSome? Met.cause? with
  | some cause => rfl
  | none => cases ns.findSome? Met.cause? <;> rfl

theorem gathered_key {path : List String} {key : Yaml.Value} {segment : String}
    (h : scalarText? key = some segment) (ms : List Met) :
    gathered (.key path key :: ms) = gathered ms := by
  simp only [gathered, List.findSome?_cons, List.filterMap_cons, Met.cause?, Met.leaf?, h]

theorem findSome?_cause?_items (path : List String) (items : List Yaml.Value) :
    (items.map (.item path)).findSome? Met.cause? =
      match items.mapM scalarText? with
      | some _ => none
      | none => some (.nestedList (pathKey path)) := by
  induction items with
  | nil => rfl
  | cons item items ih =>
      rw [List.map_cons, List.findSome?_cons, List.mapM_cons, ih]
      cases found : scalarText? item with
      | none => simp [Met.cause?, found]
      | some text => cases items.mapM scalarText? <;> simp [Met.cause?, found]

theorem filterMap_leaf?_items (path : List String) (items : List Yaml.Value) :
    (items.map (.item path)).filterMap Met.leaf? = [] := by
  rw [List.filterMap_map, List.filterMap_eq_nil_iff]
  exact fun _ _ => rfl

theorem itemTexts_eq_mapM (key : String) (items : List Yaml.Value) :
    itemTexts key items =
      match items.mapM scalarText? with
      | some texts => .ok texts
      | none => .error (.configuration (.nestedList key)) := by
  induction items with
  | nil => rfl
  | cons item items ih =>
      rw [itemTexts, List.mapM_cons, ih]
      cases scalarText? item with
      | none => rfl
      | some text => cases items.mapM scalarText? <;> rfl

theorem gathered_items (path : List String) (items : List Yaml.Value) :
    gathered (items.map (.item path) ++ [.sequence path items]) =
      (itemTexts (pathKey path) items).map fun texts =>
        [(pathKey path, Text.joined "," texts)] := by
  rw [gathered, List.findSome?_append, findSome?_cause?_items, List.filterMap_append,
    filterMap_leaf?_items, itemTexts_eq_mapM]
  cases found : items.mapM scalarText? with
  | none => rfl
  | some texts => simp [Met.cause?, Met.leaf?, found, Except.map]

mutual

/-- The leaves of the value at a path are gathered from all that is met in it. -/
theorem leaves_eq_gathered (path : List String) :
    ∀ value, leaves (pathKey path) value = gathered (walk path value)
  | .null => rfl
  | .bool b => rfl
  | .number n => rfl
  | .text s => rfl
  | .sequence items => by
      rw [leaves, walk, gathered_items]
  | .mapping entries => by
      rw [leaves, walk, entryLeaves_eq_gathered path entries]
  | .tagged tag value => by
      rw [leaves, walk, leaves_eq_gathered path value]

/-- The leaves of the entries at a path are gathered from all that is met in them. -/
theorem entryLeaves_eq_gathered (path : List String) :
    ∀ entries, entryLeaves (pathKey path) entries = gathered (walkEntries path entries)
  | [] => rfl
  | (key, value) :: entries => by
      rw [entryLeaves, walkEntries]
      cases segment : scalarText? key with
      | none => simp [gathered, Met.cause?, segment]
      | some text =>
          -- The key is no fault and no leaf; the value below it comes before the other entries.
          rw [List.cons_append, gathered_key segment, gathered_append]
          simp only [keyBelow_pathKey]
          rw [leaves_eq_gathered (path ++ [text]) value, entryLeaves_eq_gathered path entries]

end

/-! ### Faults and leaves -/

theorem gathered_eq_error {before after : List Met} {m : Met} {cause : Misconfiguration}
    (offends : m.Offends cause) (first : ∀ b ∈ before, ∀ c, ¬ b.Offends c) :
    gathered (before ++ m :: after) = .error (.configuration cause) := by
  have found : (before ++ m :: after).findSome? Met.cause? = some cause := by
    rw [List.findSome?_eq_some_iff]
    refine ⟨before, m, after, rfl, Met.cause?_eq_some_iff.mpr offends, fun b member => ?_⟩
    rw [Option.eq_none_iff_forall_ne_some]
    exact fun c found => first b member c (Met.cause?_eq_some_iff.mp found)
  rw [gathered, found]

theorem gathered_eq_ok_iff {ms : List Met} {pairs : List (String × String)} :
    gathered ms = .ok pairs ↔
      (∀ m ∈ ms, ∀ cause, ¬ m.Offends cause) ∧ pairs = ms.filterMap Met.leaf? := by
  have no_cause : ms.findSome? Met.cause? = none ↔ ∀ m ∈ ms, ∀ cause, ¬ m.Offends cause := by
    rw [List.findSome?_eq_none_iff]
    simp only [Option.eq_none_iff_forall_ne_some, ne_eq, Met.cause?_eq_some_iff]
  rw [← no_cause, gathered]
  cases ms.findSome? Met.cause? with
  | some cause => simp
  | none => simp [eq_comm]

/-! ### The last text of a key -/

/-- Among the settings of the leaves a key has the text of the last leaf with that key. -/
theorem get?_ofList_leaves_eq_some_iff {ms : List Met} {key text : String} :
    (ofList (ms.filterMap Met.leaf?)).get? key = some text ↔
      ∃ before m after, ms = before ++ m :: after ∧ m.IsLeaf key text ∧
        ∀ a ∈ after, ∀ t, ¬ a.IsLeaf key t := by
  rw [get?_ofList_eq_some_iff]
  constructor
  · rintro ⟨before, after, split, others⟩
    obtain ⟨front, rest, rfl, -, leaves_rest⟩ := List.filterMap_eq_append_iff.mp split
    obtain ⟨skipped, m, behind, rfl, -, leaf, rfl⟩ := List.filterMap_eq_cons_iff.mp leaves_rest
    refine ⟨front ++ skipped, m, behind, by simp, Met.leaf?_eq_some_iff.mp leaf, ?_⟩
    intro a member t is_leaf
    have member_leaves : (key, t) ∈ behind.filterMap Met.leaf? :=
      List.mem_filterMap.mpr ⟨a, member, Met.leaf?_eq_some_iff.mpr is_leaf⟩
    exact others (key, t) member_leaves rfl
  · rintro ⟨before, m, after, rfl, is_leaf, others⟩
    refine ⟨before.filterMap Met.leaf?, after.filterMap Met.leaf?, ?_, ?_⟩
    · rw [List.filterMap_append, List.filterMap_cons, Met.leaf?_eq_some_iff.mpr is_leaf]
    · rintro ⟨k, t⟩ member rfl
      obtain ⟨a, member, leaf⟩ := List.mem_filterMap.mp member
      exact others a member t (Met.leaf?_eq_some_iff.mp leaf)

/-! ### Settings of a document -/

theorem ofValue_mapping (entries : List (Yaml.Value × Yaml.Value)) :
    ofValue (.mapping entries) = (gathered (walkEntries [] entries)).map ofList := by
  rw [ofValue, ← entryLeaves_eq_gathered]
  rfl

theorem ofValue_mapping_eq_ok_iff {entries : List (Yaml.Value × Yaml.Value)} {s : Settings} :
    ofValue (.mapping entries) = .ok s ↔
      (∀ m ∈ walkEntries [] entries, ∀ cause, ¬ m.Offends cause) ∧
        s = ofList ((walkEntries [] entries).filterMap Met.leaf?) := by
  rw [ofValue_mapping]
  constructor
  · intro read
    cases collected : gathered (walkEntries [] entries) with
    | error fault =>
        rw [collected] at read
        cases read
    | ok pairs =>
        rw [collected] at read
        cases read
        obtain ⟨clean, rfl⟩ := gathered_eq_ok_iff.mp collected
        exact ⟨clean, rfl⟩
  · rintro ⟨clean, rfl⟩
    rw [gathered_eq_ok_iff.mpr ⟨clean, rfl⟩]
    rfl

/-- Flattening a document. A mapping has settings exactly if no key and no item met in it offends;
otherwise the first offender decides the fault. The settings hold the last text of each key among
the leaves. Nothing has no settings to give, and any other value is refused. -/
theorem ofValue_eq_last_leaves (entries : List (Yaml.Value × Yaml.Value)) :
    ((∃ s, ofValue (.mapping entries) = .ok s) ↔
        ∀ m ∈ walkEntries [] entries, ∀ cause, ¬ m.Offends cause) ∧
      (∀ before m after cause, walkEntries [] entries = before ++ m :: after →
        (∀ b ∈ before, ∀ c, ¬ b.Offends c) → m.Offends cause →
          ofValue (.mapping entries) = .error (.configuration cause)) ∧
      (∀ s, ofValue (.mapping entries) = .ok s → ∀ key text, s.get? key = some text ↔
        ∃ before m after, walkEntries [] entries = before ++ m :: after ∧
          m.IsLeaf key text ∧ ∀ a ∈ after, ∀ t, ¬ a.IsLeaf key t) ∧
      (∀ key segment, scalarText? key = some segment ↔ IsScalar key segment) ∧
      ofValue .null = .ok .empty ∧
      ∀ value, value ≠ .null → (∀ others, value ≠ .mapping others) →
        ofValue value = .error (.configuration (.notMapping value.describe)) := by
  refine ⟨⟨?_, ?_⟩, ?_, ?_, fun _ _ => scalarText?_eq_some_iff, rfl, ?_⟩
  · rintro ⟨s, read⟩
    exact (ofValue_mapping_eq_ok_iff.mp read).1
  · intro clean
    exact ⟨_, ofValue_mapping_eq_ok_iff.mpr ⟨clean, rfl⟩⟩
  · intro before m after cause split first offends
    rw [ofValue_mapping, split, gathered_eq_error offends first]
    rfl
  · intro s read key text
    rw [(ofValue_mapping_eq_ok_iff.mp read).2]
    exact get?_ofList_leaves_eq_some_iff
  · intro value not_null not_mapping
    cases value with
    | null => exact absurd rfl not_null
    | mapping others => exact absurd rfl (not_mapping others)
    | _ => rfl

-- Two ways to one key: the later leaf counts.
example : (ofValue (.mapping [(.text "a", .mapping [(.text "b", .text "1")]),
    (.text "a.b", .sequence [.bool true, .null])])).map (·.get? "a.b") = .ok (some "true,") := by cbv

end StoreBench.Settings
