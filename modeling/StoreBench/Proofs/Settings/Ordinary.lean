/-
Ordinary documents: every key is a text without dots, no key comes twice in one mapping, and every
leaf is a scalar or a list of scalars.

* `Ordinary` says so of a value, `Reordered` relates values that differ in the order of entries.
* `distinct_keys_of_ordinary` says that no two leaves of an ordinary mapping have one key.
* `ofValue_of_ordinary` says that such a mapping flattens to exactly its leaves, in whatever order
  the entries of its mappings stand.
-/

import StoreBench.Proofs.Settings.Located

namespace StoreBench.Settings

/-! ### Ordinary values -/

/-- The key of an entry is a text, not empty and without dots. -/
def IsPlainKey (key : Yaml.Value) : Prop :=
  ∃ segment, key = .text segment ∧ segment ≠ "" ∧ '.' ∉ segment.toList

/-- The keys of all mappings in the value are plain and come once in each mapping, and every leaf is
a scalar or a sequence of scalars. The tag of a value of a mapping does not matter. -/
inductive Ordinary : Yaml.Value → Prop
  | scalar {value : Yaml.Value} {text : String} : IsScalar value text → Ordinary value
  | sequence {items : List Yaml.Value} :
    (∀ item ∈ items, ∃ text, IsScalar item text) → Ordinary (.sequence items)
  | mapping {entries : List (Yaml.Value × Yaml.Value)} :
    (∀ entry ∈ entries, IsPlainKey entry.1) → (entries.map Prod.fst).Nodup →
      (∀ entry ∈ entries, Ordinary entry.2) → Ordinary (.mapping entries)
  | tagged {tag : String} {value : Yaml.Value} : Ordinary value → Ordinary (.tagged tag value)

/-- The values differ at most in the order of the entries of mappings, at any depth. -/
inductive Reordered : Yaml.Value → Yaml.Value → Prop
  | entries {entries others : List (Yaml.Value × Yaml.Value)} :
    entries.Perm others → Reordered (.mapping entries) (.mapping others)
  | inside {before after : List (Yaml.Value × Yaml.Value)} {key value other : Yaml.Value} :
    Reordered value other →
      Reordered (.mapping (before ++ (key, value) :: after))
        (.mapping (before ++ (key, other) :: after))
  | tagged {tag : String} {value other : Yaml.Value} :
    Reordered value other → Reordered (.tagged tag value) (.tagged tag other)
  | trans {first second third : Yaml.Value} :
    Reordered first second → Reordered second third → Reordered first third

theorem Ordinary.flattens {value : Yaml.Value} (ordinary : Ordinary value) : Flattens value := by
  induction ordinary with
  | scalar scalar => exact .scalar scalar
  | sequence scalars => exact .sequence scalars
  | mapping plain _ _ ih =>
      refine .mapping (fun entry member => ?_) ih
      obtain ⟨segment, same, -, -⟩ := plain entry member
      exact ⟨segment, same ▸ .text⟩
  | tagged _ ih => exact .tagged ih

/-! ### Paths in ordinary values -/

/-- All segments that lead to a leaf of an ordinary value are plain. -/
theorem plain_of_mem_located {value : Yaml.Value} (ordinary : Ordinary value)
    {leaf : List String × String} (member : leaf ∈ located value) :
    ∀ segment ∈ leaf.1, segment ≠ "" ∧ '.' ∉ segment.toList := by
  induction ordinary generalizing leaf with
  | scalar scalar =>
      rw [located_of_isScalar scalar, List.mem_singleton] at member
      simp [member]
  | sequence scalars =>
      rw [located, Option.mem_toList, Option.map_eq_some_iff] at member
      obtain ⟨texts, -, rfl⟩ := member
      simp
  | @mapping entries plain _ _ ih =>
      rw [located_mapping, List.mem_flatMap] at member
      obtain ⟨entry, among, behind⟩ := member
      obtain ⟨segment, path, scalar, inside, split⟩ := mem_behindKey_iff.mp behind
      obtain ⟨name, same, filled, no_dot⟩ := plain entry among
      rw [same] at scalar
      cases scalar
      rw [split]
      exact List.forall_mem_cons.mpr ⟨⟨filled, no_dot⟩, ih entry among inside⟩
  | tagged _ ih => exact ih member

/-- No path leads to two leaves of an ordinary value. -/
theorem distinct_paths_of_ordinary {value : Yaml.Value} (ordinary : Ordinary value) :
    (located value).Pairwise fun leaf other => leaf.1 ≠ other.1 := by
  induction ordinary with
  | scalar scalar =>
      rw [located_of_isScalar scalar]
      exact List.pairwise_singleton _ _
  | @sequence items _ =>
      rw [located]
      cases items.mapM scalarText? <;> simp
  | @mapping entries plain once _ ih =>
      rw [located_mapping, List.pairwise_flatMap]
      constructor
      · intro entry member
        obtain ⟨segment, same, -, -⟩ := plain entry member
        rw [behindKey_of_isScalar (same ▸ IsScalar.text), List.pairwise_map]
        exact (ih entry member).imp fun apart same => apart (List.cons.inj same).2
      · -- Leaves behind different keys differ in their first segment.
        refine (List.pairwise_map.mp once).imp_of_mem fun {entry other} among among' apart => ?_
        intro leaf member leaf' member' same
        obtain ⟨segment, path, scalar, -, split⟩ := mem_behindKey_iff.mp member
        obtain ⟨segment', path', scalar', -, split'⟩ := mem_behindKey_iff.mp member'
        rw [split, split', List.cons.injEq] at same
        obtain ⟨name, key, -, -⟩ := plain entry among
        obtain ⟨name', key', -, -⟩ := plain other among'
        rw [key] at scalar apart
        rw [key'] at scalar' apart
        cases scalar
        cases scalar'
        exact apart (congrArg Yaml.Value.text same.1)
  | tagged _ ih => exact ih

section Mapping

variable {entries : List (Yaml.Value × Yaml.Value)}

/-- A leaf of an ordinary mapping has the segments of its path for a key, all of them. -/
theorem keyed_of_ordinary (ordinary : Ordinary (.mapping entries)) {leaf : List String × String}
    (member : leaf ∈ located (.mapping entries)) :
    keyed leaf = (Text.joined "." leaf.1, leaf.2) := by
  have plain := plain_of_mem_located ordinary member
  have some_segment := path_ne_nil member
  rw [keyed]
  cases path : leaf.1 with
  | nil => exact absurd path some_segment
  | cons segment path' =>
      rw [path] at plain
      rw [pathKey_cons_of_ne_empty (plain segment List.mem_cons_self).1]

theorem distinct_keys_of_ordinary (ordinary : Ordinary (.mapping entries)) :
    ((located (.mapping entries)).map keyed).Pairwise fun p q => p.1 ≠ q.1 := by
  rw [List.pairwise_map]
  refine (distinct_paths_of_ordinary ordinary).imp_of_mem fun member member' apart same => ?_
  rw [keyed_of_ordinary ordinary member, keyed_of_ordinary ordinary member'] at same
  refine apart ((joined_inj (path_ne_nil member) (path_ne_nil member') ?_ ?_).mp same)
  · exact fun segment among => (plain_of_mem_located ordinary member segment among).2
  · exact fun segment among => (plain_of_mem_located ordinary member' segment among).2

/-- The settings of the leaves of an ordinary mapping have each leaf at its path, and nothing
else. -/
theorem get?_of_ordinary (ordinary : Ordinary (.mapping entries)) {key text : String} :
    (ofList ((located (.mapping entries)).map keyed)).get? key = some text ↔
      ∃ path, (path, text) ∈ located (.mapping entries) ∧ key = Text.joined "." path := by
  constructor
  · intro found
    obtain ⟨⟨path, text'⟩, member, same⟩ := List.mem_map.mp (mem_of_get?_ofList found)
    rw [keyed_of_ordinary ordinary member] at same
    cases same
    exact ⟨path, member, rfl⟩
  · rintro ⟨path, member, rfl⟩
    refine get?_ofList_of_mem (distinct_keys_of_ordinary ordinary) ?_
    exact List.mem_map.mpr ⟨(path, text), member, keyed_of_ordinary ordinary member⟩

end Mapping

/-! ### The order of entries -/

/-- Values that differ in the order of entries have the same leaves in another order. -/
theorem Reordered.located_perm {value other : Yaml.Value} (reordered : Reordered value other) :
    (located value).Perm (located other) := by
  induction reordered with
  | entries perm =>
      rw [located_mapping, located_mapping]
      exact perm.flatMap_right _
  | @inside before after key value other _ ih =>
      have behind : (behindKey key (located value)).Perm (behindKey key (located other)) := by
        unfold behindKey
        cases scalarText? key with
        | none => exact .refl []
        | some segment => exact ih.map _
      simp only [located_mapping, List.flatMap_append, List.flatMap_cons]
      exact .append_left _ (behind.append_right _)
  | tagged _ ih => exact ih
  | trans _ _ ih ih' => exact ih.trans ih'

theorem Reordered.ordinary {value other : Yaml.Value} (reordered : Reordered value other)
    (ordinary : Ordinary value) : Ordinary other := by
  induction reordered with
  | entries perm =>
      cases ordinary with
      | scalar scalar => cases scalar
      | mapping plain once inside =>
          refine .mapping ?_ ((perm.map _).nodup_iff.mp once) ?_
          · exact fun entry member => plain entry (perm.mem_iff.mpr member)
          · exact fun entry member => inside entry (perm.mem_iff.mpr member)
  | inside _ ih =>
      cases ordinary with
      | scalar scalar => cases scalar
      | mapping plain once inside =>
          rw [List.forall_mem_append, List.forall_mem_cons] at plain inside
          refine .mapping ?_ (by simpa using once) ?_
          · exact List.forall_mem_append.mpr ⟨plain.1, List.forall_mem_cons.mpr plain.2⟩
          · exact List.forall_mem_append.mpr
              ⟨inside.1, List.forall_mem_cons.mpr ⟨ih inside.2.1, inside.2.2⟩⟩
  | tagged _ ih =>
      cases ordinary with
      | scalar scalar => cases scalar
      | tagged inside => exact .tagged (ih inside)
  | trans _ _ ih ih' => exact ih' (ih ordinary)

/-- Only a mapping is another order of a mapping. -/
theorem Reordered.exists_entries {value other : Yaml.Value} (reordered : Reordered value other)
    {entries : List (Yaml.Value × Yaml.Value)} (mapping : value = .mapping entries) :
    ∃ others, other = .mapping others := by
  induction reordered generalizing entries with
  | entries perm => exact ⟨_, rfl⟩
  | inside _ _ => exact ⟨_, rfl⟩
  | tagged _ _ => cases mapping
  | trans _ _ ih ih' =>
      obtain ⟨others, second⟩ := ih mapping
      exact ih' second

/-! ### Settings of an ordinary mapping -/

/-- An ordinary mapping has settings: as many texts as leaves, and the text of each leaf at the
segments of its path, joined by dots. Another order of the entries gives the same settings. -/
theorem ofValue_of_ordinary {entries : List (Yaml.Value × Yaml.Value)}
    (ordinary : Ordinary (.mapping entries)) :
    ∃ s, ofValue (.mapping entries) = .ok s ∧
      s.toList.length = (located (.mapping entries)).length ∧
      (∀ key text, s.get? key = some text ↔
        ∃ path, (path, text) ∈ located (.mapping entries) ∧ key = Text.joined "." path) ∧
      ∀ other, Reordered (.mapping entries) other → ofValue other = .ok s := by
  refine ⟨_, ofValue_eq_ok_iff_flattens.mpr ⟨ordinary.flattens, rfl⟩, ?_, ?_, ?_⟩
  · rw [length_toList_ofList (distinct_keys_of_ordinary ordinary), List.length_map]
  · exact fun _ _ => get?_of_ordinary ordinary
  · intro other reordered
    obtain ⟨others, rfl⟩ := reordered.exists_entries rfl
    have ordinary' := reordered.ordinary ordinary
    refine ofValue_eq_ok_iff_flattens.mpr ⟨ordinary'.flattens, ?_⟩
    ext key text
    simp only [get?_of_ordinary ordinary, get?_of_ordinary ordinary',
      reordered.located_perm.mem_iff]

/-- A document with a list of directories and a tag in front of a mapping. -/
def storeDocument : Yaml.Value :=
  .mapping [(.text "fs", .mapping [
    (.text "s3a", .tagged "!store" (.mapping [
      (.text "fast", .bool true), (.text "dirs", .sequence [.text "/a", .text "/b"])])),
    (.text "size", .text "64m")])]

/-- The same document, with the two entries of its inner mapping the other way round. -/
def turnedDocument : Yaml.Value :=
  .mapping [(.text "fs", .mapping [
    (.text "size", .text "64m"),
    (.text "s3a", .tagged "!store" (.mapping [
      (.text "fast", .bool true), (.text "dirs", .sequence [.text "/a", .text "/b"])]))])]

theorem storeDocument_settings :
    ∃ s, ofValue storeDocument = .ok s ∧ s.toList.length = 3 ∧
      s.get? "fs.s3a.dirs" = some "/a,/b" ∧ ofValue turnedDocument = .ok s := by
  have plain : ∀ name : String, name ≠ "" → '.' ∉ name.toList → IsPlainKey (.text name) :=
    fun name filled no_dot => ⟨name, rfl, filled, no_dot⟩
  have store : Ordinary (.mapping [
      (.text "fast", .bool true), (.text "dirs", .sequence [.text "/a", .text "/b"])]) := by
    refine .mapping ?_ (by simp) ?_
    · simp [plain]
    · simp only [List.forall_mem_cons]
      exact ⟨.scalar .yes, .sequence (by simpa using ⟨⟨_, .text⟩, ⟨_, .text⟩⟩), by simp⟩
  have ordinary : Ordinary storeDocument := by
    refine .mapping (by simp [plain]) (by simp) ?_
    rw [List.forall_mem_singleton]
    refine .mapping (by simp [plain]) (by simp) ?_
    simp only [List.forall_mem_cons]
    exact ⟨.tagged store, .scalar .text, by simp⟩
  obtain ⟨s, read, count, texts, order⟩ := ofValue_of_ordinary ordinary
  refine ⟨s, read, count, (texts _ _).mpr ⟨["fs", "s3a", "dirs"], by decide, by decide⟩, ?_⟩
  exact order _ (@Reordered.inside [] [] _ _ _ (.entries (.swap _ _ [])))

end StoreBench.Settings
