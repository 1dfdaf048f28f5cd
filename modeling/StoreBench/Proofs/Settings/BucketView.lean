/-
What one bucket sees of the settings, and what an option for it or for another bucket does to that.

* `ownKey` is the key that an option has for one bucket alone.
* `get?_bucketView` says what stands in a bucket's view: the bucket's own option, else the general
  one, else what stands at the key. `Sees` says the same without a reader of keys.
* `bucketView_sees_own_options` says so of every view, and that an option set for the bucket changes
  its view at the option's general key and at the key that is written.
* `Nested` says that one name runs on from the other at a dot. Keys are dotted like names, so an
  option of one such bucket may stand at a key of the other.
* `setBucketOption_isolated_iff` says that options of two buckets are apart exactly if their names
  are not nested; `storeClass_reaches_nested_bucket` is a run on which they are not.
-/

import StoreBench.Backend
import StoreBench.Proofs.Settings.Writing

namespace StoreBench.Settings

variable {bucket other option : String}

/-! ### Keys of one bucket -/

/-- The key of an option for the bucket alone, the option without the beginning of all options. -/
def ownKey (bucket option : String) : String :=
  Key.bucketOption ++ bucket ++ "." ++ option

theorem bucketKey_eq_ownKey (bucket key : String) :
    bucketKey bucket key = ownKey bucket (optionBase key) := rfl

/-- The general key of an option is shorter than the key for any bucket. -/
theorem option_ne_ownKey (bucket option : String) :
    Key.option ++ option ≠ ownKey bucket option := by
  intro same
  have lengths := congrArg String.length same
  have general : Key.option.length = 7 := rfl
  have own : Key.bucketOption.length = 14 := rfl
  simp only [ownKey, String.length_append] at lengths
  omega

/-! ### What stands in a view -/

/-- The bucket's own options, at the keys of the general ones. -/
def promoted (s : Settings) (bucket : String) : List (String × String) :=
  s.toList.filterMap fun entry =>
    (Text.behind? (Key.bucketOption ++ bucket ++ ".") entry.1).map fun option =>
      (Key.option ++ option, entry.2)

theorem bucketView_eq_setMany (s : Settings) (bucket : String) :
    s.bucketView bucket = s.setMany (s.promoted bucket) := rfl

theorem mem_promoted_iff {s : Settings} {key text : String} :
    (key, text) ∈ s.promoted bucket ↔
      ∃ option, key = Key.option ++ option ∧ s.get? (ownKey bucket option) = some text := by
  simp only [promoted, List.mem_filterMap, Prod.exists, Option.map_eq_some_iff,
    Text.behind?_eq_some_iff, Prod.mk.injEq]
  constructor
  · rintro ⟨own, value, entry, option, rfl, rfl, rfl⟩
    exact ⟨option, rfl, Std.ExtTreeMap.mem_toList_iff_getElem?_eq_some.mp entry⟩
  · rintro ⟨option, rfl, found⟩
    exact ⟨ownKey bucket option, text, Std.ExtTreeMap.mem_toList_iff_getElem?_eq_some.mpr found,
      option, rfl, rfl, rfl⟩

/-- No option is promoted twice. -/
theorem pairwise_promoted (s : Settings) (bucket : String) :
    (s.promoted bucket).Pairwise fun p q => p.1 ≠ q.1 := by
  have distinct : s.toList.Pairwise fun p q => p.1 ≠ q.1 :=
    Std.ExtTreeMap.distinct_keys_toList.imp fun apart same => apart (by simp [same])
  refine distinct.filterMap _ ?_
  intro a b apart p first q second same
  simp only [Option.map_eq_some_iff, Text.behind?_eq_some_iff] at first second
  obtain ⟨x, own_a, rfl⟩ := first
  obtain ⟨y, own_b, rfl⟩ := second
  -- Both stand for one option, so they had one key already.
  have option : x = y := (String.append_right_inj _).mp same
  exact apart (by rw [own_a, own_b, option])

/-- A bucket sees its own option in the place of the general one, and all else as it is. -/
theorem get?_bucketView (s : Settings) (bucket key : String) :
    (s.bucketView bucket).get? key =
      ((Text.behind? Key.option key).bind fun option => s.get? (ownKey bucket option)).or
        (s.get? key) := by
  rw [bucketView_eq_setMany, get?_setMany]
  congr 1
  ext text
  rw [Option.bind_eq_some_iff]
  constructor
  · intro found
    obtain ⟨before, after, pairs, -⟩ := get?_ofList_eq_some_iff.mp found
    have member : (key, text) ∈ s.promoted bucket := pairs ▸ by simp
    obtain ⟨option, rfl, own⟩ := mem_promoted_iff.mp member
    exact ⟨option, Text.behind?_eq_some_iff.mpr rfl, own⟩
  · rintro ⟨option, begins, own⟩
    have member := mem_promoted_iff.mpr ⟨option, Text.behind?_eq_some_iff.mp begins, own⟩
    exact get?_ofList_of_mem (pairwise_promoted s bucket) member

/-- What is written at the bucket's own key of an option stands in its view at the general one. -/
theorem get?_bucketView_set_ownKey (s : Settings) (bucket option text : String) :
    ((s.set (ownKey bucket option) text).bucketView bucket).get? (Key.option ++ option) =
      some text := by
  rw [get?_bucketView, Text.behind?_eq_some_iff.mpr rfl, Option.bind_some, get?_set, if_pos rfl,
    Option.some_or]

/-- Writing at a key changes nothing in the bucket's view but what stands at the key and at the
general key of the option that it has for the bucket, if it has one. -/
theorem get?_bucketView_set_of_ne {raw place : String}
    (foreign : ∀ option, place = Key.option ++ option → raw ≠ ownKey bucket option)
    (elsewhere : place ≠ raw) (s : Settings) (text : String) :
    ((s.set raw text).bucketView bucket).get? place = (s.bucketView bucket).get? place := by
  simp only [get?_bucketView, get?_set, if_neg elsewhere.symm]
  cases begins : Text.behind? Key.option place with
  | none => rfl
  | some option =>
      have other := foreign option (Text.behind?_eq_some_iff.mp begins)
      rw [Option.bind_some, Option.bind_some, if_neg other]

/-- Writing at a key that is none of the bucket's own changes nothing else in its view. -/
theorem get?_bucketView_set_of_forall_ne {raw place : String}
    (foreign : ∀ option, raw ≠ ownKey bucket option) (elsewhere : place ≠ raw) (s : Settings)
    (text : String) :
    ((s.set raw text).bucketView bucket).get? place = (s.bucketView bucket).get? place :=
  get?_bucketView_set_of_ne (fun option _ => foreign option) elsewhere s text

/-! ### An option of the bucket -/

/-- What the bucket sees at a key: its own option, if the key is that of an option and the bucket
has one of its own, and otherwise what stands at the key. -/
inductive Sees (s : Settings) (bucket : String) : String → Option String → Prop
  | own {option text : String} :
    s.get? (ownKey bucket option) = some text → Sees s bucket (Key.option ++ option) (some text)
  | general {key : String} :
    (∀ option, key = Key.option ++ option → s.get? (ownKey bucket option) = none) →
      Sees s bucket key (s.get? key)

theorem get?_bucketView_eq_iff {s : Settings} {key : String} {value : Option String} :
    (s.bucketView bucket).get? key = value ↔ Sees s bucket key value := by
  rw [get?_bucketView]
  constructor
  · rintro rfl
    cases found : (Text.behind? Key.option key).bind fun option =>
        s.get? (ownKey bucket option) with
    | some text =>
        obtain ⟨option, begins, own⟩ := Option.bind_eq_some_iff.mp found
        obtain rfl := Text.behind?_eq_some_iff.mp begins
        exact .own own
    | none =>
        refine .general fun option begins => ?_
        rwa [Text.behind?_eq_some_iff.mpr begins] at found
  · intro sees
    cases sees with
    | own own => rw [Text.behind?_eq_some_iff.mpr rfl, Option.bind_some, own, Option.some_or]
    | general absent =>
        have none_own : ((Text.behind? Key.option key).bind fun option =>
            s.get? (ownKey bucket option)) = none := by
          rw [Option.bind_eq_none_iff]
          exact fun option begins => absent option (Text.behind?_eq_some_iff.mp begins)
        rw [none_own, Option.none_or]

/-- The key of an option for all buckets, whether or not the beginning of all options is given. -/
def generalKey (key : String) : String :=
  if Key.option.toList <+: key.toList then key else Key.option ++ key

theorem generalKey_eq (key : String) : generalKey key = Key.option ++ optionBase key := by
  unfold generalKey optionBase
  cases begins : Text.behind? Key.option key with
  | some option =>
      obtain rfl := Text.behind?_eq_some_iff.mp begins
      rw [if_pos ⟨option.toList, String.toList_append.symm⟩, Option.getD_some]
  | none =>
      have no_beginning : ¬ Key.option.toList <+: key.toList := by
        rintro ⟨rest, whole⟩
        have option : key = Key.option ++ String.ofList rest :=
          String.ext (by rw [String.toList_append, String.toList_ofList, whole])
        rw [Text.behind?_eq_some_iff.mpr option] at begins
        cases begins
      rw [if_neg no_beginning, Option.getD_none]

/-- A bucket sees its own options, each in the place of the general one, and all else as it is. So
an option that is set for it stands in its view, and all else there is as before but for the key
that has been written. -/
theorem bucketView_sees_own_options (s : Settings) (bucket : String) :
    (∀ key value, (s.bucketView bucket).get? key = value ↔ Sees s bucket key value) ∧
      ∀ key text,
        ((s.setBucketOption bucket key text).bucketView bucket).get? (generalKey key) = some text ∧
        ∀ place, place ≠ generalKey key → place ≠ bucketKey bucket key →
          ((s.setBucketOption bucket key text).bucketView bucket).get? place =
            (s.bucketView bucket).get? place := by
  refine ⟨fun key value => get?_bucketView_eq_iff, fun key text => ⟨?_, ?_⟩⟩
  · rw [generalKey_eq]
    exact get?_bucketView_set_ownKey s bucket (optionBase key) text
  · intro place other elsewhere
    refine get?_bucketView_set_of_ne ?_ elsewhere s text
    rintro option rfl same
    have named : optionBase key = option := (String.append_right_inj _).mp same
    exact other (by rw [generalKey_eq, named])

/-- One option is set for a bucket that has another one of its own already. -/
theorem bucketView_sees_own_endpoint :
    let s := Settings.ofList
      [("fs.s3a.endpoint", "central"), ("fs.s3a.bucket.landsat.endpoint", "west")]
    "fs.s3a.endpoint" ≠ generalKey "acl.default" ∧
      "fs.s3a.endpoint" ≠ bucketKey "landsat" "acl.default" ∧
      (s.bucketView "landsat").get? "fs.s3a.endpoint" = some "west" ∧
      ((s.setBucketOption "landsat" "acl.default" "private").bucketView "landsat").get?
        "fs.s3a.endpoint" = some "west" := by
  intro s
  have other : "fs.s3a.endpoint" ≠ generalKey "acl.default" := by decide
  have elsewhere : "fs.s3a.endpoint" ≠ bucketKey "landsat" "acl.default" := by decide
  have found : s.get? (ownKey "landsat" "endpoint") = some "west" := by decide +kernel
  obtain ⟨seen, written⟩ := bucketView_sees_own_options s "landsat"
  have own : (s.bucketView "landsat").get? "fs.s3a.endpoint" = some "west" :=
    (seen _ _).mpr (.own found)
  have kept := (written "acl.default" "private").2 _ other elsewhere
  exact ⟨other, elsewhere, own, kept.trans own⟩

/-! ### Options of two buckets -/

/-- One of the names runs on from the other at a dot. -/
def Nested (bucket other : String) : Prop :=
  ∃ rest, other = bucket ++ "." ++ rest ∨ bucket = other ++ "." ++ rest

/-- Whatever option is set for the first bucket, the view of the other one stays as it is but for
the key that is written. -/
def Isolated (bucket other : String) : Prop :=
  ∀ (s : Settings) (key text place : String), place ≠ bucketKey bucket key →
    ((s.setBucketOption bucket key text).bucketView other).get? place =
      (s.bucketView other).get? place

/-- A text cut at two different dots begins with the one part, a dot, and some of the rest. -/
theorem exists_eq_append_dot {a b x y : List Char} (same : a ++ '.' :: x = b ++ '.' :: y)
    (distinct : a ≠ b) : ∃ rest, b = a ++ '.' :: rest ∨ a = b ++ '.' :: rest := by
  rcases List.append_eq_append_iff.mp same with ⟨more, longer, tail⟩ | ⟨more, longer, tail⟩
  · cases more with
    | nil => exact absurd (by simpa using longer.symm) distinct
    | cons c rest =>
        obtain rfl : '.' = c := (List.cons.inj tail).1
        exact ⟨rest, .inl longer⟩
  · cases more with
    | nil => exact absurd (by simpa using longer) distinct
    | cons c rest =>
        obtain rfl : '.' = c := (List.cons.inj tail).1
        exact ⟨rest, .inr longer⟩

/-- Two buckets share a key only if their names are nested. -/
theorem nested_of_ownKey_eq {x y : String} (same : ownKey bucket x = ownKey other y)
    (distinct : bucket ≠ other) : Nested bucket other := by
  have cut : bucket.toList ++ '.' :: x.toList = other.toList ++ '.' :: y.toList := by
    have texts := congrArg String.toList same
    simpa [ownKey, List.append_assoc] using texts
  obtain ⟨rest, longer⟩ := exists_eq_append_dot cut (mt String.toList_inj.mp distinct)
  refine ⟨String.ofList rest, longer.imp ?_ ?_⟩
  · intro names
    exact String.ext (by simp [names])
  · intro names
    exact String.ext (by simp [names])

/-- An option with the key of all options in front of it stands at the bucket's own key. -/
theorem bucketKey_option (bucket option : String) :
    bucketKey bucket (Key.option ++ option) = ownKey bucket option := by
  rw [bucketKey_eq_ownKey, optionBase, Text.behind?_eq_some_iff.mpr rfl, Option.getD_some]

/-- Where a bucket's key is another one's as well, the option reaches the other's view. -/
theorem not_isolated_of_ownKey_eq {x y : String} (same : ownKey bucket x = ownKey other y) :
    ¬ Isolated bucket other := by
  intro isolated
  have written : bucketKey bucket (Key.option ++ x) = ownKey other y :=
    (bucketKey_option bucket x).trans same
  have kept := isolated .empty (Key.option ++ x) "" (Key.option ++ y)
    (written ▸ option_ne_ownKey other y)
  rw [setBucketOption, written, get?_bucketView_set_ownKey, get?_bucketView] at kept
  simp at kept

/-- Options of two buckets are apart exactly if the names differ and are not nested. -/
theorem setBucketOption_isolated_iff (bucket other : String) :
    Isolated bucket other ↔ bucket ≠ other ∧ ¬ Nested bucket other := by
  constructor
  · intro isolated
    refine ⟨?_, ?_⟩
    · rintro rfl
      exact not_isolated_of_ownKey_eq (x := "") rfl isolated
    · rintro ⟨rest, rfl | rfl⟩
      · refine not_isolated_of_ownKey_eq (x := rest ++ ".") (y := "") ?_ isolated
        simp [ownKey, String.append_assoc]
      · refine not_isolated_of_ownKey_eq (x := "") (y := rest ++ ".") ?_ isolated
        simp [ownKey, String.append_assoc]
  · rintro ⟨distinct, apart⟩ s key text place elsewhere
    have foreign : ∀ option, bucketKey bucket key ≠ ownKey other option := fun option same =>
      apart (nested_of_ownKey_eq same distinct)
    exact get?_bucketView_set_of_forall_ne foreign elsewhere s text

/-- The store class set for one bucket becomes the file system's class for another one whose name
runs on from the first. -/
theorem storeClass_reaches_nested_bucket :
    "landsat" ≠ "landsat.metadatastore" ∧ "fs.s3a.impl" ≠ bucketKey "landsat" Key.storeClass ∧
      ((Settings.empty.setBucketOption "landsat" Key.storeClass Store.null.className).bucketView
        "landsat.metadatastore").get? "fs.s3a.impl" = some Store.null.className ∧
      (Settings.empty.bucketView "landsat.metadatastore").get? "fs.s3a.impl" = none := by
  decide +kernel

end StoreBench.Settings
