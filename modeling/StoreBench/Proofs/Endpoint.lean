/-
Which settings name an endpoint of the store.

* `Locates` says of a URI in which bucket it is: behind the scheme `s3a` and `://` comes the bucket,
  which is not empty and has no slash, and behind that nothing or a path. `ofUri?_eq_some_iff` says
  that the reader of URIs finds that bucket.
* `Declares` says which endpoint settings name, white space around its URI aside.
* `require_eq_iff_declares` says that settings are refused if and only if they name none, and only
  ever by a violated assumption.
-/

import StoreBench.Endpoint
import StoreBench.Proofs.Text.Trimming

namespace StoreBench

/-! ### Cuts of a text -/

namespace Text

variable {c : Char} {separator before rest s : List Char}

/-- Where the first character of a separator does not occur, the separator does not begin. -/
theorem splitAt?_append (absent : c ∉ before) (separator rest : List Char) :
    splitAt? (c :: separator) (before ++ c :: separator ++ rest) = some (before, rest) := by
  induction before with
  | nil => simp [splitAt?, dropStart?]
  | cons d before ih =>
      obtain ⟨other, absent⟩ := not_or.mp (mt List.mem_cons.mpr absent)
      simpa [splitAt?, dropStart?, other] using ih absent

theorem splitAt?_eq_some_iff (absent : c ∉ before) :
    splitAt? (c :: separator) s = some (before, rest) ↔ s = before ++ c :: separator ++ rest := by
  constructor
  · exact splitAt?_eq_some
  · rintro rfl
    exact splitAt?_append absent separator rest

/-- The part of a text up to a character is the one without it that the character or nothing
follows. -/
theorem takeWhile_ne_eq_iff {part : List Char} :
    s.takeWhile (· != c) = part ↔
      c ∉ part ∧ ∃ rest, s = part ++ rest ∧ (rest = [] ∨ ∃ more, rest = c :: more) := by
  constructor
  · rintro rfl
    refine ⟨fun member => ?_, s.dropWhile (· != c), by simp, ?_⟩
    · have among := List.all_eq_true.mp List.all_takeWhile c member
      simp at among
    · cases behind : s.dropWhile (· != c) with
      | nil => exact .inl rfl
      | cons d more =>
          have first := @eq_false_of_head?_dropWhile (· != c) s d (congrArg List.head? behind)
          exact .inr ⟨more, by rw [bne_eq_false_iff_eq.mp first]⟩
  · rintro ⟨absent, rest, rfl, ends⟩
    have others : ∀ d ∈ part, (d != c) = true := by
      intro d member
      rw [bne_iff_ne]
      rintro rfl
      exact absent member
    rw [List.takeWhile_append_of_pos others]
    obtain rfl | ⟨more, rfl⟩ := ends
    · simp
    · simp

end Text

namespace Endpoint

variable {uri : String} {s : Settings} {endpoint : Endpoint}

/-! ### URIs -/

/-- The URI lies in the bucket. The path behind the bucket may hold anything. -/
structure Locates (uri bucket : String) : Prop where
  parts : ∃ path, uri = "s3a://" ++ bucket ++ path ∧ (path = "" ∨ ∃ more, path = "/" ++ more)
  not_empty : bucket ≠ ""
  no_slash : '/' ∉ bucket.toList

theorem not_locates_empty (bucket : String) : ¬ Locates "" bucket := by
  rintro ⟨⟨path, whole, -⟩, -, -⟩
  simp [← String.toList_inj] at whole

/-- What stands behind the scheme begins with the bucket and goes on, if at all, with a slash. -/
theorem locates_iff {bucket : List Char} :
    Locates uri (String.ofList bucket) ↔
      bucket ≠ [] ∧ ∃ rest, uri.toList = Key.scheme.toList ++ "://".toList ++ rest ∧
        rest.takeWhile (· != '/') = bucket := by
  constructor
  · rintro ⟨⟨path, rfl, ends⟩, not_empty, no_slash⟩
    rw [String.toList_ofList] at no_slash
    refine ⟨fun empty => not_empty (by rw [empty]), bucket ++ path.toList, by simp [Key.scheme],
      Text.takeWhile_ne_eq_iff.mpr ⟨no_slash, path.toList, rfl, ?_⟩⟩
    obtain rfl | ⟨more, rfl⟩ := ends
    · exact .inl rfl
    · exact .inr ⟨more.toList, by simp⟩
  · rintro ⟨not_empty, rest, whole, part⟩
    obtain ⟨no_slash, path, rfl, ends⟩ := Text.takeWhile_ne_eq_iff.mp part
    refine ⟨⟨String.ofList path, ?_, ?_⟩, ?_, ?_⟩
    · rw [← String.toList_inj, whole]
      simp [Key.scheme]
    · obtain rfl | ⟨more, rfl⟩ := ends
      · exact .inl rfl
      · exact .inr ⟨String.ofList more, by simp⟩
    · simpa [← String.toList_inj] using not_empty
    · rwa [String.toList_ofList]

/-- The reader finds in a URI the bucket in which it lies, and none in any other text. -/
theorem ofUri?_eq_some_iff :
    ofUri? uri = some endpoint ↔ endpoint.uri = uri ∧ Locates uri endpoint.bucket := by
  have no_colon : ':' ∉ Key.scheme.toList := by decide
  have cut_iff : ∀ rest, Text.splitAt? "://".toList uri.toList = some (Key.scheme.toList, rest) ↔
      uri.toList = Key.scheme.toList ++ "://".toList ++ rest := fun rest =>
    Text.splitAt?_eq_some_iff no_colon
  constructor
  · intro found
    obtain ⟨⟨scheme, rest⟩, cut, accepted⟩ := Option.bind_eq_some_iff.mp found
    simp only [Option.ite_none_right_eq_some, Bool.and_eq_true, beq_iff_eq, Bool.not_eq_true',
      List.isEmpty_eq_false_iff, Option.some.injEq] at accepted
    obtain ⟨⟨rfl, not_empty⟩, rfl⟩ := accepted
    exact ⟨rfl, locates_iff.mpr ⟨not_empty, rest, (cut_iff rest).mp cut, rfl⟩⟩
  · obtain ⟨uri, bucket⟩ := endpoint
    rintro ⟨rfl, located⟩
    rw [← String.ofList_toList (s := bucket)] at located
    obtain ⟨not_empty, rest, whole, part⟩ := locates_iff.mp located
    have accepted : (Key.scheme.toList == Key.scheme.toList && !bucket.toList.isEmpty) = true := by
      rw [beq_self_eq_true, Bool.true_and, Bool.not_eq_true', List.isEmpty_eq_false_iff]
      exact not_empty
    refine Option.bind_eq_some_iff.mpr ⟨_, (cut_iff rest).mpr whole, ?_⟩
    simp only [part, accepted, if_true, String.ofList_toList]

/-! ### Settings -/

/-- The settings name the endpoint, but for white space around its URI. -/
def Declares (s : Settings) (endpoint : Endpoint) : Prop :=
  ∃ text, s.get? Key.endpoint = some text ∧
    Text.TrimsTo text.toList endpoint.uri.toList ∧ Locates endpoint.uri endpoint.bucket

theorem ofUri?_nameIn_eq_some_iff : ofUri? (nameIn s) = some endpoint ↔ Declares s endpoint := by
  rw [ofUri?_eq_some_iff]
  unfold Declares nameIn Settings.trimmed?
  cases s.get? Key.endpoint with
  | none => simp [not_locates_empty]
  | some text =>
      simp only [Option.map_some, Option.getD_some, Option.some.injEq, exists_eq_left',
        ← Text.trimmed_eq_iff]
      constructor
      · rintro ⟨same, located⟩
        rw [← same] at located ⊢
        exact ⟨rfl, located⟩
      · rintro ⟨same, located⟩
        rw [same]
        exact ⟨rfl, located⟩

theorem require_eq_ok_iff : require s = .ok endpoint ↔ Declares s endpoint := by
  rw [← ofUri?_nameIn_eq_some_iff, require]
  cases ofUri? (nameIn s) with
  | none => simp
  | some found => simp

/-- Settings that name no endpoint are refused, and always in the same words. -/
theorem require_eq_error_iff {f : Fault} :
    require s = .error f ↔ (∀ endpoint, ¬ Declares s endpoint) ∧
      f = .assumption "No test filesystem in test.fs.s3a.name" := by
  simp only [← ofUri?_nameIn_eq_some_iff, require]
  cases ofUri? (nameIn s) with
  | none => simp [Key.endpoint, eq_comm]
  | some found => simp

/-- The endpoint of a run is the one that its settings name. Where they name none, be it that the
key is absent or that its text is of any other form, an assumption of the tests is violated, and the
settings are not called wrong. -/
theorem require_eq_iff_declares (s : Settings) :
    (∀ endpoint, require s = .ok endpoint ↔ Declares s endpoint) ∧
      ∀ f, require s = .error f ↔ (∀ endpoint, ¬ Declares s endpoint) ∧
        f = .assumption "No test filesystem in test.fs.s3a.name" :=
  ⟨fun _ => require_eq_ok_iff, fun _ => require_eq_error_iff⟩

/-- The first `://` ends the scheme, and a bucket may hold a colon. -/
example : ofUri? "s3a://a:b/x://y" = some ⟨"s3a://a:b/x://y", "a:b"⟩ := by decide +kernel

end Endpoint

end StoreBench
