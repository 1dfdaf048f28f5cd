/-
What decimal numerals are, said without their readers.

* `placeValue` is the number that digits stand for, each by its place.
* `Numeral` relates a text to the whole number that it writes: digits, behind at most one sign.
  `signed?_ten_eq_some_iff` says that the reader takes exactly the numerals, each for its number.
* `numeral_decimal` says that what is written for a number is a numeral of it, so that no two
  numbers are written alike (`decimal_inj`).
* `map_filter_fits_eq_some_iff` says when a number becomes a word, `int64?_eq_some_iff` and
  `int32?_eq_some_iff` which texts are read as words of sixty-four and of thirty-two bits.
-/

import Mathlib.Data.Nat.Digits.Defs
import Mathlib.Tactic.Linarith
import Mathlib.Tactic.Ring
import StoreBench.Text.Numeral

namespace StoreBench.Text

variable {s : List Char} {n : Int}

/-! ### Digits -/

/-- The number that the digits stand for: the last one counts ones, the one before it tens. -/
def placeValue (digits : List Char) : Nat :=
  Nat.ofDigits 10 (digits.reverse.map fun c => c.toNat - '0'.toNat)

/-- The text is one or more digits. -/
structure IsDigits (s : List Char) : Prop where
  nonempty : s ≠ []
  digits : ∀ c ∈ s, c.isDigit = true

theorem placeValue_cons (c : Char) (digits : List Char) :
    placeValue (c :: digits) =
      (c.toNat - '0'.toNat) * 10 ^ digits.length + placeValue digits := by
  rw [placeValue, List.reverse_cons, List.map_append, Nat.ofDigits_append, List.map_singleton,
    Nat.ofDigits_singleton, List.length_map, List.length_reverse, ← placeValue]
  ring

/-- In base ten the letters are worth too much to be digits. -/
theorem digitValue?_ten (c : Char) :
    digitValue? 10 c = if c.isDigit then some (c.toNat - '0'.toNat) else none := by
  by_cases digit : c.isDigit = true
  · obtain ⟨above, below⟩ := Bool.and_eq_true_iff.mp digit
    have low : '0' ≤ c := of_decide_eq_true above
    have high : c ≤ '9' := of_decide_eq_true below
    have bound : c.toNat ≤ '9'.toNat := UInt32.le_iff_toNat_le.mp high
    have small : c.toNat - '0'.toNat < 10 := by
      have nine : '9'.toNat = 57 := rfl
      have zero : '0'.toNat = 48 := rfl
      omega
    rw [digitValue?, if_pos (by simp [low, high]), if_pos digit, Option.filter_some,
      if_pos (decide_eq_true small)]
  · have outside : ¬ ('0' ≤ c ∧ c ≤ '9') := by
      rintro ⟨low, high⟩
      exact digit (Bool.and_eq_true_iff.mpr ⟨decide_eq_true low, decide_eq_true high⟩)
    rw [digitValue?, if_neg (by simpa using outside), if_neg digit]
    split
    · simp
    · split <;> simp

/-- Digits behind a number already read shift it by as many places. -/
theorem naturalFrom?_ten_eq_some_iff {start m : Nat} :
    naturalFrom? 10 start s = some m ↔
      (∀ c ∈ s, c.isDigit = true) ∧ m = start * 10 ^ s.length + placeValue s := by
  induction s generalizing start with
  | nil =>
      constructor
      · rintro ⟨⟩
        simp [placeValue]
      · rintro ⟨-, rfl⟩
        simp [placeValue, naturalFrom?]
  | cons c s ih =>
      rw [naturalFrom?, digitValue?_ten, List.forall_mem_cons, placeValue_cons, List.length_cons]
      by_cases digit : c.isDigit = true
      · have shifted : (start * 10 + (c.toNat - '0'.toNat)) * 10 ^ s.length + placeValue s =
            start * 10 ^ (s.length + 1) +
              ((c.toNat - '0'.toNat) * 10 ^ s.length + placeValue s) := by
          ring
        rw [if_pos digit, ih, shifted]
        exact ⟨fun ⟨others, value⟩ => ⟨⟨digit, others⟩, value⟩,
          fun ⟨⟨_, others⟩, value⟩ => ⟨others, value⟩⟩
      · simp [digit]

theorem natural?_ten_eq_some_iff {m : Nat} :
    natural? 10 s = some m ↔ IsDigits s ∧ m = placeValue s := by
  cases s with
  | nil => simp [show ¬ IsDigits [] from fun digits => digits.nonempty rfl]
  | cons c s =>
      rw [natural?_cons, naturalFrom?_ten_eq_some_iff, Nat.zero_mul, Nat.zero_add]
      exact and_congr_left' ⟨fun digits => ⟨List.cons_ne_nil c s, digits⟩, IsDigits.digits⟩

/-! ### Numerals -/

/-- The text is one or more digits, behind at most one sign, and stands for the number. -/
inductive Numeral : List Char → Int → Prop
  | unsigned {digits : List Char} : IsDigits digits → Numeral digits (placeValue digits)
  | plus {digits : List Char} : IsDigits digits → Numeral ('+' :: digits) (placeValue digits)
  | minus {digits : List Char} : IsDigits digits → Numeral ('-' :: digits) (-placeValue digits)

/-- A numeral is made of digits and perhaps a sign. -/
theorem Numeral.digit_or_sign {c : Char} (h : Numeral s n) (member : c ∈ s) :
    c.isDigit = true ∨ c = '+' ∨ c = '-' := by
  cases h with
  | unsigned isDigits => exact .inl (isDigits.digits c member)
  | plus isDigits =>
      rcases List.mem_cons.mp member with rfl | member
      · exact .inr (.inl rfl)
      · exact .inl (isDigits.digits c member)
  | minus isDigits =>
      rcases List.mem_cons.mp member with rfl | member
      · exact .inr (.inr rfl)
      · exact .inl (isDigits.digits c member)

/-- A numeral ends with a digit. -/
theorem Numeral.exists_concat (h : Numeral s n) :
    ∃ before c, s = before ++ [c] ∧ c.isDigit = true := by
  have ends : ∀ {digits : List Char}, IsDigits digits →
      ∃ before c, digits = before ++ [c] ∧ c.isDigit = true := by
    intro digits isDigits
    obtain ⟨before, c, rfl⟩ := (List.eq_nil_or_concat digits).resolve_left isDigits.nonempty
    exact ⟨before, c, by simp, isDigits.digits c (by simp)⟩
  cases h with
  | unsigned isDigits => exact ends isDigits
  | plus isDigits =>
      obtain ⟨before, c, rfl, digit⟩ := ends isDigits
      exact ⟨'+' :: before, c, rfl, digit⟩
  | minus isDigits =>
      obtain ⟨before, c, rfl, digit⟩ := ends isDigits
      exact ⟨'-' :: before, c, rfl, digit⟩

theorem signed?_plus (base : Nat) (s : List Char) :
    signed? base ('+' :: s) = (natural? base s).map Int.ofNat := rfl

theorem signed?_minus (base : Nat) (s : List Char) :
    signed? base ('-' :: s) = (natural? base s).map fun m : Nat => -(m : Int) := by
  rw [signed?]
  cases natural? base s <;> rfl

theorem signed?_of_ne_sign {c : Char} (no_plus : c ≠ '+') (no_minus : c ≠ '-') (base : Nat)
    (s : List Char) : signed? base (c :: s) = (natural? base (c :: s)).map Int.ofNat := by
  simp [signed?, no_plus, no_minus]

/-- The reader takes a text for a number exactly if it is a numeral of that number. -/
theorem signed?_ten_eq_some_iff : signed? 10 s = some n ↔ Numeral s n := by
  constructor
  · intro read
    cases s with
    | nil => cases read
    | cons c s =>
        by_cases plus : c = '+'
        · subst plus
          obtain ⟨m, value, rfl⟩ := Option.map_eq_some_iff.mp (signed?_plus 10 s ▸ read)
          obtain ⟨isDigits, rfl⟩ := natural?_ten_eq_some_iff.mp value
          exact .plus isDigits
        by_cases minus : c = '-'
        · subst minus
          obtain ⟨m, value, rfl⟩ := Option.map_eq_some_iff.mp (signed?_minus 10 s ▸ read)
          obtain ⟨isDigits, rfl⟩ := natural?_ten_eq_some_iff.mp value
          exact .minus isDigits
        rw [signed?_of_ne_sign plus minus] at read
        obtain ⟨m, value, rfl⟩ := Option.map_eq_some_iff.mp read
        obtain ⟨isDigits, rfl⟩ := natural?_ten_eq_some_iff.mp value
        exact .unsigned isDigits
  · intro numeral
    cases numeral with
    | unsigned isDigits =>
        have value := natural?_ten_eq_some_iff.mpr ⟨isDigits, rfl⟩
        cases s with
        | nil => exact absurd rfl isDigits.nonempty
        | cons c s =>
            have digit := isDigits.digits c List.mem_cons_self
            rw [signed?_of_ne_sign (by rintro rfl; cases digit) (by rintro rfl; cases digit), value]
            rfl
    | plus isDigits =>
        rw [signed?_plus, natural?_ten_eq_some_iff.mpr ⟨isDigits, rfl⟩]
        rfl
    | minus isDigits =>
        rw [signed?_minus, natural?_ten_eq_some_iff.mpr ⟨isDigits, rfl⟩]
        rfl

theorem Numeral.unique {m : Int} (first : Numeral s m) (second : Numeral s n) : m = n :=
  Option.some.inj
    ((signed?_ten_eq_some_iff.mpr first).symm.trans (signed?_ten_eq_some_iff.mpr second))

/-! ### Writing numerals -/

/-- Reading digits behind a number already read shifts it by as many places. -/
theorem ofDigitChars_ten (digits : List Char) (start : Nat) :
    Nat.ofDigitChars 10 digits start = start * 10 ^ digits.length + placeValue digits := by
  induction digits generalizing start with
  | nil => simp [placeValue]
  | cons c digits ih =>
      rw [Nat.ofDigitChars_cons, ih, placeValue_cons, List.length_cons]
      ring

theorem isDigits_toDigits (m : Nat) : IsDigits (Nat.toDigits 10 m) :=
  ⟨Nat.toDigits_ne_nil, fun _ member => Nat.isDigit_of_mem_toDigits (by decide) (by decide) member⟩

theorem placeValue_toDigits (m : Nat) : placeValue (Nat.toDigits 10 m) = m := by
  have read := ofDigitChars_ten (Nat.toDigits 10 m) 0
  rw [Nat.ofDigitChars_ten_toDigits, Nat.zero_mul, Nat.zero_add] at read
  exact read.symm

/-- What is written for a number is a numeral of it. -/
theorem numeral_decimal (n : Int) : Numeral (decimal n).toList n := by
  cases n with
  | ofNat m =>
      have numeral := Numeral.unsigned (isDigits_toDigits m)
      rw [placeValue_toDigits] at numeral
      rw [decimal, String.toList_ofList]
      exact numeral
  | negSucc m =>
      have numeral := Numeral.minus (isDigits_toDigits (m + 1))
      rw [placeValue_toDigits, Int.neg_ofNat_succ] at numeral
      rw [decimal, String.toList_ofList]
      exact numeral

/-- Two numbers are written alike only if they are the same. -/
@[simp] theorem decimal_inj {m : Int} : decimal m = decimal n ↔ m = n := by
  refine ⟨fun same => ?_, fun same => same ▸ rfl⟩
  have first := numeral_decimal m
  rw [same] at first
  exact first.unique (numeral_decimal n)

/-! ### Numbers that fit a word -/

theorem fitsInt64_toInt (v : Int64) : fitsInt64 v.toInt = true :=
  Bool.and_eq_true_iff.mpr
    ⟨decide_eq_true v.minValue_le_toInt, decide_eq_true v.toInt_le⟩

theorem fitsInt32_toInt (v : Int32) : fitsInt32 v.toInt = true :=
  Bool.and_eq_true_iff.mpr
    ⟨decide_eq_true v.minValue_le_toInt, decide_eq_true v.toInt_le⟩

theorem toInt_ofInt_of_fitsInt64 (h : fitsInt64 n = true) : (Int64.ofInt n).toInt = n := by
  obtain ⟨above, below⟩ := Bool.and_eq_true_iff.mp h
  refine Int64.toInt_ofInt_of_le (of_decide_eq_true above) ?_
  exact Int.lt_of_le_of_lt (of_decide_eq_true below) (by decide)

theorem toInt_ofInt_of_fitsInt32 (h : fitsInt32 n = true) : (Int32.ofInt n).toInt = n := by
  obtain ⟨above, below⟩ := Bool.and_eq_true_iff.mp h
  refine Int32.toInt_ofInt_of_le (of_decide_eq_true above) ?_
  exact Int.lt_of_le_of_lt (of_decide_eq_true below) (by decide)

/-- A number becomes a word, of whatever width, only if it fits, and then the word has its value. -/
theorem map_filter_fits_eq_some_iff {α : Type} {fits : Int → Bool} {ofInt : Int → α}
    {toInt : α → Int} (fits_toInt : ∀ v, fits (toInt v) = true)
    (toInt_ofInt : ∀ n, fits n = true → toInt (ofInt n) = n)
    (ofInt_toInt : ∀ v, ofInt (toInt v) = v) {n? : Option Int} {v : α} :
    (n?.filter fits).map ofInt = some v ↔ n? = some (toInt v) := by
  constructor
  · intro word
    obtain ⟨n, kept, rfl⟩ := Option.map_eq_some_iff.mp word
    obtain ⟨number, fits⟩ := Option.filter_eq_some_iff.mp kept
    rw [toInt_ofInt n fits, number]
  · rintro rfl
    rw [Option.filter_some, if_pos (fits_toInt v), Option.map_some, ofInt_toInt]

theorem map_ofInt_filter_fitsInt64_eq_some_iff {n? : Option Int} {v : Int64} :
    (n?.filter fitsInt64).map Int64.ofInt = some v ↔ n? = some v.toInt :=
  map_filter_fits_eq_some_iff fitsInt64_toInt (fun _ => toInt_ofInt_of_fitsInt64)
    Int64.ofInt_toInt

/-- The reader of words takes exactly the numerals of numbers that fit. -/
theorem int64?_eq_some_iff {text : String} {v : Int64} :
    int64? text = some v ↔ Numeral text.toList v.toInt := by
  rw [int64?, map_ofInt_filter_fitsInt64_eq_some_iff, signed?_ten_eq_some_iff]

theorem int32?_eq_some_iff {text : String} {v : Int32} :
    int32? text = some v ↔ Numeral text.toList v.toInt := by
  rw [int32?, map_filter_fits_eq_some_iff fitsInt32_toInt (fun _ => toInt_ofInt_of_fitsInt32)
    Int32.ofInt_toInt, signed?_ten_eq_some_iff]

/-- A number fits where one of its multiples does. -/
theorem fitsInt64_of_mul {factor : Int} (positive : 1 ≤ factor)
    (h : fitsInt64 (n * factor) = true) : fitsInt64 n = true := by
  obtain ⟨above, below⟩ := Bool.and_eq_true_iff.mp h
  have above := of_decide_eq_true above
  have below := of_decide_eq_true below
  have least : Int64.minValue.toInt ≤ 0 := by decide
  have greatest : 0 ≤ Int64.maxValue.toInt := by decide
  refine Bool.and_eq_true_iff.mpr ⟨decide_eq_true ?_, decide_eq_true ?_⟩
  · by_contra low
    nlinarith
  · by_contra high
    nlinarith

end StoreBench.Text
