/-
Which texts are sizes in bytes, said without the reader of sizes.

* `suffixes` are the letters for powers of 1024.
* `Written` relates a text to the number and the power that it gives: a numeral and at most one of
  the letters. `written_iff_parts` says that cutting the letter off finds them.
* `Refused` are ways in which a text without white space around it gives no size.
* `parse?_reads_written_sizes` says that the reader takes exactly the texts that give a size of
  sixty-four bits, each for that size.
-/

import StoreBench.ByteSize
import StoreBench.Proofs.Text.Numeral
import StoreBench.Proofs.Text.Trimming

namespace StoreBench.ByteSize

open StoreBench.Text

variable {s : List Char} {n : Int} {power : Nat}

/-! ### Letters for powers -/

/-- The letters for powers of 1024, small and capital. -/
def suffixes : List (Char × Nat) :=
  [('k', 1), ('K', 1), ('m', 2), ('M', 2), ('g', 3), ('G', 3),
    ('t', 4), ('T', 4), ('p', 5), ('P', 5), ('e', 6), ('E', 6)]

theorem toLower_of_not_ascii {c : Char} (h : 128 ≤ c.toNat) : c.toLower = c := by
  refine dif_neg fun upper => ?_
  have below : c.toNat ≤ 'Z'.toNat := UInt32.le_iff_toNat_le.mp upper.2
  have last : 'Z'.toNat = 90 := rfl
  omega

/-- No character beyond ASCII stands for a power. -/
theorem power?_of_not_ascii {c : Char} (h : 128 ≤ c.toNat) : power? c = none := by
  rw [power?, toLower_of_not_ascii h]
  split
  · exact absurd h (by decide)
  · exact absurd h (by decide)
  · exact absurd h (by decide)
  · exact absurd h (by decide)
  · exact absurd h (by decide)
  · exact absurd h (by decide)
  · rfl

theorem lt_of_power? {c : Char} (h : power? c = some power) : c.toNat < 128 := by
  by_contra beyond
  rw [power?_of_not_ascii (Nat.le_of_not_lt beyond)] at h
  cases h

/-- Of the characters of ASCII the suffixes alone stand for powers. -/
theorem mem_suffixes_of_ascii :
    ∀ c : Char, c.toNat < 128 → ∀ power ∈ power? c, (c, power) ∈ suffixes :=
  forall_ascii (by decide)

theorem power?_eq_some_iff {c : Char} : power? c = some power ↔ (c, power) ∈ suffixes := by
  constructor
  · intro found
    exact mem_suffixes_of_ascii c (lt_of_power? found) power (Option.mem_def.mpr found)
  · have listed : ∀ entry ∈ suffixes, power? entry.1 = some entry.2 := by decide
    exact listed (c, power)

/-! ### Written sizes -/

/-- The text is a numeral of the number, and behind it the suffix for the power of 1024 unless the
power is zero. -/
inductive Written : List Char → Int → Nat → Prop
  | plain {numeral : List Char} {n : Int} : Numeral numeral n → Written numeral n 0
  | suffixed {numeral : List Char} {n : Int} {letter : Char} {power : Nat} :
    Numeral numeral n → (letter, power) ∈ suffixes → Written (numeral ++ [letter]) n power

theorem parts_concat {letter : Char} (suffix : (letter, power) ∈ suffixes) (numeral : List Char) :
    parts (numeral ++ [letter]) = (numeral, power) := by
  simp [parts, power?_eq_some_iff.mpr suffix]

theorem parts_of_getLast? (h : ∀ c, s.getLast? = some c → power? c = none) : parts s = (s, 0) := by
  cases last : s.getLast? with
  | none => simp [parts, last]
  | some c => simp [parts, last, h c last]

/-- A text is cut before the suffix that it ends with, or not at all. -/
theorem parts_cases (s : List Char) :
    parts s = (s, 0) ∨ ∃ numeral letter power,
      s = numeral ++ [letter] ∧ (letter, power) ∈ suffixes ∧ parts s = (numeral, power) := by
  by_cases suffixed : ∃ c power, s.getLast? = some c ∧ power? c = some power
  · obtain ⟨letter, power, last, found⟩ := suffixed
    obtain ⟨numeral, rfl⟩ := List.getLast?_eq_some_iff.mp last
    have suffix := power?_eq_some_iff.mp found
    exact .inr ⟨numeral, letter, power, rfl, suffix, parts_concat suffix numeral⟩
  · refine .inl (parts_of_getLast? fun c last => ?_)
    cases found : power? c with
    | none => rfl
    | some power => exact absurd ⟨c, power, last, found⟩ suffixed

theorem power?_of_isDigit {c : Char} (digit : c.isDigit = true) : power? c = none := by
  cases found : power? c with
  | none => rfl
  | some power =>
      have letters : ∀ entry ∈ suffixes, entry.1.isDigit = false := by decide
      have letter := letters (c, power) (power?_eq_some_iff.mp found)
      cases digit.symm.trans letter

/-- Cutting a text apart finds the numeral and the power that it was written with. -/
theorem written_iff_parts : Written s n power ↔ Numeral (parts s).1 n ∧ (parts s).2 = power := by
  constructor
  · intro written
    cases written with
    | plain numeral =>
        obtain ⟨before, c, rfl, digit⟩ := numeral.exists_concat
        have whole : parts (before ++ [c]) = (before ++ [c], 0) := by
          refine parts_of_getLast? fun d last => ?_
          rw [List.getLast?_concat] at last
          cases last
          exact power?_of_isDigit digit
        rw [whole]
        exact ⟨numeral, rfl⟩
    | suffixed numeral suffix =>
        rw [parts_concat suffix]
        exact ⟨numeral, rfl⟩
  · rintro ⟨numeral, rfl⟩
    rcases parts_cases s with whole | ⟨before, letter, power, rfl, suffix, cut⟩
    · rw [whole] at numeral ⊢
      exact .plain numeral
    · rw [cut] at numeral ⊢
      exact .suffixed numeral suffix

/-- The size that a text gives is that of its number and power, if it fits. -/
theorem parse?_eq_some_iff {text : String} {v : Int64} :
    parse? text = some v ↔
      ∃ n power, Written (trim text.toList) n power ∧ v.toInt = n * 1024 ^ power := by
  have unfolded : parse? text =
      ((((signed? 10 (parts (trim text.toList)).1).filter fitsInt64).map fun n =>
        n * (Nat.pow 1024 (parts (trim text.toList)).2 : Int)).filter fitsInt64).map
          Int64.ofInt := rfl
  rw [unfolded, map_ofInt_filter_fitsInt64_eq_some_iff, Option.map_eq_some_iff]
  constructor
  · rintro ⟨n, kept, value⟩
    obtain ⟨read, -⟩ := Option.filter_eq_some_iff.mp kept
    refine ⟨n, _, written_iff_parts.mpr ⟨signed?_ten_eq_some_iff.mp read, rfl⟩, ?_⟩
    rw [← value, Nat.pow_eq]
    push_cast
    rfl
  · rintro ⟨n, power, written, value⟩
    obtain ⟨numeral, rfl⟩ := written_iff_parts.mp written
    have positive : (1 : Int) ≤ 1024 ^ (parts (trim text.toList)).2 :=
      one_le_pow₀ (by decide)
    have fits : fitsInt64 n = true := fitsInt64_of_mul positive (value ▸ fitsInt64_toInt v)
    refine ⟨n, Option.filter_eq_some_iff.mpr ⟨signed?_ten_eq_some_iff.mpr numeral, fits⟩, ?_⟩
    rw [value, Nat.pow_eq]
    push_cast
    rfl

/-! ### Texts without a size -/

/-- Ways in which a text gives no size. -/
inductive Refused : List Char → Prop
  | number {s : List Char} {n : Int} {power : Nat} : Written s n power →
    n < Int64.minValue.toInt ∨ Int64.maxValue.toInt < n → Refused s
  | size {s : List Char} {n : Int} {power : Nat} : Written s n power →
    n * 1024 ^ power < Int64.minValue.toInt ∨ Int64.maxValue.toInt < n * 1024 ^ power → Refused s
  | blank {s : List Char} {c : Char} : c ∈ s → isBlank c = true → Refused s
  /-- A sign or a suffix alone. -/
  | lone {c : Char} : c.isDigit = false → Refused [c]
  /-- The last character is none of ASCII. -/
  | foreign {s : List Char} {c : Char} : 128 ≤ c.toNat → Refused (s ++ [c])

theorem Written.unique {m : Int} {other : Nat} (h : Written s n power) (h' : Written s m other) :
    n = m ∧ power = other := by
  obtain ⟨numeral, rfl⟩ := written_iff_parts.mp h
  obtain ⟨numeral', rfl⟩ := written_iff_parts.mp h'
  have same := (signed?_ten_eq_some_iff.mpr numeral).symm.trans (signed?_ten_eq_some_iff.mpr numeral')
  exact ⟨Option.some.inj same, rfl⟩

/-- Digits are characters of ASCII and no white space. -/
theorem isDigit_ascii {c : Char} (digit : c.isDigit = true) :
    c.toNat < 128 ∧ isBlank c = false := by
  have bound : c.toNat ≤ '9'.toNat :=
    UInt32.le_iff_toNat_le.mp (of_decide_eq_true (Bool.and_eq_true_iff.mp digit).2)
  have ascii : c.toNat < 128 := Nat.lt_of_le_of_lt bound (by decide)
  have digits : ∀ c : Char, c.toNat < 128 → c.isDigit = true → isBlank c = false :=
    forall_ascii (by decide)
  exact ⟨ascii, digits c ascii digit⟩

/-- A size is written with characters of ASCII, and without white space. -/
theorem Written.ascii {c : Char} (h : Written s n power) (member : c ∈ s) :
    c.toNat < 128 ∧ isBlank c = false := by
  have ofNumeral : ∀ {numeral : List Char} {n : Int}, Numeral numeral n → c ∈ numeral →
      c.toNat < 128 ∧ isBlank c = false := by
    intro numeral n number member
    rcases number.digit_or_sign member with digit | rfl | rfl
    · exact isDigit_ascii digit
    · decide
    · decide
  have letters : ∀ entry ∈ suffixes, entry.1.toNat < 128 ∧ isBlank entry.1 = false := by decide
  cases h with
  | plain number => exact ofNumeral number member
  | suffixed number suffix =>
      rcases List.mem_append.mp member with inside | last
      · exact ofNumeral number inside
      · obtain rfl := List.mem_singleton.mp last
        exact letters _ suffix

/-- One character alone is a size only if it is a digit. -/
theorem Written.isDigit_of_singleton {c : Char} (h : Written [c] n power) : c.isDigit = true := by
  generalize whole : [c] = s at h
  cases h with
  | plain number =>
      obtain ⟨before, d, rfl, digit⟩ := number.exists_concat
      cases before with
      | nil =>
          cases whole
          exact digit
      | cons e before => simp at whole
  | suffixed number suffix =>
      -- The suffix is the one character, and no numeral stands before it.
      obtain ⟨before, d, rfl, digit⟩ := number.exists_concat
      cases before <;> simp at whole

/-- What is refused gives no size that fits. -/
theorem Refused.not_written (h : Refused s) (written : Written s n power) (v : Int64) :
    v.toInt ≠ n * 1024 ^ power := by
  intro value
  have above := v.minValue_le_toInt
  have below := v.toInt_le
  cases h with
  | number written' outside =>
      obtain ⟨rfl, rfl⟩ := written.unique written'
      have positive : (1 : Int) ≤ 1024 ^ power := one_le_pow₀ (by decide)
      have fits := fitsInt64_of_mul positive (value ▸ fitsInt64_toInt v)
      have range := Bool.and_eq_true_iff.mp fits
      have least := of_decide_eq_true range.1
      have greatest := of_decide_eq_true range.2
      omega
  | size written' outside =>
      obtain ⟨rfl, rfl⟩ := written.unique written'
      omega
  | blank member blank =>
      cases blank.symm.trans (written.ascii member).2
  | lone noDigit =>
      cases noDigit.symm.trans written.isDigit_of_singleton
  | foreign beyond =>
      have ascii := (written.ascii (List.mem_append_right _ List.mem_cons_self)).1
      omega

/-! ### Reading sizes -/

/-- No white space stands in a numeral. -/
theorem trim_of_numeral (numeral : Numeral s n) : trim s = s :=
  trim_of_forall_not_blank fun _ member => ((Written.plain numeral).ascii member).2

/-- A numeral of a number that fits gives that number of bytes. -/
theorem parse?_of_numeral {text : String} {v : Int64} (numeral : Numeral text.toList v.toInt) :
    parse? text = some v := by
  rw [parse?_eq_some_iff, trim_of_numeral numeral]
  exact ⟨v.toInt, 0, .plain numeral, by simp⟩

/-- The texts that are read are, white space around them aside, those that give a size of sixty-four
bits. No other text is, and where a suffix is cut off it is a single octet. -/
theorem parse?_reads_written_sizes (text : String) :
    (∀ v : Int64, parse? text = some v ↔
      ∃ body n power, TrimsTo text.toList body ∧ Written body n power ∧
        v.toInt = n * 1024 ^ power) ∧
    (∀ body, TrimsTo text.toList body → Refused body → parse? text = none) ∧
    ∀ body, TrimsTo text.toList body →
      parts body = (body, 0) ∨
        ∃ letter, body = (parts body).1 ++ [letter] ∧ letter.utf8Size = 1 := by
  refine ⟨fun v => ?_, fun body trims refused => ?_, fun body _ => ?_⟩
  · rw [parse?_eq_some_iff]
    constructor
    · rintro ⟨n, power, written, value⟩
      exact ⟨_, n, power, trimsTo_trim _, written, value⟩
    · rintro ⟨body, n, power, trims, written, value⟩
      rw [trim_of_trimsTo trims]
      exact ⟨n, power, written, value⟩
  · rw [Option.eq_none_iff_forall_ne_some]
    intro v read
    obtain ⟨n, power, written, value⟩ := parse?_eq_some_iff.mp read
    rw [trim_of_trimsTo trims] at written
    exact refused.not_written written v value
  · rcases parts_cases body with whole | ⟨numeral, letter, power, rfl, suffix, cut⟩
    · exact .inl whole
    · have octets : ∀ entry ∈ suffixes, entry.1.utf8Size = 1 := by decide
      rw [cut]
      exact .inr ⟨letter, rfl, octets _ suffix⟩

example : parse? "-8e" = some Int64.minValue := by decide

example : parse? "8e" = none := by decide

end StoreBench.ByteSize
