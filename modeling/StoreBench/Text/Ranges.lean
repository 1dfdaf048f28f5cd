/-
Sets of characters given by ranges of code points, and the one such set that readers of
settings need everywhere: white space. `trim` removes white space at both ends. `forall_ascii` is how
a fact about characters of ASCII is had by trying them all.
-/

namespace StoreBench.Text

/-! ### Ranges -/

/-- Closed ranges of code points, ascending and apart. -/
abbrev Ranges := List (Nat × Nat)

/-- The character's code point lies in one of the ranges. -/
def Ranges.holds (ranges : Ranges) (c : Char) : Bool :=
  ranges.any fun range => range.1 ≤ c.toNat && c.toNat ≤ range.2

/-- Each range is in order and ends before the next begins. -/
def Ranges.apart : Ranges → Bool
  | [] => true
  | [range] => range.1 ≤ range.2
  | range :: next :: rest => range.1 ≤ range.2 && range.2 < next.1 && Ranges.apart (next :: rest)

/-! ### Characters of ASCII -/

/-- What holds of each of the 128 codes holds of every character of ASCII. -/
theorem forall_ascii {P : Char → Prop} (codes : ∀ code < 128, P (Char.ofNat code)) (c : Char)
    (ascii : c.toNat < 128) : P c := by
  have held := codes c.toNat ascii
  rwa [Char.ofNat_toNat] at held

/-! ### White space -/

/-- The white space of Unicode, 25 characters. -/
def blankRanges : Ranges :=
  [(0x09, 0x0D), (0x20, 0x20), (0x85, 0x85), (0xA0, 0xA0), (0x1680, 0x1680), (0x2000, 0x200A),
    (0x2028, 0x2029), (0x202F, 0x202F), (0x205F, 0x205F), (0x3000, 0x3000)]

def isBlank (c : Char) : Bool :=
  blankRanges.holds c

theorem blankRanges_apart : blankRanges.apart = true := by decide

/-- The text without the white space at its end. -/
def trimEnd (s : List Char) : List Char :=
  (s.reverse.dropWhile isBlank).reverse

/-- The text without the white space at its two ends. -/
def trim (s : List Char) : List Char :=
  trimEnd (s.dropWhile isBlank)

@[simp] theorem trim_nil : trim [] = [] := rfl

def trimmed (s : String) : String :=
  String.ofList (trim s.toList)

@[simp] theorem toList_trimmed (s : String) : (trimmed s).toList = trim s.toList := by
  simp [trimmed]

end StoreBench.Text
