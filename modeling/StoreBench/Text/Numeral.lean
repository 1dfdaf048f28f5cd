/-
Whole numbers in text. `natural? base` reads a non-empty run of digits, `signed? base` lets one
sign stand in front of it. `int64?` and `int32?` read a decimal numeral whose value fits the word,
and `decimal` writes one.
-/

namespace StoreBench.Text

/-! ### Digits -/

/-- The value of a digit in the base; letters of either case count from ten. -/
def digitValue? (base : Nat) (c : Char) : Option Nat :=
  let value? :=
    if '0' ≤ c && c ≤ '9' then some (c.toNat - '0'.toNat)
    else if 'a' ≤ c && c ≤ 'z' then some (c.toNat - 'a'.toNat + 10)
    else if 'A' ≤ c && c ≤ 'Z' then some (c.toNat - 'A'.toNat + 10)
    else none
  value?.filter (· < base)

/-- The number whose digits follow those of `start`; every character must be a digit. -/
def naturalFrom? (base : Nat) : Nat → List Char → Option Nat
  | start, [] => some start
  | start, c :: rest =>
    match digitValue? base c with
    | some digit => naturalFrom? base (start * base + digit) rest
    | none => none

/-- The number written with one or more digits. -/
def natural? (base : Nat) : List Char → Option Nat
  | [] => none
  | s => naturalFrom? base 0 s

/-- The number written with one or more digits behind at most one sign. -/
def signed? (base : Nat) : List Char → Option Int
  | '+' :: digits => (natural? base digits).map Int.ofNat
  | '-' :: digits => (natural? base digits).map fun n => -(n : Int)
  | digits => (natural? base digits).map Int.ofNat

@[simp] theorem natural?_nil (base : Nat) : natural? base [] = none := rfl

@[simp] theorem natural?_cons (base : Nat) (c : Char) (rest : List Char) :
    natural? base (c :: rest) = naturalFrom? base 0 (c :: rest) := rfl

@[simp] theorem signed?_nil (base : Nat) : signed? base [] = none := rfl

/-! ### Numbers that fit a word -/

def fitsInt64 (n : Int) : Bool :=
  Int64.minValue.toInt ≤ n && n ≤ Int64.maxValue.toInt

def fitsInt32 (n : Int) : Bool :=
  Int32.minValue.toInt ≤ n && n ≤ Int32.maxValue.toInt

/-- The decimal numeral's value, if it fits sixty-four bits. -/
def int64? (s : String) : Option Int64 :=
  ((signed? 10 s.toList).filter fitsInt64).map Int64.ofInt

def int32? (s : String) : Option Int32 :=
  ((signed? 10 s.toList).filter fitsInt32).map Int32.ofInt

/-! ### Writing -/

/-- The decimal numeral of a number, with a minus sign below zero. -/
def decimal (n : Int) : String :=
  match n with
  | .ofNat m => String.ofList (Nat.toDigits 10 m)
  | .negSucc m => String.ofList ('-' :: Nat.toDigits 10 (m + 1))

end StoreBench.Text
