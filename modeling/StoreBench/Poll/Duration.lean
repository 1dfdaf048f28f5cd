/-
Spans of time in nanoseconds. `Duration.text` shows a span in the largest unit that it fills, with
as many places behind the point as it needs.
-/

import StoreBench.Text.Numeral

namespace StoreBench

structure Duration where
  nanoseconds : Nat
deriving Repr, DecidableEq

namespace Duration

def second : Nat := 1000000000

def ofParts (seconds nanoseconds : Nat) : Duration :=
  ⟨seconds * second + nanoseconds⟩

def ofMilliseconds (n : Nat) : Duration :=
  ⟨n * 1000000⟩

/-- The longest span there is: all bits of the seconds are set. -/
def longest : Duration := ofParts (UInt64.size - 1) (second - 1)

/-- Seconds of a point in time fit sixty-four bits with a sign, so a span of `2 ^ 63` seconds or
more leads from no point in time to another. -/
def isRepresentable (d : Duration) : Bool :=
  d.nanoseconds < UInt64.size / 2 * second

/-- The whole units in a span and the places behind the point, `width` of them at most and none of
them a zero at the end. -/
def inUnits (n unit width : Nat) : String :=
  let places := Nat.toDigits 10 (n % unit)
  let padded := List.replicate (width - places.length) '0' ++ places
  let shown := (padded.reverse.dropWhile (· == '0')).reverse
  let fraction := if shown.isEmpty then [] else '.' :: shown
  String.ofList (Nat.toDigits 10 (n / unit) ++ fraction)

def text (d : Duration) : String :=
  let n := d.nanoseconds
  if second ≤ n then inUnits n second 9 ++ "s"
  else if 1000000 ≤ n then inUnits n 1000000 6 ++ "ms"
  else if 1000 ≤ n then inUnits n 1000 3 ++ "µs"
  else Text.decimal n ++ "ns"

end Duration

end StoreBench
