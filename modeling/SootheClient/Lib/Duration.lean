import Mathlib.Algebra.Group.Nat.Defs
import Mathlib.Data.Nat.Notation

/-!
# Durations

How a duration prints in a debug text: in the largest unit that fits, with the digits of the
fraction that are needed.
-/

namespace Duration

/-- A number of `digits` digits without its trailing zeros, after the point. -/
def fraction (frac digits : ℕ) : String :=
  let ds := Nat.toDigits 10 frac
  let padded := List.replicate (digits - ds.length) '0' ++ ds
  if frac = 0 then "" else "." ++ String.ofList (padded.reverse.dropWhile (· = '0')).reverse

/-- `{:?}` of a duration in nanoseconds. -/
def debug (ns : ℕ) : String :=
  if 10 ^ 9 ≤ ns then toString (ns / 10 ^ 9) ++ fraction (ns % 10 ^ 9) 9 ++ "s"
  else if 10 ^ 6 ≤ ns then toString (ns / 10 ^ 6) ++ fraction (ns % 10 ^ 6) 6 ++ "ms"
  else if 10 ^ 3 ≤ ns then toString (ns / 10 ^ 3) ++ fraction (ns % 10 ^ 3) 3 ++ "µs"
  else toString ns ++ "ns"

example : debug 1500000000 = "1.5s" := by decide

end Duration
