-- Spans of time as text: in the largest unit that is not longer than the span, with
-- as many places as it takes.
namespace MetricCheck.Cli

/-- A number of nanoseconds over a unit of `10 ^ places` of them. -/
def inUnit (nanoseconds places : Nat) (unit : String) : String :=
  let size := Nat.pow 10 places
  let whole := nanoseconds / size
  let rest := (Nat.toDigits 10 (nanoseconds % size)).leftpad places '0'
  let shown := (rest.reverse.dropWhile (· == '0')).reverse
  toString whole ++ (if shown.isEmpty then "" else "." ++ String.ofList shown) ++ unit

/-- The text of a span of time. -/
def durationText (nanoseconds : Nat) : String :=
  if nanoseconds < 1000 then inUnit nanoseconds 0 "ns"
  else if nanoseconds < 1000000 then inUnit nanoseconds 3 "µs"
  else if nanoseconds < 1000000000 then inUnit nanoseconds 6 "ms"
  else inUnit nanoseconds 9 "s"

end MetricCheck.Cli
