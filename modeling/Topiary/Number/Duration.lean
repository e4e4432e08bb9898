/-!
Spans of time in whole milliseconds and their shortest text.
-/

namespace Topiary.Number

/-- Seconds with as many decimals as are needed, milliseconds below one second, and `0ns` for no
time at all. -/
def durationText (milliseconds : Nat) : String :=
  if milliseconds = 0 then "0ns"
  else if milliseconds < 1000 then toString milliseconds ++ "ms"
  else
    let digits := (Nat.toDigits 10 (1000 + milliseconds % 1000)).tail
    let kept := (digits.reverse.dropWhile (· == '0')).reverse
    let fraction := if kept.isEmpty then "" else "." ++ String.ofList kept
    toString (milliseconds / 1000) ++ fraction ++ "s"

end Topiary.Number
