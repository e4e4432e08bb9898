import Topiary.Sheet.Written

/-!
Numbers with units. The name of a known unit is written in lower case, and some units give way to
others of the same kind: turned angles in radians to degrees, times to the shorter of seconds and
milliseconds.
-/

namespace Topiary.Sheet

/-- Units of length that stand for a fixed size. -/
def absoluteLengths : List String := ["px", "in", "cm", "mm", "q", "pt", "pc"]

/-- Units of length that follow a font. -/
def fontLengths : List String :=
  ["em", "rem", "ex", "rex", "ch", "rch", "cap", "rcap", "ic", "ric", "lh", "rlh"]

/-- The sides of an area that lengths may be shares of. -/
def sides : List String := ["w", "h", "i", "b", "min", "max"]

/-- Units of length that are shares of a side of the window or of a container. -/
def shareLengths : List String :=
  ["v", "lv", "sv", "dv", "cq"].flatMap fun area => sides.map (area ++ ·)

def lengthUnits : List String := absoluteLengths ++ fontLengths ++ shareLengths

/-- The degrees of an angle in radians. -/
def degreesOfRadians (x : Float32) : Float32 :=
  x * (180 / Float32.ofBits 0x40490fdb)

/-- A number with a known unit in the unit that is written. -/
def settleUnit? (x : Float32) (unit : String) : Option (Float32 × String) :=
  if lengthUnits.contains unit then some (x, unit)
  else
    match unit with
    | "deg" => some (x, "deg")
    | "grad" => some (x, "grad")
    | "turn" => some (x, "turn")
    | "rad" => some (degreesOfRadians x, "deg")
    | "s" => some (if 0 < x && x < Float32.ofBits 0x3dcccccd then (x * 1000, "ms") else (x, "s"))
    | "ms" => some (if x == 0 || 100 ≤ x then (x / 1000, "s") else (x, "ms"))
    | "dpi" => some (x, "dpi")
    | "dpcm" => some (x, "dpcm")
    | "dppx" => some (x, "x")
    | "x" => some (x, "x")
    | _ => none

/-- The text of a number with its unit. -/
def measureUnitText (value : Quantity) (unit : String) : String :=
  let (x, unit) := (settleUnit? value.single (Text.lower unit)).getD (value.single, unit)
  Number.measureText x ++ unitText unit

end Topiary.Sheet
