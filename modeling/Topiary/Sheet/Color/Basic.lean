import Topiary.Sheet.Color.Names
import Topiary.Sheet.Measure

/-!
Colours as data, and their text. A colour of the screen, however it is given, is written by its name
if that is shorter than its digits, which are as few as possible; colours of wider spaces keep their
numbers.
-/

namespace Topiary.Sheet

/-- A space of colours with three coordinates. -/
inductive Space where
  | srgb
  | srgbLinear
  | displayP3
  | a98
  | prophoto
  | rec2020
  | xyzD50
  | xyzD65
  | lab
  | lch
  | oklab
  | oklch
deriving Repr, DecidableEq

/-- The place of a colour in a space, with its opacity; a number may be missing. -/
structure Coordinates where
  x : Option Float32
  y : Option Float32
  z : Option Float32
  alpha : Option Float32

inductive Color where
  /-- Channels from 0 to 255. -/
  | screen (red green blue alpha : Nat)
  | wide (space : Space) (place : Coordinates)
  /-- The colour of the text around. -/
  | current
  /-- A colour that the surroundings choose. -/
  | system (name : String)
  /-- A colour for light surroundings and one for dark ones. -/
  | lightDark (light dark : Color)

/-! ## Text -/

/-- Two hexadecimal digits for every channel, or one where both are always the same. -/
def hexText (channels : List Nat) : String :=
  let digit := fun n => (Nat.toDigits 16 n).take 1
  let digits := fun n =>
    if channels.all (fun m => m % 17 = 0) then digit (n / 17) else digit (n / 16) ++ digit (n % 16)
  String.ofList ('#' :: channels.flatMap digits)

/-- The text of a colour of the screen. -/
def screenText (red green blue alpha : Nat) : String :=
  if alpha = 255 then
    let digits := hexText [red, green, blue]
    let named := colorNames.find? fun (name, color) =>
      color = 65536 * red + 256 * green + blue && name.length < digits.length
    (named.map Prod.fst).getD digits
  else hexText [red, green, blue, alpha]

def amountText : Option Float32 → String
  | some x => Number.numberText x
  | none => "none"

/-- The opacity behind the numbers of a colour, where it is not full. -/
def alphaText : Option Float32 → String
  | some x => if (x - 1).abs ≤ Float32.ofBits 0x34000000 then "" else " / " ++ amountText (some x)
  | none => " / " ++ amountText none

/-- A lightness as a percentage of the lightness of white. -/
def lightnessText (whole : Float32) : Option Float32 → String
  | some x => Number.numberText (x / whole * 100) ++ "%"
  | none => "none"

/-- The text of a colour up to its second coordinate. -/
def Space.frontText (space : Space) (x : Option Float32) : String :=
  match space with
  | .srgb => "color(srgb " ++ amountText x
  | .srgbLinear => "color(srgb-linear " ++ amountText x
  | .displayP3 => "color(display-p3 " ++ amountText x
  | .a98 => "color(a98-rgb " ++ amountText x
  | .prophoto => "color(prophoto-rgb " ++ amountText x
  | .rec2020 => "color(rec2020 " ++ amountText x
  | .xyzD50 => "color(xyz-d50 " ++ amountText x
  | .xyzD65 => "color(xyz " ++ amountText x
  | .lab => "lab(" ++ lightnessText 100 x
  | .lch => "lch(" ++ lightnessText 100 x
  | .oklab => "oklab(" ++ lightnessText 1 x
  | .oklch => "oklch(" ++ lightnessText 1 x

def Color.text : Color → String
  | .screen r g b a => screenText r g b a
  | .wide space ⟨x, y, z, alpha⟩ =>
    space.frontText x ++ " " ++ amountText y ++ " " ++ amountText z ++ alphaText alpha ++ ")"
  | .current => "currentColor"
  | .system name => name
  | .lightDark light dark => "light-dark(" ++ light.text ++ ", " ++ dark.text ++ ")"

/-! ## Digits and channels -/

/-- The colour that hexadecimal digits give: one or two for every channel. -/
def Color.ofDigits? (digits : String) : Option Color :=
  if digits.toList.all isHex then
    match digits.toList.map hexValue with
    | [r, g, b] => some (.screen (17 * r) (17 * g) (17 * b) 255)
    | [r, g, b, a] => some (.screen (17 * r) (17 * g) (17 * b) (17 * a))
    | [r, r', g, g', b, b'] => some (.screen (16 * r + r') (16 * g + g') (16 * b + b') 255)
    | [r, r', g, g', b, b', a, a'] =>
      some (.screen (16 * r + r') (16 * g + g') (16 * b + b') (16 * a + a'))
    | _ => none
  else none

/-- The colour that a word names, in any case. -/
def Color.ofWord? (word : String) : Option Color :=
  let word := Text.lower word
  if word == "currentcolor" then some .current
  else if word == "transparent" then some (.screen 0 0 0 0)
  else if systemColorNames.contains word then some (.system word)
  else
    (colorNames.lookup word).map fun color =>
      .screen (color / 65536) (color / 256 % 256) (color % 256) 255

def clamp (low high x : Float32) : Float32 :=
  if x < low then low else if high < x then high else x

/-- A channel from a number between 0 and 255. -/
def channel (x : Float32) : Nat := (clamp 0 255 x.round).toUInt8.toNat

/-- A channel from a share of its whole. -/
def unitChannel (x : Float32) : Nat := channel (x * 255)

/-- The colour of the screen with these shares of red, green and blue; a missing number is zero. -/
def Color.ofScreen (place : Coordinates) : Color :=
  let share := fun (x : Option Float32) => unitChannel (x.getD 0)
  .screen (share place.x) (share place.y) (share place.z) (share place.alpha)

end Topiary.Sheet
