import Topiary.Number.Shortest

/-!
Numbers in single precision, which has 24 significant bits, and their text with at most six digits.
-/

namespace Topiary.Number

/-- The single that a decimal stands for, negated or not. Beyond the exponents of singles it is zero
or the largest one. -/
def single (negative : Bool) (d : Decimal) : Float32 :=
  let size := (Nat.toDigits 10 d.digits).length + d.exponent
  let largest := Float32.ofBits 0x7f7fffff
  let value :=
    if d.digits = 0 || size < -60 then 0
    else if 60 < size then largest
    else
      let x := (Float.ofScientific d.digits (d.exponent < 0) d.exponent.natAbs).toFloat32
      if largest < x then largest else x
  if negative then -value else value

/-- Whether a single has a minus sign; zero may have one. -/
def isSigned (x : Float32) : Bool := x.toBits.toNat / Nat.pow 2 31 = 1

/-- Whether nothing stands behind the point of a single. -/
def isWhole (x : Float32) : Bool := x.floor == x

/-- The size of a single; the size of zero has no significant bits. -/
def Binary.ofSingle (x : Float32) : Binary :=
  let bits := x.toBits.toNat
  let fraction := bits % Nat.pow 2 23
  let exponent := bits / Nat.pow 2 23 % Nat.pow 2 8
  if exponent = 0 then ⟨fraction, -149, false⟩
  else ⟨Nat.pow 2 23 + fraction, (exponent : Int) - 150, fraction == 0 && exponent != 1⟩

/-- A decimal with at most `places` digits, rounded half up. -/
def Decimal.keep (d : Decimal) (places : Nat) : Decimal :=
  let extra := (Nat.toDigits 10 d.digits).length - places
  if extra = 0 then d
  else ⟨(d.digits + 5 * Nat.pow 10 (extra - 1)) / Nat.pow 10 extra, d.exponent + extra⟩

/-- The text of the size of a single: all places are written from `10 ^ -6` up to `10 ^ 20`, and no
zeros at the end. -/
def sizeText (x : Float32) : String :=
  let b := Binary.ofSingle x
  if b.m = 0 then "0"
  else
    let (digits, exponent) := ((shortest b).keep 6).scientific
    if exponent < -6 || 20 < exponent then
      let point := if 1 < digits.length then "." ++ String.ofList digits.tail else ""
      String.ofList (digits.take 1) ++ point ++ "e" ++ toString exponent
    else if exponent < 0 then
      "0." ++ String.ofList (List.replicate ((-exponent).toNat - 1) '0' ++ digits)
    else
      let whole := exponent.toNat + 1
      let fraction := digits.drop whole
      let point := if fraction.isEmpty then "" else "." ++ String.ofList fraction
      String.ofList (digits.take whole ++ List.replicate (whole - digits.length) '0') ++ point

/-- The text of the size of a single without a zero before its point. -/
def shortSizeText (x : Float32) : String :=
  match (sizeText x).toList with
  | '0' :: '.' :: rest => String.ofList ('.' :: rest)
  | cs => String.ofList cs

/-- The text of a single without needless zeros; zero has no sign. -/
def numberText (x : Float32) : String :=
  (if x < 0 then "-" else "") ++ shortSizeText x

/-- The text of a single before a unit: zero keeps its sign, and a negative number between zero and
one that needs an exponent has its sign twice. -/
def measureText (x : Float32) : String :=
  let size := sizeText x
  if isSigned x then
    if -1 < x && x < 0 && !("0.".toList.isPrefixOf size.toList) then "--" ++ size
    else "-" ++ shortSizeText x
  else shortSizeText x

/-- The text of a single as it was written: a written plus sign and the zero before the point stay,
and a whole number that was not written as one has a zero behind a point. -/
def writtenText (x : Float32) (signed whole : Bool) : String :=
  let size := sizeText x
  let sign := if isSigned x then "-" else if signed then "+" else ""
  sign ++ size ++ (if !whole && isWhole x && size.all Char.isDigit then ".0" else "")

end Topiary.Number
