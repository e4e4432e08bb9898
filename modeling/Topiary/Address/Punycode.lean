/-!
Labels of host names as ASCII: the ASCII characters of a label come first, and behind them digits of
base 36 say which other characters go where. Every number is written with digits whose limits adapt
to the numbers before it.
-/

namespace Topiary.Address.Punycode

/-! ## Digits -/

def digitChar (n : Nat) : Char :=
  if n < 26 then Char.ofNat ('a'.toNat + n) else Char.ofNat ('0'.toNat + (n - 26))

def digitValue? (c : Char) : Option Nat :=
  if c.isDigit then some (c.toNat - '0'.toNat + 26)
  else if c.isAlpha then some (c.toLower.toNat - 'a'.toNat)
  else none

/-- The least digit at a place that is not the last of its number. -/
def limit (place bias : Nat) : Nat :=
  if place ≤ bias then 1 else if bias + 26 ≤ place then 26 else place - bias

theorem limit_pos (place bias : Nat) : 0 < limit place bias := by
  unfold limit
  split
  · decide
  · split <;> omega

theorem limit_le (place bias : Nat) : limit place bias ≤ 26 := by
  unfold limit
  split
  · decide
  · split <;> omega

/-- A number in steps of 35, and 36 for every step. -/
def scaleDown (n : Nat) : Nat × Nat :=
  if _h : 455 < n then
    let (rest, places) := scaleDown (n / 35)
    (rest, places + 36)
  else (n, 0)
termination_by n
decreasing_by exact Nat.div_lt_self (by omega) (by decide)

/-- The bias behind a number, `count` characters being known; the first number counts less. -/
def adapt (number count : Nat) (isFirst : Bool) : Nat :=
  let halved := if isFirst then number / 700 else number / 2
  let (rest, places) := scaleDown (halved + halved / count)
  places + 36 * rest / (rest + 38)

/-! ## Writing -/

/-- The digits of a number from a place on. -/
def digitsFrom (bias place number : Nat) : List Char :=
  let t := limit place bias
  if number < t then [digitChar number]
  else
    digitChar (t + (number - t) % (36 - t)) ::
      digitsFrom bias (place + 36) ((number - t) / (36 - t))
termination_by number
decreasing_by
  have low := limit_pos place bias
  have high := limit_le place bias
  exact Nat.lt_of_le_of_lt (Nat.div_le_self _ _) (by omega)

/-- What has been written so far. -/
structure Writer where
  written : List Char
  /-- The steps since the last character that was written. -/
  steps : Nat
  bias : Nat
  /-- The number of characters that are known. -/
  count : Nat

/-- Pass a character of the label while the code point `n` is written. -/
def Writer.pass (basics n : Nat) (w : Writer) (c : Char) : Writer :=
  if c.toNat < n then { w with steps := w.steps + 1 }
  else if c.toNat = n then
    ⟨w.written ++ digitsFrom w.bias 36 w.steps, 0,
      adapt w.steps (w.count + 1) (w.count = basics), w.count + 1⟩
  else w

/-- Write code points in increasing order; all below `next` are written. -/
def Writer.writeAll (label : List Char) (basics : Nat) :
    (next : Nat) → Writer → List Nat → Writer
  | _, w, [] => w
  | next, w, n :: rest =>
    let w := { w with steps := w.steps + (n - next) * (w.count + 1) }
    let w := label.foldl (Writer.pass basics n) w
    writeAll label basics (n + 1) { w with steps := w.steps + 1 } rest

def isBasic (c : Char) : Bool := c.toNat < 0x80

/-- The ASCII form of a label. -/
def encode (label : List Char) : List Char :=
  let basics := label.filter isBasic
  let others := ((label.filter fun c => !isBasic c).map Char.toNat).mergeSort.eraseDups
  let w := Writer.writeAll label basics.length 0x80 ⟨[], 0, 72, basics.length⟩ others
  basics ++ (if basics.isEmpty then [] else ['-']) ++ w.written

/-! ## Reading -/

/-- The number that digits write from a place on, added to `sum`, and what follows it. -/
def takeNumber (bias : Nat) : (place weight sum : Nat) → List Char → Option (Nat × List Char)
  | _, _, _, [] => none
  | place, weight, sum, c :: rest =>
    match digitValue? c with
    | none => none
    | some digit =>
      let t := limit place bias
      if digit < t then some (sum + digit * weight, rest)
      else takeNumber bias (place + 36) (weight * (36 - t)) (sum + digit * weight) rest

/-- Put in characters as digits say, from the code point `n` and the place `index` on; `count`
bounds their number. -/
def putIn (bias n index : Nat) (label : List Char) : (count : Nat) → List Char → Option (List Char)
  | _, [] => some label
  | 0, _ => none
  | count + 1, digits =>
    match takeNumber bias 36 1 index digits with
    | none => none
    | some (position, rest) =>
      let size := label.length + 1
      let n := n + position / size
      let place := position % size
      if n.isValidChar then
        putIn (adapt (position - index) size (index = 0)) n (place + 1)
          (label.take place ++ Char.ofNat n :: label.drop place) count rest
      else none

/-- The label that an ASCII form stands for; its ASCII characters stand before the last dash. -/
def decode? (cs : List Char) : Option (List Char) :=
  match cs.reverse.dropWhile (· != '-') with
  | _ :: basics =>
    if basics.isEmpty then none
    else putIn 72 0x80 0 basics.reverse cs.length (cs.drop (basics.length + 1))
  | [] => putIn 72 0x80 0 [] cs.length cs

end Topiary.Address.Punycode
