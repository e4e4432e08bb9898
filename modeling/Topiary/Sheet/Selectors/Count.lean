import Topiary.Sheet.Selectors.Basic

/-!
Counts `an+b` from pieces.
-/

namespace Topiary.Sheet

/-- The number `-b` in a word `n-b`. -/
def dashDigits? (word : String) : Option Int :=
  match word.toList with
  | n :: '-' :: digits =>
    if (n = 'n' || n = 'N') && !digits.isEmpty && digits.all Char.isDigit then
      some (max (-2147483648) (-(digitsValue digits : Int)))
    else none
  | _ => none

/-- A number without sign, behind its sign. -/
def readOffset (sign a : Int) (ps : List Piece) : Option (Count × List Piece) :=
  match ps.dropWhile Piece.isGap with
  | .token (.number q) :: rest =>
    if q.signed then none else q.whole?.map fun b => (⟨a, sign * b⟩, rest)
  | _ => none

/-- What may follow `n`. -/
def readTail (a : Int) (ps : List Piece) : Option (Count × List Piece) :=
  match ps.dropWhile Piece.isGap with
  | .token (.delim '+') :: rest => readOffset 1 a rest
  | .token (.delim '-') :: rest => readOffset (-1) a rest
  | .token (.number q) :: rest =>
    match q.signed, q.whole? with
    | true, some b => some (⟨a, b⟩, rest)
    | _, _ => some (⟨a, 0⟩, ps)
  | _ => some (⟨a, 0⟩, ps)

/-- A word that starts with `n`, `a` times, and what may follow. -/
def readWord (a : Int) (word : String) (rest : List Piece) : Option (Count × List Piece) :=
  if Text.lower word == "n" then readTail a rest
  else if Text.lower word == "n-" then readOffset (-1) a rest
  else (dashDigits? word).map fun b => (⟨a, b⟩, rest)

/-- The count that pieces start with, and what follows it. -/
def Count.read? (ps : List Piece) : Option (Count × List Piece) :=
  match ps.dropWhile Piece.isGap with
  | .token (.number q) :: rest => q.whole?.map fun b => (⟨0, b⟩, rest)
  | .token (.dimension q unit) :: rest => q.whole?.bind fun a => readWord a unit rest
  | .token (.ident word) :: rest =>
    if Text.lower word == "even" then some (⟨2, 0⟩, rest)
    else if Text.lower word == "odd" then some (⟨2, 1⟩, rest)
    else
      match word.toList with
      | '-' :: stripped => readWord (-1) (String.ofList stripped) rest
      | _ => readWord 1 word rest
  | .token (.delim '+') :: .token (.ident word) :: rest => readWord 1 word rest
  | _ => none

end Topiary.Sheet
