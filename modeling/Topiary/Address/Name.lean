import Topiary.Address.Punycode
import Topiary.Text.Direction
import Topiary.Text.Folded
import Topiary.Text.Joining

/-!
Names of hosts in any script, and their form in ASCII. Names are compared without regard to case and
form; what is left over of other scripts is written with a mark before it.
-/

namespace Topiary.Address

/-- The parts between separators. -/
def splitOn (separates : Char → Bool) : List Char → List (List Char)
  | [] => [[]]
  | c :: rest =>
    match splitOn separates rest with
    | [] => [[c]]
    | part :: parts => if separates c then [] :: part :: parts else (c :: part) :: parts

/-- The mark of a label in its ASCII form. -/
def asciiMark : List Char := ['x', 'n', '-', '-']

def isAscii (cs : List Char) : Bool := cs.all Punycode.isBasic

/-- Whether a label that is not ASCII may stand in a name: it is folded and composed already, does
not start with a mark, and its joiners matter. -/
def isSoundLabel (label : List Char) : Bool :=
  label.all (fun c => Text.fold? c == some [c]) && Text.compose label == label &&
    !label.head?.any Text.isMark && Text.joinersMatter [] label

/-- A label of a folded name in its ASCII form, and the label that this form stands for. -/
def settleLabel (label : List Char) : Option (List Char × List Char) :=
  if asciiMark.isPrefixOf label then
    match Punycode.decode? (label.drop asciiMark.length) with
    | some decoded =>
      if isAscii label && !isAscii decoded && isSoundLabel decoded then some (label, decoded)
      else none
    | none => none
  else if isAscii label then some (label, label)
  else if isSoundLabel label then some (asciiMark ++ Punycode.encode label, label)
  else none

/-- Labels with a point between each two. -/
def joinLabels : List (List Char) → List Char
  | [] => []
  | [label] => label
  | label :: rest => label ++ '.' :: joinLabels rest

/-- The ASCII form of a name, if the name is sound. -/
def asciiName? (cs : List Char) : Option (List Char) := do
  let folded ← cs.mapM Text.fold?
  let labels ← (splitOn (· == '.') (Text.compose folded.flatten)).mapM settleLabel
  let spelled := labels.map Prod.snd
  if spelled.any Text.isBidirectional && !spelled.all Text.keepsDirection then none
  else some (joinLabels (labels.map Prod.fst))

end Topiary.Address
