import Topiary.Selector.Token
import Topiary.Text.Blank

/-!
The catalogue of token forms. Each form accepts a certain beginning of a text and cuts it off; the
forms stand in order of priority, and the first that accepts decides, not the longest.
-/

namespace Topiary.Selector

open Topiary.Text

/-- A token cut off the front of a text: its kind, the characters it took, and what is left. -/
structure Cut where
  kind : Kind
  source : List Char
  rest : List Char
deriving Repr, DecidableEq

/-- A named form of token. -/
structure Form where
  name : String
  accept : List Char → Option Cut

/-! ## Names -/

def isLetter (c : Char) : Bool :=
  ('A' ≤ c && c ≤ 'Z') || ('a' ≤ c && c ≤ 'z')

def isSmallLetter (c : Char) : Bool :=
  'a' ≤ c && c ≤ 'z'

def isDigit (c : Char) : Bool :=
  '0' ≤ c && c ≤ '9'

def isAlphanumeric (c : Char) : Bool :=
  isLetter c || isDigit c

/-- What may stand inside the name of a pseudo-class or a function. -/
def isFunctionChar (c : Char) : Bool :=
  isAlphanumeric c || c == '-'

/-- The longest name at the front: a letter, then letters and digits. -/
def splitName : List Char → Option (List Char × List Char)
  | [] => none
  | c :: rest =>
    if isLetter c then some (c :: rest.takeWhile isAlphanumeric, rest.dropWhile isAlphanumeric)
    else none

/-- The longest function name at the front: at least two letters, digits and dashes, of which the
first is a letter and the last is no dash. -/
def splitFunction : List Char → Option (List Char × List Char)
  | [] => none
  | c :: rest =>
    let dashes := (rest.takeWhile isFunctionChar).reverse.takeWhile (· == '-')
    let tail := ((rest.takeWhile isFunctionChar).reverse.dropWhile (· == '-')).reverse
    if isLetter c && !tail.isEmpty then
      some (c :: tail, dashes ++ rest.dropWhile isFunctionChar)
    else none

/-- A colon, a function name and an opening parenthesis. -/
def splitCall : List Char → Option (List Char × List Char)
  | ':' :: cs =>
    match splitFunction cs with
    | some (name, '(' :: rest) => some (name, rest)
    | _ => none
  | _ => none

/-! ## Forms -/

def acceptTag (cs : List Char) : Option Cut :=
  (splitName cs).map fun (name, rest) => ⟨.tag (String.ofList name), name, rest⟩

/-- A name behind a mark. -/
def acceptMarked (mark : Char) (kind : String → Kind) : List Char → Option Cut
  | [] => none
  | c :: cs =>
    if c = mark then
      (splitName cs).map fun (name, rest) => ⟨kind (String.ofList name), c :: name, rest⟩
    else none

/-- A single character. -/
def acceptChar (mark : Char) (kind : Kind) : List Char → Option Cut
  | [] => none
  | c :: cs => if c = mark then some ⟨kind, [c], cs⟩ else none

/-- A character and the blanks on both sides of it. -/
def acceptBetweenBlanks (mark : Char) (kind : Kind) (cs : List Char) : Option Cut :=
  match cs.dropWhile isAsciiBlank with
  | [] => none
  | c :: rest =>
    if c = mark then
      some ⟨kind, cs.takeWhile isAsciiBlank ++ c :: rest.takeWhile isAsciiBlank,
        rest.dropWhile isAsciiBlank⟩
    else none

/-- A run of blanks. -/
def acceptBlanks (kind : Kind) (cs : List Char) : Option Cut :=
  match cs.takeWhile isAsciiBlank with
  | [] => none
  | blanks => some ⟨kind, blanks, cs.dropWhile isAsciiBlank⟩

/-- `[name]` -/
def acceptPresence : List Char → Option Cut
  | '[' :: cs =>
    match splitName cs with
    | some (name, ']' :: rest) =>
      some ⟨.attrPresence (String.ofList name), '[' :: name ++ [']'], rest⟩
    | _ => none
  | _ => none

/-- What is left behind a fixed text. -/
def dropText : List Char → List Char → Option (List Char)
  | [], cs => some cs
  | _ :: _, [] => none
  | t :: text, c :: cs => if c = t then dropText text cs else none

/-- A value up to the next double quote, with what follows the quote. -/
def splitQuoted : List Char → Option (List Char × List Char)
  | '"' :: cs =>
    match cs.dropWhile (· != '"') with
    | _ :: rest => some (cs.takeWhile (· != '"'), rest)
    | [] => none
  | _ => none

/-- `[name="value"]` with the operator of the relation. -/
def acceptValue (relation : Relation) : List Char → Option Cut
  | '[' :: cs =>
    match splitName cs with
    | some (name, rest) =>
      match (dropText relation.symbol rest).bind splitQuoted with
      | some (value, ']' :: rest) =>
        some ⟨.attrValue (String.ofList name) relation (String.ofList value),
          '[' :: name ++ relation.symbol ++ '"' :: value ++ ['"', ']'], rest⟩
      | _ => none
    | none => none
  | _ => none

/-- `:function("argument")` -/
def acceptQuotedCall (cs : List Char) : Option Cut :=
  match splitCall cs with
  | some (function, rest) =>
    match splitQuoted rest with
    | some (argument, ')' :: rest) =>
      some ⟨.quotedCall (String.ofList function) (String.ofList argument),
        ':' :: function ++ '(' :: '"' :: argument ++ ['"', ')'], rest⟩
    | _ => none
  | none => none

/-- An optional sign at the front. -/
def splitSign : List Char → Option Sign × List Char
  | [] => (none, [])
  | c :: rest =>
    match Sign.ofChar? c with
    | some sign => (some sign, rest)
    | none => (none, c :: rest)

/-- The written form of an optional sign. -/
def signText : Option Sign → List Char
  | none => []
  | some sign => [sign.char]

/-- The written form of an equation, without the function around it. -/
def Equation.argument (e : Equation) : List Char :=
  signText e.scalarSign ++ e.scalar.toList ++ (e.symbol.getD "").toList ++
    signText e.offsetSign ++ e.offset.toList

/-- `:function(an+b)`: a sign, digits, small letters, a second sign and further digits, each of them
optional; the second digits stand only behind the second sign. -/
def acceptEquation (cs : List Char) : Option Cut :=
  match splitCall cs with
  | none => none
  | some (function, rest) =>
    let (scalarSign, rest) := splitSign rest
    let scalar := rest.takeWhile isDigit
    let rest := rest.dropWhile isDigit
    let letters := rest.takeWhile isSmallLetter
    let rest := rest.dropWhile isSmallLetter
    let (offsetSign, rest) := splitSign rest
    let offset := if offsetSign.isSome then rest.takeWhile isDigit else []
    let rest := if offsetSign.isSome then rest.dropWhile isDigit else rest
    match rest with
    | ')' :: rest =>
      let equation : Equation :=
        { function := String.ofList function
          scalarSign := scalarSign
          scalar := String.ofList scalar
          symbol := if letters.isEmpty then none else some (String.ofList letters)
          offsetSign := offsetSign
          offset := String.ofList offset }
      some ⟨.equationCall equation, ':' :: function ++ '(' :: equation.argument ++ [')'], rest⟩
    | _ => none

/-- `:function(argument)`, the argument being anything but a closing parenthesis. -/
def acceptCall (cs : List Char) : Option Cut :=
  match splitCall cs with
  | none => none
  | some (function, rest) =>
    match rest.dropWhile (· != ')') with
    | [] => none
    | _ :: after =>
      let argument := rest.takeWhile (· != ')')
      if argument.isEmpty then none
      else some ⟨.call (String.ofList function) (String.ofList argument),
        ':' :: function ++ '(' :: argument ++ [')'], after⟩

/-- `:function()` -/
def acceptEmptyCall (cs : List Char) : Option Cut :=
  match splitCall cs with
  | some (function, ')' :: rest) =>
    some ⟨.emptyCall (String.ofList function), ':' :: function ++ ['(', ')'], rest⟩
  | _ => none

/-- `:name` -/
def acceptPseudoClass : List Char → Option Cut
  | ':' :: cs =>
    (splitFunction cs).map fun (name, rest) =>
      ⟨.pseudoClass (String.ofList name), ':' :: name, rest⟩
  | _ => none

/-- `::name` -/
def acceptPseudoElement : List Char → Option Cut
  | ':' :: ':' :: cs =>
    (splitFunction cs).map fun (name, rest) =>
      ⟨.pseudoElement (String.ofList name), ':' :: ':' :: name, rest⟩
  | _ => none

/-- All forms, in order of priority. -/
def catalogue : List Form :=
  [ ⟨"Tag", acceptTag⟩,
    ⟨"Child", acceptBetweenBlanks '>' .child⟩,
    ⟨"Universal", acceptChar '*' .universal⟩,
    ⟨"NextAdjacent", acceptBetweenBlanks '+' .nextAdjacent⟩,
    ⟨"NextSibling", acceptBetweenBlanks '~' .nextSibling⟩,
    ⟨"Descendant", acceptBlanks .descendant⟩,
    ⟨"Id", acceptMarked '#' .id⟩,
    ⟨"Class", acceptMarked '.' .className⟩,
    ⟨"AttributePresence", acceptPresence⟩,
    ⟨"AttributeEquals", acceptValue .equals⟩,
    ⟨"AttributeNotEquals", acceptValue .differs⟩,
    ⟨"AttributePrefix", acceptValue .dashed⟩,
    ⟨"AttributeContains", acceptValue .contains⟩,
    ⟨"AttributeContainsWord", acceptValue .word⟩,
    ⟨"AttributeEndsWith", acceptValue .ends⟩,
    ⟨"AttributeStartsWith", acceptValue .starts⟩,
    ⟨"ListSeparator", acceptChar ',' .separator⟩,
    ⟨"PseudoFunctionQuotedArg", acceptQuotedCall⟩,
    ⟨"PseudoFunctionEquation", acceptEquation⟩,
    ⟨"PseudoFunctionArg", acceptCall⟩,
    ⟨"PseudoFunctionNoArg", acceptEmptyCall⟩,
    ⟨"PseudoSimple", acceptPseudoClass⟩,
    ⟨"PseudoElement", acceptPseudoElement⟩ ]

/-- The cut that the first accepting form makes. -/
def firstCut (cs : List Char) : Option Cut :=
  catalogue.findSome? fun form => form.accept cs

end Topiary.Selector
