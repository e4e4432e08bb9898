import Topiary.Number.Single
import Topiary.Sheet.Piece

/-!
How names, strings, numbers and whole pieces of a stylesheet are written: strings between double
quotes, white space and comments as they stand in the text.
-/

namespace Topiary.Sheet

/-! ## Names and strings -/

/-- A character as its number. -/
def numericEscape (c : Char) : List Char :=
  '\\' :: Nat.toDigits 16 c.toNat ++ [' ']

def isControl (c : Char) : Bool := c.toNat < 0x20 || c == '\x7f'

/-- A character inside a name. -/
def nameChar (c : Char) : List Char :=
  if isNameChar c then [if c = '\x00' then '\ufffd' else c]
  else if isControl c then numericEscape c
  else ['\\', c]

/-- The text of a name that need not stand alone. -/
def nameText (name : String) : String :=
  String.ofList (name.toList.flatMap nameChar)

/-- The text of a name that stands alone: a digit at its front is written as its number. -/
def identText (name : String) : String :=
  let start := fun (cs : List Char) =>
    match cs with
    | c :: rest => (if c.isDigit then numericEscape c else nameChar c) ++ rest.flatMap nameChar
    | [] => []
  String.ofList (match name.toList with
    | ['-'] => ['\\', '-']
    | '-' :: '-' :: rest => '-' :: '-' :: rest.flatMap nameChar
    | '-' :: rest => '-' :: start rest
    | cs => start cs)

def stringChar (c : Char) : List Char :=
  if c = '"' then ['\\', '"']
  else if c = '\\' then ['\\', '\\']
  else if c = '\x00' then ['\ufffd']
  else if isControl c then numericEscape c
  else [c]

/-- A string between double quotes. -/
def stringText (content : String) : String :=
  String.ofList ('"' :: content.toList.flatMap stringChar ++ ['"'])

/-- An address between double quotes. -/
def urlText (content : String) : String :=
  "url(" ++ stringText content ++ ")"

/-- A character of an address without quotes. -/
def bareUrlChar (c : Char) : List Char :=
  if isControl c || c = ' ' then numericEscape c
  else if "()\"\x27\\".toList.contains c then ['\\', c]
  else [c]

/-! ## Numbers -/

/-- The number in single precision. -/
def Quantity.single (q : Quantity) : Float32 :=
  Number.single q.negative ⟨q.digits, q.exponent⟩

/-- A hundred times the hundredth part of a number, both in single precision. -/
def Quantity.percents (q : Quantity) : Float32 :=
  Number.single q.negative ⟨q.digits, q.exponent - 2⟩ * 100

/-- A whole number, kept within 32 bits. -/
def Quantity.whole? (q : Quantity) : Option Int :=
  if q.whole then
    let value : Int := if q.negative then -q.digits else q.digits
    some (max (-2147483648) (min 2147483647 value))
  else none

/-- The number as it is written, with its plus sign and the zero before its point. -/
def Quantity.text (q : Quantity) : String :=
  Number.writtenText q.single q.signed q.whole

/-- A percentage as it is written. -/
def Quantity.percentText (q : Quantity) : String :=
  Number.writtenText q.percents q.signed q.whole ++ "%"

/-- The name of a unit. What reads as an exponent starts with an escape. -/
def unitText (unit : String) : String :=
  match unit.toList with
  | ['e'] => "\\65 "
  | ['E'] => "\\65 "
  | 'e' :: '-' :: rest => "\\65 " ++ nameText (String.ofList ('-' :: rest))
  | 'E' :: '-' :: rest => "\\65 " ++ nameText (String.ofList ('-' :: rest))
  | _ => identText unit

/-! ## Tokens and pieces -/

def Bracket.ends : Bracket → String × String
  | .round => ("(", ")")
  | .square => ("[", "]")
  | .curly => ("\x7b", "\x7d")

/-- The text of a token. -/
def Token.text : Token → String
  | .blank text => text
  | .comment text => "/*" ++ text ++ "*/"
  | .ident name => identText name
  | .function name => identText name ++ "("
  | .atWord name => "@" ++ identText name
  | .hash name isId => "#" ++ (if isId then identText name else nameText name)
  | .string content => stringText content
  | .url content => "url(" ++ String.ofList (content.toList.flatMap bareUrlChar) ++ ")"
  | .number value => value.text
  | .percentage value => value.percentText
  | .dimension value unit => value.text ++ unitText unit
  | .opening bracket => bracket.ends.1
  | .closing bracket => bracket.ends.2
  | .comma => ","
  | .colon => ":"
  | .semicolon => ";"
  | .matcher mark => String.ofList [mark, '=']
  | .fence true => "<!--"
  | .fence false => "-->"
  | .delim c => String.ofList [c]
  | .broken => ""

namespace Piece

mutual

/-- Whether strings and addresses are whole and all brackets match. -/
def isSound : Piece → Bool
  | .token .broken => false
  | .token (.closing _) => false
  | .token _ => true
  | .block _ inside => areSound inside
  | .call _ inside => areSound inside

def areSound : List Piece → Bool
  | [] => true
  | p :: rest => p.isSound && areSound rest

end

mutual

/-- The text of a piece, nothing settled in it. -/
def text : Piece → String
  | .token t => t.text
  | .block bracket inside => bracket.ends.1 ++ textOf inside ++ bracket.ends.2
  | .call name inside => identText name ++ "(" ++ textOf inside ++ ")"

/-- The text of pieces one after another. -/
def textOf : List Piece → String
  | [] => ""
  | p :: rest => p.text ++ textOf rest

end

end Piece

/-- How deep brackets may nest where pieces are kept. -/
def deepest : Nat := 500

/-- Whether pieces may be kept as they are. -/
def mayBeKept (ps : List Piece) : Bool :=
  Piece.areSound ps && Piece.depthOf ps ≤ deepest

/-- The string that is all there is among pieces, gaps aside. -/
def onlyString? (ps : List Piece) : Option String :=
  match trimGaps ps with
  | [.token (.string content)] => some content
  | _ => none

/-- The address that a piece spells. -/
def Piece.url? : Piece → Option String
  | .token (.url url) => some url
  | .call name inside => if Text.lower name == "url" then onlyString? inside else none
  | _ => none

end Topiary.Sheet
