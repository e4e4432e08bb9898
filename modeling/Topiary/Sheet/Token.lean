import Topiary.Text.Blank

/-!
Tokens of stylesheet text, and the text cut into them.
-/

namespace Topiary.Sheet

/-- A pair of brackets. -/
inductive Bracket where
  | round
  | square
  | curly
deriving Repr, DecidableEq

/-- A number as it is written: `digits * 10 ^ exponent`, negated or not. -/
structure Quantity where
  negative : Bool
  /-- Whether a sign is written. -/
  signed : Bool
  /-- Whether neither a point nor an exponent is written. -/
  whole : Bool
  digits : Nat
  exponent : Int
deriving Repr, DecidableEq

inductive Token where
  /-- White space as it stands in the text. -/
  | blank (text : String)
  /-- What stands between the marks of a comment. -/
  | comment (text : String)
  | ident (name : String)
  /-- A name with an opening bracket behind it. -/
  | function (name : String)
  | atWord (name : String)
  /-- A name behind a hash mark; `isId` tells whether it could stand alone. -/
  | hash (name : String) (isId : Bool)
  | string (content : String)
  | url (content : String)
  | number (value : Quantity)
  | percentage (value : Quantity)
  | dimension (value : Quantity) (unit : String)
  | opening (bracket : Bracket)
  | closing (bracket : Bracket)
  | comma
  | colon
  | semicolon
  /-- An equals sign with a mark before it. -/
  | matcher (mark : Char)
  /-- A mark that hides a sheet from old browsers, the opening or the closing one. -/
  | fence (opens : Bool)
  | delim (c : Char)
  /-- A string that a line's end cuts short, or an address that is broken. -/
  | broken
deriving Repr, DecidableEq

/-! ## Characters -/

def isNewline (c : Char) : Bool := c == '\n' || c == '\r' || c == '\x0c'

def isSpace (c : Char) : Bool := isNewline c || c == ' ' || c == '\t'

def isHex (c : Char) : Bool := c.isDigit || ('a' ≤ c.toLower && c.toLower ≤ 'f')

def hexValue (c : Char) : Nat :=
  if c.isDigit then c.toNat - '0'.toNat else c.toLower.toNat - 'a'.toNat + 10

/-- A character that a name may start with. -/
def isNameStart (c : Char) : Bool := c.isAlpha || c == '_' || c == '\x00' || 0x80 ≤ c.toNat

def isNameChar (c : Char) : Bool := isNameStart c || c.isDigit || c == '-'

/-- Whether an escape stands at the front. -/
def startsEscape : List Char → Bool
  | '\\' :: c :: _ => !isNewline c
  | ['\\'] => true
  | _ => false

/-- Whether a name stands at the front. -/
def startsName : List Char → Bool
  | '-' :: '-' :: _ => true
  | '-' :: c :: rest => isNameStart c || startsEscape (c :: rest)
  | c :: rest => isNameStart c || startsEscape (c :: rest)
  | [] => false

/-- Whether a number stands at the front. -/
def startsNumber : List Char → Bool
  | '+' :: '.' :: c :: _ => c.isDigit
  | '-' :: '.' :: c :: _ => c.isDigit
  | '.' :: c :: _ => c.isDigit
  | '+' :: c :: _ => c.isDigit
  | '-' :: c :: _ => c.isDigit
  | c :: _ => c.isDigit
  | [] => false

def codeChar (n : Nat) : Char :=
  if n = 0 || 0x10ffff < n || (0xd800 ≤ n && n ≤ 0xdfff) then '\ufffd' else Char.ofNat n

/-- The character that an escape stands for, behind its backslash, and what follows the escape. -/
def takeEscape : List Char → Char × List Char
  | [] => ('\ufffd', [])
  | c :: rest =>
    if isHex c then
      let digits := (c :: rest.takeWhile isHex).take 6
      let after := (c :: rest).drop digits.length
      let value := digits.foldl (fun n d => n * 16 + hexValue d) 0
      let after := match after with
        | '\r' :: '\n' :: after => after
        | d :: after => if isSpace d then after else d :: after
        | [] => []
      (codeChar value, after)
    else (if c = '\x00' then '\ufffd' else c, rest)

/-- A name and what follows it; `count` bounds the number of characters. -/
def takeNameChars : (count : Nat) → List Char → List Char × List Char
  | 0, cs => ([], cs)
  | _ + 1, [] => ([], [])
  | count + 1, c :: rest =>
    if isNameChar c then
      let (name, after) := takeNameChars count rest
      ((if c = '\x00' then '\ufffd' else c) :: name, after)
    else if startsEscape (c :: rest) then
      let (d, after) := takeEscape rest
      let (name, after) := takeNameChars count after
      (d :: name, after)
    else ([], c :: rest)

def takeName (cs : List Char) : String × List Char :=
  let (name, rest) := takeNameChars cs.length cs
  (String.ofList name, rest)

/-! ## Strings, addresses and comments -/

/-- The content of a string up to its closing quote, if no line ends in it, and what follows. -/
def takeStringChars (quote : Char) : (count : Nat) → List Char → Option (List Char) × List Char
  | 0, cs => (some [], cs)
  | _ + 1, [] => (some [], [])
  | count + 1, c :: rest =>
    if c = quote then (some [], rest)
    else if isNewline c then (none, c :: rest)
    else
      let onward := fun (chars : List Char) (rest : List Char) =>
        let (content, after) := takeStringChars quote count rest
        (content.map (chars ++ ·), after)
      if c = '\\' then
        match rest with
        | [] => (some [], [])
        | '\r' :: '\n' :: rest => onward [] rest
        | d :: after =>
          if isNewline d then onward [] after
          else
            let (e, after) := takeEscape (d :: after)
            onward [e] after
      else onward [if c = '\x00' then '\ufffd' else c] rest

def takeString (quote : Char) (cs : List Char) : Token × List Char :=
  match takeStringChars quote (cs.length + 1) cs with
  | (some content, rest) => (.string (String.ofList content), rest)
  | (none, rest) => (.broken, rest)

/-- What follows a broken address. -/
def skipUrl : (count : Nat) → List Char → List Char
  | 0, cs => cs
  | _ + 1, [] => []
  | _ + 1, ')' :: rest => rest
  | count + 1, '\\' :: _ :: rest => skipUrl count rest
  | count + 1, _ :: rest => skipUrl count rest

/-- Characters that no bare address holds. -/
def breaksUrl (c : Char) : Bool :=
  c == '"' || c == '\x27' || c == '(' ||
    (c.toNat < 0x20 && c != '\x00') || c == '\x7f'

/-- The characters of a bare address up to its closing bracket, unless it is broken, and what
follows. -/
def takeUrlChars : (count : Nat) → List Char → Option (List Char) × List Char
  | 0, cs => (some [], cs)
  | _ + 1, [] => (some [], [])
  | count + 1, c :: rest =>
    let onward := fun (d : Char) (rest : List Char) =>
      let (content, after) := takeUrlChars count rest
      (content.map (d :: ·), after)
    if c = ')' then (some [], rest)
    else if isSpace c then
      match rest.dropWhile isSpace with
      | [] => (some [], [])
      | ')' :: after => (some [], after)
      | after => (none, skipUrl after.length after)
    else if breaksUrl c then (none, skipUrl rest.length rest)
    else if c = '\\' then
      if startsEscape (c :: rest) then
        let (d, after) := takeEscape rest
        onward d after
      else (none, skipUrl rest.length rest)
    else onward (if c = '\x00' then '\ufffd' else c) rest

/-- A name, a function's opening or an address. -/
def takeWord (cs : List Char) : Token × List Char :=
  let (name, rest) := takeName cs
  match rest with
  | '(' :: inside =>
    if Text.lower name == "url" then
      match inside.dropWhile isSpace with
      | '"' :: _ => (.function name, inside)
      | '\x27' :: _ => (.function name, inside)
      | content =>
        match takeUrlChars (content.length + 1) content with
        | (some chars, after) => (.url (String.ofList chars), after)
        | (none, after) => (.broken, after)
    else (.function name, inside)
  | rest => (.ident name, rest)

/-- The content of a comment up to its closing mark, and what follows. -/
def takeComment : List Char → List Char × List Char
  | [] => ([], [])
  | '*' :: '/' :: rest => ([], rest)
  | c :: rest =>
    let (content, after) := takeComment rest
    (c :: content, after)

/-! ## Numbers -/

def digitsValue (digits : List Char) : Nat :=
  digits.foldl (fun n c => n * 10 + (c.toNat - '0'.toNat)) 0

/-- The exponent at the front, if one is written, and what follows. -/
def takeExponent (cs : List Char) : Option Int × List Char :=
  let digitsOf := fun (negative : Bool) (rest : List Char) =>
    let digits := rest.takeWhile Char.isDigit
    if digits.isEmpty then (none, cs)
    else
      let value : Int := digitsValue digits
      (some (if negative then -value else value), rest.dropWhile Char.isDigit)
  match cs with
  | e :: rest =>
    if e = 'e' || e = 'E' then
      match rest with
      | '+' :: rest => digitsOf false rest
      | '-' :: rest => digitsOf true rest
      | rest => digitsOf false rest
    else (none, cs)
  | [] => (none, cs)

/-- A number behind its sign. -/
def takeQuantity (negative signed : Bool) (cs : List Char) : Quantity × List Char :=
  let front := cs.takeWhile Char.isDigit
  let rest := cs.dropWhile Char.isDigit
  let (fraction, rest) := match rest with
    | '.' :: after =>
      if after.head?.any Char.isDigit then
        (after.takeWhile Char.isDigit, after.dropWhile Char.isDigit)
      else ([], '.' :: after)
    | rest => ([], rest)
  let (power, rest) := takeExponent rest
  (⟨negative, signed, fraction.isEmpty && power.isNone, digitsValue (front ++ fraction),
    power.getD 0 - fraction.length⟩, rest)

/-- A number with what belongs to it. -/
def takeNumber (cs : List Char) : Token × List Char :=
  let (value, rest) := match cs with
    | '+' :: rest => takeQuantity false true rest
    | '-' :: rest => takeQuantity true true rest
    | rest => takeQuantity false false rest
  match rest with
  | '%' :: rest => (.percentage value, rest)
  | rest =>
    if startsName rest then
      let (unit, rest) := takeName rest
      (.dimension value unit, rest)
    else (.number value, rest)

/-! ## Tokens -/

/-- A hash mark with the name behind it. -/
def takeHash (cs : List Char) : Token × List Char :=
  if startsName cs then
    let (name, rest) := takeName cs
    (.hash name true, rest)
  else if cs.head?.any fun c => c.isDigit || c == '-' then
    let (name, rest) := takeName cs
    (.hash name false, rest)
  else (.delim '#', cs)

/-- The token that a text starts with. -/
def takeToken (c : Char) (rest : List Char) : Token × List Char :=
  if isSpace c then (.blank (String.ofList (c :: rest.takeWhile isSpace)), rest.dropWhile isSpace)
  else if startsNumber (c :: rest) then takeNumber (c :: rest)
  else
    match c, rest with
    | '"', _ => takeString '"' rest
    | '\x27', _ => takeString '\x27' rest
    | '#', _ => takeHash rest
    | '(', _ => (.opening .round, rest)
    | ')', _ => (.closing .round, rest)
    | '[', _ => (.opening .square, rest)
    | ']', _ => (.closing .square, rest)
    | '{', _ => (.opening .curly, rest)
    | '}', _ => (.closing .curly, rest)
    | ',', _ => (.comma, rest)
    | ':', _ => (.colon, rest)
    | ';', _ => (.semicolon, rest)
    | '/', '*' :: inside =>
      let (content, rest) := takeComment inside
      (.comment (String.ofList content), rest)
    | '<', '!' :: '-' :: '-' :: rest => (.fence true, rest)
    | '-', '-' :: '>' :: rest => (.fence false, rest)
    | '$', '=' :: rest => (.matcher '$', rest)
    | '*', '=' :: rest => (.matcher '*', rest)
    | '^', '=' :: rest => (.matcher '^', rest)
    | '|', '=' :: rest => (.matcher '|', rest)
    | '~', '=' :: rest => (.matcher '~', rest)
    | '@', _ =>
      if startsName rest then
        let (name, rest) := takeName rest
        (.atWord name, rest)
      else (.delim '@', rest)
    | c, rest => if startsName (c :: rest) then takeWord (c :: rest) else (.delim c, rest)

/-- The tokens of a text, at most `count` of them. -/
def tokensWithin : (count : Nat) → List Char → List Token
  | 0, _ => []
  | _ + 1, [] => []
  | count + 1, c :: rest =>
    let (token, rest) := takeToken c rest
    token :: tokensWithin count rest

/-- The tokens of a text; every token takes at least one character. -/
def tokens (text : String) : List Token :=
  tokensWithin text.length text.toList

end Topiary.Sheet
