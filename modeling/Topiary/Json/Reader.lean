import Topiary.Json.Value

/-!
Reading JSON from left to right. A text that stops too early and a text that goes wrong are told
apart, because callers report them differently. Each reader answers with what it read and with the
rest of the text.
-/

namespace Topiary.Json

/-- Why a text is not JSON. -/
inductive Fault where
  /-- The text ended inside a document. -/
  | ended
  /-- The text broke the grammar, or a number was out of range. -/
  | malformed
deriving Repr, DecidableEq

/-- The four blanks that may stand between the parts of a document. -/
def isGap (c : Char) : Bool :=
  c == ' ' || c == '\n' || c == '\t' || c == '\r'

def skipGap (cs : List Char) : List Char :=
  cs.dropWhile isGap

/-! ## Strings -/

/-- The character that a one-letter escape stands for. -/
def shortEscape : Char → Option Char
  | '"' => some '"'
  | '\\' => some '\\'
  | '/' => some '/'
  | 'b' => some '\x08'
  | 'f' => some '\x0c'
  | 'n' => some '\n'
  | 'r' => some '\r'
  | 't' => some '\t'
  | _ => none

/-- The value of a hexadecimal digit. -/
def hexValue (c : Char) : Option Nat :=
  if '0' ≤ c && c ≤ '9' then some (c.toNat - '0'.toNat)
  else if 'a' ≤ c && c ≤ 'f' then some (c.toNat - 'a'.toNat + 10)
  else if 'A' ≤ c && c ≤ 'F' then some (c.toNat - 'A'.toNat + 10)
  else none

/-- Four hexadecimal digits; fewer than four bytes of text count as an early end. -/
def readHex : List Char → Except Fault (Nat × List Char)
  | a :: b :: c :: d :: rest =>
    match hexValue a, hexValue b, hexValue c, hexValue d with
    | some a, some b, some c, some d => .ok (((a * 16 + b) * 16 + c) * 16 + d, rest)
    | _, _, _, _ => .error .malformed
  | short =>
    if short.foldl (fun n c => n + c.utf8Size) 0 < 4 then .error .ended else .error .malformed

/-- The second half of a surrogate pair, whose first half was `high`. -/
def readLowHalf (high : Nat) : List Char → Except Fault (Char × List Char)
  | [] => .error .ended
  | ['\\'] => .error .ended
  | '\\' :: 'u' :: rest => do
    let (low, rest) ← readHex rest
    if low < 0xdc00 || 0xdfff < low then .error .malformed
    else .ok (Char.ofNat (0x10000 + (high - 0xd800) * 0x400 + (low - 0xdc00)), rest)
  | _ => .error .malformed

/-- What follows a backslash. -/
def readEscape : List Char → Except Fault (Char × List Char)
  | [] => .error .ended
  | c :: rest =>
    match shortEscape c with
    | some plain => .ok (plain, rest)
    | none =>
      if c = 'u' then do
        let (unit, rest) ← readHex rest
        if 0xdc00 ≤ unit && unit ≤ 0xdfff then .error .malformed
        else if 0xd800 ≤ unit && unit ≤ 0xdbff then readLowHalf unit rest
        else .ok (Char.ofNat unit, rest)
      else .error .malformed

theorem readHex_length {cs rest : List Char} {n : Nat} (h : readHex cs = .ok (n, rest)) :
    rest.length < cs.length := by
  unfold readHex at h
  split at h
  · split at h
    · simp only [Except.ok.injEq, Prod.mk.injEq] at h
      simp only [← h.2, List.length_cons]
      omega
    · exact absurd h (by simp)
  · split at h <;> exact absurd h (by simp)

theorem readLowHalf_length {cs rest : List Char} {high : Nat} {c : Char}
    (h : readLowHalf high cs = .ok (c, rest)) : rest.length < cs.length := by
  unfold readLowHalf at h
  split at h
  · exact absurd h (by simp)
  · exact absurd h (by simp)
  · rename_i tail
    cases hx : readHex tail with
    | error e => simp [hx, bind, Except.bind] at h
    | ok pair =>
      simp only [hx, bind, Except.bind] at h
      split at h
      · exact absurd h (by simp)
      · have hl := readHex_length hx
        simp only [Except.ok.injEq, Prod.mk.injEq] at h
        simp only [← h.2, List.length_cons]
        omega
  · exact absurd h (by simp)

theorem readEscape_length {cs rest : List Char} {c : Char}
    (h : readEscape cs = .ok (c, rest)) : rest.length < cs.length := by
  unfold readEscape at h
  split at h
  · exact absurd h (by simp)
  · rename_i first tail
    split at h
    · simp only [Except.ok.injEq, Prod.mk.injEq] at h
      simp [h.2]
    · split at h
      · cases hx : readHex tail with
        | error e => simp [hx, bind, Except.bind] at h
        | ok pair =>
          have hl := readHex_length hx
          simp only [hx, bind, Except.bind] at h
          split at h
          · exact absurd h (by simp)
          · split at h
            · have := readLowHalf_length h
              simp only [List.length_cons]
              omega
            · simp only [Except.ok.injEq, Prod.mk.injEq] at h
              simp only [← h.2, List.length_cons]
              omega
      · exact absurd h (by simp)

/-- The characters of a string up to its closing quote. -/
def readChars (cs : List Char) : Except Fault (List Char × List Char) :=
  match cs with
  | [] => .error .ended
  | c :: rest =>
    if c = '"' then .ok ([], rest)
    else if c = '\\' then
      match h : readEscape rest with
      | .error fault => .error fault
      | .ok (plain, after) => do
        have : after.length < rest.length + 1 := Nat.lt_succ_of_lt (readEscape_length h)
        let (chars, rest) ← readChars after
        .ok (plain :: chars, rest)
    else if c.toNat < 0x20 then .error .malformed
    else do
      let (chars, rest) ← readChars rest
      .ok (c :: chars, rest)
termination_by cs.length

/-- A string whose opening quote has been read. -/
def readText (cs : List Char) : Except Fault (String × List Char) := do
  let (chars, rest) ← readChars cs
  .ok (String.ofList chars, rest)

/-! ## Numbers -/

def isDigit (c : Char) : Bool :=
  '0' ≤ c && c ≤ '9'

def digitValue (c : Char) : Nat :=
  c.toNat - '0'.toNat

/-- Digits taken into a significand as long as it fits 64 bits: the significand, how many digits
went in, and the rest. -/
def takeDigits (significand taken : Nat) : List Char → Nat × Nat × List Char
  | [] => (significand, taken, [])
  | c :: rest =>
    if isDigit c && significand * 10 + digitValue c < Nat.pow 2 64 then
      takeDigits (significand * 10 + digitValue c) (taken + 1) rest
    else (significand, taken, c :: rest)

/-- `x / 10 ^ e`, in steps that stay within the powers of ten that are doubles. -/
def divideByPower (x : Float) (e : Nat) : Float :=
  if e ≤ 308 then x / Float.ofScientific 1 false e
  else if x == 0.0 then x
  else divideByPower (x / Float.ofScientific 1 false 308) (e - 308)
termination_by e

/-- `significand * 10 ^ e` as a double, by one rounded operation where one is enough. -/
def scaled (negative : Bool) (significand : Nat) (e : Int) : Except Fault Json.Numeral := do
  let x := significand.toUInt64.toFloat
  let magnitude ←
    if e < 0 then pure (divideByPower x e.natAbs)
    else if 308 < e then
      if significand = 0 then pure x else throw .malformed
    else
      let product := x * Float.ofScientific 1 false e.natAbs
      if product.isInf then throw .malformed else pure product
  pure (.real (if negative then -magnitude else magnitude))

/-- What follows the letter of an exponent; `e` is the exponent that the digits before it gave. -/
def readExponent (negative : Bool) (significand : Nat) (e : Int) (cs : List Char) :
    Except Fault (Json.Numeral × List Char) :=
  let (down, cs) := match cs with
    | '+' :: rest => (false, rest)
    | '-' :: rest => (true, rest)
    | _ => (false, cs)
  match cs with
  | [] => .error .ended
  | c :: _ =>
    if isDigit c then do
      let digits := cs.takeWhile isDigit
      let rest := cs.dropWhile isDigit
      let written := digits.foldl (fun n c => n * 10 + digitValue c) 0
      if Nat.pow 2 31 ≤ written then
        if significand ≠ 0 && !down then .error .malformed
        else .ok (.real (if negative then -0.0 else 0.0), rest)
      else
        let value ← scaled negative significand (if down then e - written else e + written)
        .ok (value, rest)
    else .error .malformed

/-- What follows the digits of a number that is already known to be a double. -/
def readTail (negative : Bool) (significand : Nat) (e : Int) (cs : List Char) :
    Except Fault (Json.Numeral × List Char) :=
  match cs with
  | c :: rest =>
    if c = 'e' || c = 'E' then readExponent negative significand e rest
    else (scaled negative significand e).map (·, cs)
  | [] => (scaled negative significand e).map (·, cs)

/-- What follows the point of a number. -/
def readFraction (negative : Bool) (significand : Nat) (e : Int) (cs : List Char) :
    Except Fault (Json.Numeral × List Char) :=
  match cs with
  | [] => .error .ended
  | c :: _ =>
    if isDigit c then
      let (longer, taken, rest) := takeDigits significand 0 cs
      readTail negative longer (e - taken) (rest.dropWhile isDigit)
    else .error .malformed

/-- An integer that fits 64 bits, signed or unsigned, stays one; `-0` and what is below do not. -/
def ofInteger (negative : Bool) (n : Nat) : Json.Numeral :=
  if negative then
    if n = 0 || Nat.pow 2 63 < n then .real (-n.toUInt64.toFloat) else .integer (-n)
  else .integer n

/-- What follows the integer digits of a number. -/
def readAfterInteger (negative : Bool) (significand : Nat) (cs : List Char) :
    Except Fault (Json.Numeral × List Char) :=
  match cs with
  | '.' :: rest => readFraction negative significand 0 rest
  | 'e' :: rest => readExponent negative significand 0 rest
  | 'E' :: rest => readExponent negative significand 0 rest
  | _ => .ok (ofInteger negative significand, cs)

/-- A number without its sign. -/
def readMagnitude (negative : Bool) : List Char → Except Fault (Json.Numeral × List Char)
  | [] => .error .ended
  | c :: rest =>
    if c = '0' then
      match rest with
      | d :: _ => if isDigit d then .error .malformed else readAfterInteger negative 0 rest
      | [] => readAfterInteger negative 0 rest
    else if isDigit c then
      let (significand, _, after) := takeDigits (digitValue c) 0 rest
      match after.takeWhile isDigit with
      | [] => readAfterInteger negative significand after
      | more =>
        match after.dropWhile isDigit with
        | '.' :: rest => readFraction negative significand more.length rest
        | rest => readTail negative significand more.length rest
    else .error .malformed

/-- A number: an optional minus sign and a magnitude. -/
def readNumber : List Char → Except Fault (Json.Numeral × List Char)
  | '-' :: rest => readMagnitude true rest
  | cs => readMagnitude false cs

/-! ## Documents -/

/-- The rest of a literal word. -/
def readWord (word : List Char) (value : α) (cs : List Char) : Except Fault (α × List Char) :=
  match word, cs with
  | [], cs => .ok (value, cs)
  | _ :: _, [] => .error .ended
  | w :: word, c :: cs => if c = w then readWord word value cs else .error .malformed

/-- The text of the next item or member: all but the first follow a comma. -/
def nextPart (first : Bool) (c : Char) (rest : List Char) : Except Fault (List Char) :=
  if first then .ok (c :: rest)
  else if c = ',' then .ok rest
  else .error .malformed

mutual

/-- A document that may hold `depth` further levels of arrays and objects. -/
def readValue (fuel depth : Nat) (cs : List Char) : Except Fault (Json × List Char) :=
  match fuel with
  | 0 => .error .ended
  | fuel + 1 =>
    match skipGap cs with
    | [] => .error .ended
    | c :: rest =>
      if c = '[' then
        match depth with
        | 0 => .error .malformed
        | depth + 1 => do
          let (items, rest) ← readItems fuel depth true rest
          .ok (.array items, rest)
      else if c = '\x7b' then
        match depth with
        | 0 => .error .malformed
        | depth + 1 => do
          let (members, rest) ← readMembers fuel depth true [] rest
          .ok (.object members, rest)
      else if c = '"' then do
        let (value, rest) ← readText rest
        .ok (.text value, rest)
      else if c = 'n' then readWord ['u', 'l', 'l'] .null rest
      else if c = 't' then readWord ['r', 'u', 'e'] (.bool true) rest
      else if c = 'f' then readWord ['a', 'l', 's', 'e'] (.bool false) rest
      else if c = '-' || isDigit c then do
        let (value, rest) ← readNumber (c :: rest)
        .ok (.number value, rest)
      else .error .malformed

/-- The items of an array up to its closing bracket. -/
def readItems (fuel depth : Nat) (first : Bool) (cs : List Char) :
    Except Fault (List Json × List Char) :=
  match fuel with
  | 0 => .error .ended
  | fuel + 1 =>
    match skipGap cs with
    | [] => .error .ended
    | c :: rest =>
      if c = ']' then .ok ([], rest)
      else
        match nextPart first c rest with
        | .error fault => .error fault
        | .ok start =>
          match skipGap start with
          | ']' :: _ => .error .malformed
          | start => do
            let (item, rest) ← readValue fuel depth start
            let (items, rest) ← readItems fuel depth false rest
            .ok (item :: items, rest)

/-- The members of an object up to its closing brace, added to those read before. -/
def readMembers (fuel depth : Nat) (first : Bool) (members : List (String × Json))
    (cs : List Char) : Except Fault (List (String × Json) × List Char) :=
  match fuel with
  | 0 => .error .ended
  | fuel + 1 =>
    match skipGap cs with
    | [] => .error .ended
    | c :: rest =>
      if c = '\x7d' then .ok (members, rest)
      else
        match nextPart first c rest with
        | .error fault => .error fault
        | .ok start =>
          match skipGap start with
          | [] => .error .ended
          | '"' :: rest => do
            let (name, rest) ← readText rest
            match skipGap rest with
            | [] => .error .ended
            | ':' :: rest =>
              let (value, rest) ← readValue fuel depth rest
              readMembers fuel depth false (insertMember name value members) rest
            | _ => .error .malformed
          | _ => .error .malformed

end

/-- A whole text as one document with at most `depth` nested levels. -/
def readWithin (depth : Nat) (text : String) : Except Fault Json := do
  let (value, rest) ← readValue (3 * text.length + 3) depth text.toList
  if (skipGap rest).isEmpty then .ok value else .error .malformed

/-- A whole text as one document; nesting deeper than 127 levels is refused. -/
def read (text : String) : Except Fault Json :=
  readWithin 127 text

/-- A whole text as one string literal. -/
def readString (text : String) : Except Fault String :=
  match skipGap text.toList with
  | '"' :: rest => do
    let (value, rest) ← readText rest
    if (skipGap rest).isEmpty then .ok value else .error .malformed
  | [] => .error .ended
  | _ => .error .malformed

end Topiary.Json
