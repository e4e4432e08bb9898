import Topiary.Address.Name
import Topiary.Address.Percent

/-!
Hosts of addresses: names, numbers in four parts and numbers in eight parts.
-/

namespace Topiary.Address

/-- Why a text is no address. -/
inductive AddressError where
  | emptyHost
  | badName
  | badPort
  | badFourPart
  | badEightPart
  | badCharacter
  | relative
  | relativeToFlat
deriving Repr, DecidableEq

def AddressError.message : AddressError → String
  | .emptyHost => "empty host"
  | .badName => "invalid international domain name"
  | .badPort => "invalid port number"
  | .badFourPart => "invalid IPv4 address"
  | .badEightPart => "invalid IPv6 address"
  | .badCharacter => "invalid domain character"
  | .relative => "relative URL without a base"
  | .relativeToFlat => "relative URL with a cannot-be-a-base base"

/-- The number that digits write in a base of at most sixteen. -/
def readDigits (base : Nat) (digits : List Char) : Option Nat :=
  digits.foldl (fun value c => do
    let digit ← hexValue? c
    if digit < base then some ((← value) * base + digit) else none) (some 0)

/-! ## Eight parts -/

/-- Four parts in decimal at the end of a number in eight parts, as two parts. -/
def readTailParts (cs : List Char) : Option (List Nat) := do
  let parts ← (splitOn (· == '.') cs).mapM fun part =>
    match part with
    | [] => none
    | '0' :: _ :: _ => none
    | digits =>
      match readDigits 10 digits with
      | some n => if n < 256 then some n else none
      | none => none
  match parts with
  | [a, b, c, d] => some [a * 256 + b, c * 256 + d]
  | _ => none

/-- Parts with colons between them. -/
def readParts (cs : List Char) : Option (List Nat) :=
  if cs.isEmpty then some []
  else
    let texts := splitOn (· == ':') cs
    let hex := fun (part : List Char) =>
      if part.isEmpty || 4 < part.length then none else readDigits 16 part
    match texts.getLast? with
    | some last =>
      if last.contains '.' then do
        some ((← texts.dropLast.mapM hex) ++ (← readTailParts last))
      else texts.mapM hex
    | none => none

/-- What stands before and behind the first two colons that follow each other. -/
def splitGap : List Char → Option (List Char × List Char)
  | [] => none
  | ':' :: ':' :: rest => some ([], rest)
  | c :: rest => (splitGap rest).map fun (front, back) => (c :: front, back)

/-- The eight parts of a number; two colons stand for all parts that are missing. -/
def readEightParts (cs : List Char) : Option (List Nat) :=
  match splitGap cs with
  | none => (readParts cs).bind fun parts => if parts.length = 8 then some parts else none
  | some (front, back) => do
    if front.contains '.' then none
    else
      let front ← readParts front
      let back ← readParts back
      let missing := 8 - (front.length + back.length)
      if missing = 0 then none else some (front ++ List.replicate missing 0 ++ back)

/-- The length of the run of zeros at the front. -/
def zeroRun (parts : List Nat) : Nat := (parts.takeWhile (· == 0)).length

/-- The length of the longest run of zeros. -/
def longestRun : List Nat → Nat
  | [] => 0
  | p :: rest => max (zeroRun (p :: rest)) (longestRun rest)

/-- The parts before the first run of zeros of a given length. -/
def beforeRun (length : Nat) : List Nat → List Nat
  | [] => []
  | p :: rest => if zeroRun (p :: rest) = length then [] else p :: beforeRun length rest

def partsText (parts : List Nat) : String :=
  String.intercalate ":" (parts.map fun n => String.ofList (Nat.toDigits 16 n))

/-- The shortest text of a number in eight parts. -/
def eightPartsText (parts : List Nat) : String :=
  let run := longestRun parts
  if run < 2 then "[" ++ partsText parts ++ "]"
  else
    let front := beforeRun run parts
    "[" ++ partsText front ++ "::" ++ partsText (parts.drop (front.length + run)) ++ "]"

/-! ## Four parts -/

/-- A part in decimal, or in base eight or sixteen behind the mark of that base. -/
def readPart (cs : List Char) : Option Nat :=
  match cs with
  | [] => none
  | '0' :: 'x' :: digits => readDigits 16 digits
  | '0' :: 'X' :: digits => readDigits 16 digits
  | '0' :: c :: digits => readDigits 8 (c :: digits)
  | digits => readDigits 10 digits

/-- The parts of a name, without an empty one at the end. -/
def nameParts (cs : List Char) : List (List Char) :=
  let parts := splitOn (· == '.') cs
  match parts.reverse with
  | [] :: rest => if rest.isEmpty then parts else rest.reverse
  | _ => parts

/-- Whether a name is a number because its last part is one. -/
def endsInNumber (cs : List Char) : Bool :=
  match (nameParts cs).getLast? with
  | some last => (!last.isEmpty && last.all Char.isDigit) || (readPart last).isSome
  | none => false

/-- The number that parts stand for; the last part fills all places that are left. -/
def readFourParts (cs : List Char) : Option Nat := do
  let parts ← (nameParts cs).mapM readPart
  let last ← parts.getLast?
  let front := parts.dropLast
  if 4 < parts.length || front.any (255 < ·) then none
  else
    let places := 4 - front.length
    if Nat.pow 256 places ≤ last then none
    else some (front.foldl (fun n part => n * 256 + part) 0 * Nat.pow 256 places + last)

def fourPartsText (n : Nat) : String :=
  String.intercalate "."
    ([n / Nat.pow 256 3 % 256, n / Nat.pow 256 2 % 256, n / 256 % 256, n % 256].map toString)

/-! ## Hosts -/

/-- Characters that no host holds. -/
def isHostBreak (c : Char) : Bool :=
  c == '\x00' || ['\t', '\n', '\r', ' ', '#', '/', ':', '<', '>', '?', '@', '[', '\\', ']', '^',
    '|'].contains c

/-- Characters that no name of a host holds. -/
def isNameBreak (c : Char) : Bool :=
  isHostBreak c || c == '%' || c.toNat ≤ 0x20 || c == '\x7f'

/-- A number in eight parts between brackets. -/
def bracketed? (cs : List Char) : Option (Except AddressError String) :=
  match cs with
  | '[' :: inside =>
    some (match inside.reverse with
      | ']' :: rest =>
        match readEightParts rest.reverse with
        | some parts => .ok (eightPartsText parts)
        | none => .error .badEightPart
      | _ => .error .badEightPart)
  | _ => none

/-- The host of an address with a common scheme. Names are written in ASCII. -/
def readHost (cs : List Char) : Except AddressError String :=
  match bracketed? cs with
  | some host => host
  | none =>
    match (Text.decodeUtf8 (unescape cs)).toOption.bind fun text => asciiName? text.toList with
    | none => .error .badName
    | some name =>
      if name.isEmpty then .error .emptyHost
      else if name.any isNameBreak then .error .badName
      else if endsInNumber name then
        match readFourParts name with
        | some n => .ok (fourPartsText n)
        | none => .error .badFourPart
      else .ok (String.ofList name)

/-- The host of an address with any other scheme. -/
def readFreeHost (cs : List Char) : Except AddressError String :=
  match bracketed? cs with
  | some host => host
  | none => if cs.any isHostBreak then .error .badCharacter else .ok (escape [] cs)

end Topiary.Address
