import Topiary.Text.Utf8

/-!
Octets in addresses, written as a percent sign and two digits where a part of an address cannot hold
them as they are.
-/

namespace Topiary.Address

/-- A set of ASCII characters. All other octets but printable ASCII belong to every set. -/
abbrev EscapeSet := List Char

/-- What a fragment cannot hold. -/
def fragmentSet : EscapeSet := [' ', '"', '<', '>', '\x60']

/-- What a path cannot hold. -/
def pathSet : EscapeSet := fragmentSet ++ ['#', '?', '\x7b', '\x7d']

/-- What a step of a path cannot hold. -/
def stepSet : EscapeSet := pathSet ++ ['/', '%', '\\']

/-- What a user's name cannot hold. -/
def userSet : EscapeSet := pathSet ++ ['/', ':', ';', '=', '@', '[', '\\', ']', '^', '|']

/-- What a query cannot hold. -/
def querySet : EscapeSet := [' ', '"', '#', '<', '>']

/-- What a query of a common scheme cannot hold. -/
def commonQuerySet : EscapeSet := querySet ++ ['\x27']

def hexDigit (n : Nat) : Char :=
  if n < 10 then Char.ofNat ('0'.toNat + n) else Char.ofNat ('A'.toNat + (n - 10))

def escapeOctet (octet : UInt8) : List Char :=
  ['%', hexDigit (octet.toNat / 16), hexDigit (octet.toNat % 16)]

def escapeChar (set : EscapeSet) (c : Char) : List Char :=
  if c.toNat < 0x20 || 0x7f ≤ c.toNat || set.contains c then
    (String.utf8EncodeChar c).flatMap escapeOctet
  else [c]

def escape (set : EscapeSet) (cs : List Char) : String :=
  String.ofList (cs.flatMap (escapeChar set))

def hexValue? (c : Char) : Option Nat :=
  if c.isDigit then some (c.toNat - '0'.toNat)
  else if 'a' ≤ c.toLower && c.toLower ≤ 'f' then some (c.toLower.toNat - 'a'.toNat + 10)
  else none

/-- The octets that a text with escapes stands for. -/
def unescape : List Char → List UInt8
  | [] => []
  | '%' :: a :: b :: rest =>
    match hexValue? a, hexValue? b with
    | some high, some low => UInt8.ofNat (high * 16 + low) :: unescape rest
    | _, _ => '%'.toUInt8 :: unescape (a :: b :: rest)
  | c :: rest => String.utf8EncodeChar c ++ unescape rest

end Topiary.Address
