/-!
Text from octets. Reading stops at the first octets that are no character and tells where they start
and how many of them can be no part of one.
-/

namespace Topiary.Text

/-- Octets that are no text. -/
structure Utf8Error where
  /-- The number of octets that are text. -/
  index : Nat
  /-- The number of octets to blame; nothing if the octets end inside a character. -/
  length : Option Nat
deriving Repr, DecidableEq

def Utf8Error.message (e : Utf8Error) : String :=
  match e.length with
  | some n => "invalid utf-8 sequence of " ++ toString n ++ " bytes from index " ++ toString e.index
  | none => "incomplete utf-8 byte sequence from index " ++ toString e.index

/-- The bounds of the octet behind the first octet of a longer character: they exclude numbers that
have a shorter form, surrogates and numbers above the last character. -/
def secondBounds (first : Nat) : Nat × Nat :=
  if first = 0xe0 then (0xa0, 0xbf)
  else if first = 0xed then (0x80, 0x9f)
  else if first = 0xf0 then (0x90, 0xbf)
  else if first = 0xf4 then (0x80, 0x8f)
  else (0x80, 0xbf)

def within (bounds : Nat × Nat) (octet : UInt8) : Bool :=
  bounds.1 ≤ octet.toNat && octet.toNat ≤ bounds.2

def isContinuation (octet : UInt8) : Bool := within (0x80, 0xbf) octet

/-- The low six bits of a continuation octet. -/
def low (octet : UInt8) : Nat := octet.toNat % 64

/-- The characters that octets spell, the first octet being number `index`. -/
def decodeFrom (index : Nat) : List UInt8 → Except Utf8Error (List Char)
  | [] => .ok []
  | a :: rest =>
    let first := a.toNat
    if first < 0x80 then (decodeFrom (index + 1) rest).map (Char.ofNat first :: ·)
    else if first < 0xc2 || 0xf4 < first then .error ⟨index, some 1⟩
    else
      match rest with
      | [] => .error ⟨index, none⟩
      | b :: rest =>
        if !within (secondBounds first) b then .error ⟨index, some 1⟩
        else if first < 0xe0 then
          (decodeFrom (index + 2) rest).map (Char.ofNat ((first - 0xc0) * 64 + low b) :: ·)
        else
          match rest with
          | [] => .error ⟨index, none⟩
          | c :: rest =>
            if !isContinuation c then .error ⟨index, some 2⟩
            else if first < 0xf0 then
              (decodeFrom (index + 3) rest).map
                (Char.ofNat (((first - 0xe0) * 64 + low b) * 64 + low c) :: ·)
            else
              match rest with
              | [] => .error ⟨index, none⟩
              | d :: rest =>
                if !isContinuation d then .error ⟨index, some 3⟩
                else
                  (decodeFrom (index + 4) rest).map
                    (Char.ofNat ((((first - 0xf0) * 64 + low b) * 64 + low c) * 64 + low d) :: ·)

/-- The text that octets spell. -/
def decodeUtf8 (octets : List UInt8) : Except Utf8Error String :=
  (decodeFrom 0 octets).map String.ofList

/-- The octets of a text. -/
def encodeUtf8 (text : String) : List UInt8 :=
  text.toList.flatMap String.utf8EncodeChar

end Topiary.Text
