import Topiary.Json.Reader

/-!
What others need of a reader and a writer of JSON. Which documents there are is left open, and so is
how they are read and written. A codec is lawful if a string that was written is read again and is
written as the grammar of JSON has it.
-/

namespace Topiary.Json

/-- A reader and a writer of documents and of strings. -/
structure Codec (δ : Type) where
  /-- A whole text as one string literal. -/
  readString : String → Option String
  /-- A whole text as one document. -/
  read : String → Option δ
  /-- The string that a document is, if it is one. -/
  text? : δ → Option String
  /-- The compact written form of a document. -/
  write : δ → String
  /-- The compact written form of a string. -/
  writeText : String → String

/-- The characters that stand behind a backslash for one character. -/
def escapeLetters : List Char := ['"', '\\', '/', 'b', 'f', 'n', 'r', 't']

def hexDigits : List Char := "0123456789abcdefABCDEF".toList

/-- What may stand between the quotes of a string, by the grammar of JSON. -/
inductive StringBody : List Char → Prop where
  | nil : StringBody []
  | plain {c : Char} {body : List Char} :
      c ≠ '"' → c ≠ '\\' → 0x20 ≤ c.toNat → StringBody body → StringBody (c :: body)
  | short {e : Char} {body : List Char} :
      e ∈ escapeLetters → StringBody body → StringBody ('\\' :: e :: body)
  | numbered {digits body : List Char} :
      digits.length = 4 → (∀ d ∈ digits, d ∈ hexDigits) → StringBody body →
      StringBody ('\\' :: 'u' :: (digits ++ body))

/-- A string literal with nothing around it. -/
def IsLiteral (text : String) : Prop :=
  ∃ body, StringBody body ∧ text.toList = '"' :: (body ++ ['"'])

/-- A string is written as a literal, from which both readers get it back. -/
structure Codec.Lawful {δ : Type} (codec : Codec δ) : Prop where
  isLiteral_writeText : ∀ s, IsLiteral (codec.writeText s)
  readString_writeText : ∀ s, codec.readString (codec.writeText s) = some s
  read_writeText : ∀ s, ∃ document,
    codec.read (codec.writeText s) = some document ∧ codec.text? document = some s

/-- The reader and the writer of this library. -/
def codec : Codec Json where
  readString text := (readString text).toOption
  read text := (read text).toOption
  text?
    | .text content => some content
    | _ => none
  write := write
  writeText := writeText

end Topiary.Json
