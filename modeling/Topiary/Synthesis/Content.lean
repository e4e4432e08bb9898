import Topiary.Json.Codec
import Topiary.Text.Blank
import Topiary.Text.Quoted

/-!
Decoding the `content` of a rule. A JSON literal is content as it stands, `url(…)` names a document
that is fetched, and everything else is no content.
-/

namespace Topiary.Synthesis

open Topiary.Text

/-- What becomes of a fetch once it is waited for. -/
inductive Fetch where
  | value (document : Json)
  | failed
  /-- No answer before any time limit. -/
  | stalled
deriving Repr, Inhabited

/-- The fate of a fetch that is answered at once. -/
def Fetch.ofDocument {ε : Type} : Except ε Json → Fetch
  | .ok document => .value document
  | .error _ => .failed

/-- A source of documents, with the addresses it was asked for so far. -/
structure Fetcher where
  answer : String → Fetch
  asked : List String

namespace Fetcher

/-- A source that nobody has asked yet. -/
def ofAnswers (answer : String → Fetch) : Fetcher := ⟨answer, []⟩

/-- Start a fetch. -/
def ask (f : Fetcher) (url : String) : Fetch × Fetcher :=
  (f.answer url, { f with asked := f.asked ++ [url] })

end Fetcher

/-- Content that is being fetched. -/
structure Pending where
  url : String
  fetch : Fetch
deriving Repr, Inhabited

/-- A short text that shows a pending content. -/
def Pending.describe (p : Pending) : String :=
  "PendingContent \x7b url: " ++ quoted p.url ++ ", .. \x7d"

/-- The decoded content of a rule. -/
inductive Payload where
  | literal (text : String)
  | pending (pending : Pending)
  | absent
deriving Repr, Inhabited

def Payload.isAbsent : Payload → Bool
  | .absent => true
  | _ => false

/-- The argument of `url(…)`. -/
inductive UrlArgument where
  /-- With its quotes and escapes. -/
  | quoted (literal : List Char)
  | bare (address : List Char)
deriving Repr, DecidableEq

/-- The rest of a quoted argument up to the closing quote, and what follows; a backslash takes the
next character with it, which must not be a line feed. -/
def splitLiteral : List Char → Option (List Char × List Char)
  | [] => none
  | '"' :: rest => some (['"'], rest)
  | '\\' :: [] => none
  | '\\' :: c :: rest =>
    if c = '\n' then none
    else (splitLiteral rest).map fun (literal, rest) => ('\\' :: c :: literal, rest)
  | c :: rest => (splitLiteral rest).map fun (literal, rest) => (c :: literal, rest)

/-- What may stand in an argument without quotes. -/
def isBareChar (c : Char) : Bool :=
  !isAsciiBlank c && c != '"' && c != '\x27' && c != '(' && c != ')'

/-- Whether nothing but blanks and a closing parenthesis is left. -/
def closes (cs : List Char) : Bool :=
  cs.dropWhile isAsciiBlank == [')']

/-- Read a text as `url(…)`. -/
def urlArgument? : List Char → Option UrlArgument
  | 'u' :: 'r' :: 'l' :: '(' :: cs =>
    match cs.dropWhile isAsciiBlank with
    | '"' :: rest =>
      match splitLiteral rest with
      | some (literal, rest) => if closes rest then some (.quoted ('"' :: literal)) else none
      | none => none
    | rest =>
      let address := rest.takeWhile isBareChar
      if !address.isEmpty && closes (rest.dropWhile isBareChar) then some (.bare address) else none
  | _ => none

variable {δ : Type}

/-- The address that an argument names; a quoted one has to be a JSON string. -/
def UrlArgument.address? (codec : Json.Codec δ) : UrlArgument → Option String
  | .quoted literal => codec.readString (String.ofList literal)
  | .bare address => some (String.ofList address)

/-- The text of a literal document: a string without its quotes, anything else as JSON. -/
def literalText (codec : Json.Codec δ) (document : δ) : String :=
  (codec.text? document).getD (codec.write document)

/-- Decode a raw value by any reader of JSON. Only an address that could be read is asked for. -/
def decodeContentWith (codec : Json.Codec δ) (fetcher : Fetcher) (raw : Option String) :
    Payload × Fetcher :=
  match raw with
  | none => (.absent, fetcher)
  | some raw =>
    let trimmed := trim raw
    if trimmed = "" then (.absent, fetcher)
    else
      match urlArgument? trimmed.toList with
      | some argument =>
        match argument.address? codec with
        | none => (.absent, fetcher)
        | some url =>
          let (fetch, fetcher) := fetcher.ask url
          (.pending ⟨url, fetch⟩, fetcher)
      | none =>
        match codec.read trimmed with
        | some document => (.literal (literalText codec document), fetcher)
        | none => (.absent, fetcher)

/-- Decode a raw value. -/
def decodeContent (fetcher : Fetcher) (raw : Option String) : Payload × Fetcher :=
  decodeContentWith Json.codec fetcher raw

end Topiary.Synthesis
