import Topiary.Markup.References
import Topiary.Text.Blank
import Topiary.Tree.Attributes

/-!
Tokens of HTML text. Which characters belong to a token depends on where in the document the text
stands, so tokens are cut off one at a time, in the mode that the document asks for.
-/

namespace Topiary.Markup

/-- A start tag with its attributes, each name once. -/
structure StartTag where
  name : String
  attributes : List Attribute
  selfClosing : Bool
deriving Repr, DecidableEq

/-- A document type declaration. -/
structure Doctype where
  name : Option String
  publicId : Option String
  systemId : Option String
  /-- The declaration is broken. -/
  broken : Bool
deriving Repr, DecidableEq

inductive Token where
  | doctype (doctype : Doctype)
  | startTag (tag : StartTag)
  | endTag (name : String)
  | comment (content : String)
  /-- Characters all of which are white space. -/
  | blank (content : String)
  /-- Characters none of which is white space. -/
  | text (content : String)
  /-- A NUL character. -/
  | null
  | finish
deriving Repr, DecidableEq

/-- What a step of reading finds. -/
inductive Found where
  | token (token : Token)
  /-- Something that the rules of text forbid. It means nothing, but what follows it no longer
  follows what stands before it. -/
  | fault
deriving Repr, DecidableEq

/-- How text is read. -/
inductive Mode where
  /-- Tags and references count. -/
  | data
  /-- Only references and the end tag of the named element count. -/
  | escapable (name : String)
  /-- Only the end tag of the named element counts. -/
  | raw (name : String)
  /-- As raw text, with escaped stretches that may hold further script tags. -/
  | script
  /-- Nothing counts any more. -/
  | plain
deriving Repr, DecidableEq, Inhabited

/-! ## Characters -/

/-- White space between the parts of a tag; carriage returns are normalised before. -/
def isGap (c : Char) : Bool :=
  c == ' ' || c == '\t' || c == '\n' || c == '\x0c'

/-- White space in text, where a reference can write a carriage return. -/
def isTextBlank (c : Char) : Bool :=
  isGap c || c == '\r'

def replacement : Char := '\ufffd'

/-- NUL characters are replaced. -/
def replaceNull (c : Char) : Char :=
  if c = '\x00' then replacement else c

/-- ASCII letters in lower case and NUL characters replaced. -/
def nameChar (c : Char) : Char :=
  replaceNull c.toLower

/-- Line ends are line feeds, whatever they were; a leading byte order mark goes. -/
def normalize (cs : List Char) : List Char :=
  let rec lines : List Char → List Char
    | [] => []
    | '\r' :: '\n' :: rest => '\n' :: lines rest
    | '\r' :: rest => '\n' :: lines rest
    | c :: rest => c :: lines rest
  match cs with
  | '\ufeff' :: rest => lines rest
  | cs => lines cs

/-- What follows a word that is matched without regard to ASCII case. -/
def dropWord : List Char → List Char → Option (List Char)
  | [], cs => some cs
  | _ :: _, [] => none
  | w :: word, c :: cs => if c.toLower = w then dropWord word cs else none

/-! ## Character references -/

/-- The characters that the numbers 128 to 159 stand for, as far as they are replaced. -/
def legacyCodes : List (Nat × Nat) :=
  [(0x80, 0x20ac), (0x82, 0x201a), (0x83, 0x0192), (0x84, 0x201e), (0x85, 0x2026), (0x86, 0x2020),
    (0x87, 0x2021), (0x88, 0x02c6), (0x89, 0x2030), (0x8a, 0x0160), (0x8b, 0x2039),
    (0x8c, 0x0152), (0x8e, 0x017d), (0x91, 0x2018), (0x92, 0x2019), (0x93, 0x201c),
    (0x94, 0x201d), (0x95, 0x2022), (0x96, 0x2013), (0x97, 0x2014), (0x98, 0x02dc),
    (0x99, 0x2122), (0x9a, 0x0161), (0x9b, 0x203a), (0x9c, 0x0153), (0x9e, 0x017e),
    (0x9f, 0x0178)]

/-- The character that a number stands for. -/
def numberedChar (n : Nat) : Char :=
  if n = 0 || 0x10ffff < n || (0xd800 ≤ n && n ≤ 0xdfff) then replacement
  else Char.ofNat ((legacyCodes.lookup n).getD n)

def isHexDigit (c : Char) : Bool :=
  c.isDigit || ('a' ≤ c.toLower && c.toLower ≤ 'f')

def hexDigit (c : Char) : Nat :=
  if c.isDigit then c.toNat - '0'.toNat else c.toLower.toNat - 'a'.toNat + 10

/-- A number in the given base with an optional semicolon behind it. -/
def takeNumber (base : Nat) (isDigit : Char → Bool) (cs : List Char) :
    Option (List Char × List Char) :=
  let digits := cs.takeWhile isDigit
  if digits.isEmpty then none
  else
    let value := digits.foldl (fun n c => min (n * base + hexDigit c) 0x110000) 0
    let rest := match cs.dropWhile isDigit with
      | ';' :: rest => rest
      | rest => rest
    some ([numberedChar value], rest)

/-- The longest of the first `length` characters that is a name without semicolon. In an attribute
it does not count before an equals sign, a letter or a digit. -/
def openReference (inValue : Bool) (cs : List Char) :
    (length : Nat) → Option (List Char × List Char)
  | 0 => none
  | length + 1 =>
    let name := cs.take (length + 1)
    if openReferences.contains name then
      let rest := cs.drop (length + 1)
      let blocked := inValue && (rest.head?.any fun c => c == '=' || c.isAlphanum)
      if blocked then none else (reference? name).map (·, rest)
    else openReference inValue cs length

/-- What the text behind an ampersand refers to, and what follows the reference. -/
def takeReference (inValue : Bool) (cs : List Char) : Option (List Char × List Char) :=
  match cs with
  | '#' :: 'x' :: rest => takeNumber 16 isHexDigit rest
  | '#' :: 'X' :: rest => takeNumber 16 isHexDigit rest
  | '#' :: rest => takeNumber 10 Char.isDigit rest
  | _ =>
    let word := cs.takeWhile Char.isAlphanum
    match cs.dropWhile Char.isAlphanum with
    | ';' :: rest =>
      match reference? word with
      | some chars => some (chars, rest)
      | none => openReference inValue cs word.length
    | _ => openReference inValue cs word.length

/-- The text of an attribute value, references resolved; `count` bounds their number. -/
def valueText : (count : Nat) → List Char → List Char
  | 0, cs => cs.map replaceNull
  | _ + 1, [] => []
  | count + 1, '&' :: rest =>
    match takeReference true rest with
    | some (chars, rest) => chars ++ valueText count rest
    | none => '&' :: valueText count rest
  | count + 1, c :: rest => replaceNull c :: valueText count rest

def decodeValue (cs : List Char) : String :=
  String.ofList (valueText cs.length cs)

/-! ## Tags -/

/-- An attribute's value and what follows it; nothing if the text ends inside the value. -/
def takeValue (cs : List Char) : Option (String × List Char) :=
  match cs.dropWhile isGap with
  | [] => none
  | '>' :: rest => some ("", '>' :: rest)
  | c :: rest =>
    if c = '"' || c = '\x27' then
      match rest.dropWhile (· != c) with
      | [] => none
      | _ :: after => some (decodeValue (rest.takeWhile (· != c)), after)
    else
      let ends := fun c => isGap c || c == '>'
      some (decodeValue ((c :: rest).takeWhile fun c => !ends c),
        (c :: rest).dropWhile fun c => !ends c)

/-- Add an attribute unless its name is there. -/
def addAttribute (attributes : List Attribute) (a : Attribute) : List Attribute :=
  if attributes.any fun other => other.name == a.name then attributes else attributes ++ [a]

/-- The attributes of a tag, whether it closes itself, and what follows the tag; nothing if the text
ends inside the tag. The number of steps is bounded by `count`. -/
def takeAttributes (attributes : List Attribute) : (count : Nat) → List Char →
    Option (List Attribute × Bool × List Char)
  | 0, _ => none
  | count + 1, cs =>
    match cs.dropWhile isGap with
    | [] => none
    | '>' :: rest => some (attributes, false, rest)
    | '/' :: '>' :: rest => some (attributes, true, rest)
    | '/' :: rest => takeAttributes attributes count rest
    | c :: rest =>
      let inName := fun c => !(isGap c || c == '/' || c == '>' || c == '=')
      let name := String.ofList ((c :: rest.takeWhile inName).map nameChar)
      match (rest.dropWhile inName).dropWhile isGap with
      | '=' :: after =>
        match takeValue after with
        | none => none
        | some (value, after) =>
          takeAttributes (addAttribute attributes ⟨name, value⟩) count after
      | after => takeAttributes (addAttribute attributes ⟨name, ""⟩) count after

/-- A tag's name and what the name is followed by. -/
def takeTagName (cs : List Char) : String × List Char :=
  let inName := fun c => !(isGap c || c == '/' || c == '>')
  (String.ofList ((cs.takeWhile inName).map nameChar), cs.dropWhile inName)

/-- A start tag behind its opening bracket. -/
def takeStartTag (cs : List Char) : Option Token × List Char :=
  let (name, rest) := takeTagName cs
  match takeAttributes [] (cs.length + 1) rest with
  | none => (none, [])
  | some (attributes, selfClosing, rest) =>
    (some (.startTag ⟨name, attributes, selfClosing⟩), rest)

/-- An end tag behind its opening bracket and slash. -/
def takeEndTag (cs : List Char) : Option Token × List Char :=
  let (name, rest) := takeTagName cs
  match takeAttributes [] (cs.length + 1) rest with
  | none => (none, [])
  | some (_, _, rest) => (some (.endTag name), rest)

/-! ## Comments and declarations -/

/-- What stands before the end mark of a comment, and what follows the mark. -/
def splitComment : List Char → Option (List Char × List Char)
  | [] => none
  | '-' :: '-' :: '>' :: rest => some ([], rest)
  | '-' :: '-' :: '!' :: '>' :: rest => some ([], rest)
  | c :: rest => (splitComment rest).map fun (content, rest) => (c :: content, rest)

/-- The content of a comment that the text's end cuts short: the beginning of an end mark is left
out. -/
def openComment (cs : List Char) : List Char :=
  match cs.reverse with
  | '!' :: '-' :: '-' :: rest => rest.reverse
  | '-' :: '-' :: rest => rest.reverse
  | '-' :: rest => rest.reverse
  | _ => cs

def commentToken (content : List Char) : Option Token :=
  some (.comment (String.ofList (content.map replaceNull)))

/-- A comment behind its opening mark. -/
def takeComment (cs : List Char) : Option Token × List Char :=
  match cs with
  | '>' :: rest => (commentToken [], rest)
  | '-' :: '>' :: rest => (commentToken [], rest)
  | _ =>
    match splitComment cs with
    | some (content, rest) => (commentToken content, rest)
    | none => (commentToken (openComment cs), [])

/-- Something that only looks like a tag is a comment up to the next closing bracket. -/
def takeBogusComment (cs : List Char) : Option Token × List Char :=
  (commentToken (cs.takeWhile (· != '>')), (cs.dropWhile (· != '>')).drop 1)

/-- An identifier between quotes, whether it is closed, and what follows. -/
def takeIdentifier (cs : List Char) : Option (String × Bool × List Char) :=
  match cs.dropWhile isGap with
  | [] => none
  | c :: rest =>
    if c = '"' || c = '\x27' then
      let content := rest.takeWhile fun d => d != c && d != '>'
      let text := String.ofList (content.map replaceNull)
      match rest.dropWhile fun d => d != c && d != '>' with
      | d :: after => some (text, d == c, if d = c then after else d :: after)
      | [] => some (text, false, [])
    else none

/-- What follows the declaration's closing bracket. -/
def skipDeclaration (cs : List Char) : List Char :=
  (cs.dropWhile (· != '>')).drop 1

/-- The end of a declaration whose identifiers have been read. -/
def closeDoctype (d : Doctype) (cs : List Char) : Option Token × List Char :=
  match cs.dropWhile isGap with
  | [] => (some (.doctype { d with broken := true }), [])
  | '>' :: rest => (some (.doctype d), rest)
  | rest => (some (.doctype d), skipDeclaration rest)

/-- A declaration from its system identifier on; `optional` tells whether it may be missing. -/
def takeSystemId (d : Doctype) (mayMiss : Bool) (cs : List Char) : Option Token × List Char :=
  match takeIdentifier cs with
  | some (text, true, rest) => closeDoctype { d with systemId := some text } rest
  | some (text, false, rest) =>
    (some (.doctype { d with systemId := some text, broken := true }), skipDeclaration rest)
  | none =>
    match cs.dropWhile isGap with
    | '>' :: rest => (some (.doctype { d with broken := d.broken || !mayMiss }), rest)
    | rest => (some (.doctype { d with broken := true }), skipDeclaration rest)

/-- A document type declaration behind its keyword. -/
def takeDoctype (cs : List Char) : Option Token × List Char :=
  match cs.dropWhile isGap with
  | [] => (some (.doctype ⟨none, none, none, true⟩), [])
  | '>' :: rest => (some (.doctype ⟨none, none, none, true⟩), rest)
  | cs =>
    let inName := fun c => !(isGap c || c == '>')
    let d : Doctype :=
      ⟨some (String.ofList ((cs.takeWhile inName).map nameChar)), none, none, false⟩
    match (cs.dropWhile inName).dropWhile isGap with
    | [] => (some (.doctype { d with broken := true }), [])
    | '>' :: rest => (some (.doctype d), rest)
    | rest =>
      match dropWord ['p', 'u', 'b', 'l', 'i', 'c'] rest with
      | some rest =>
        match takeIdentifier rest with
        | some (text, true, rest) => takeSystemId { d with publicId := some text } true rest
        | some (text, false, rest) =>
          (some (.doctype { d with publicId := some text, broken := true }), skipDeclaration rest)
        | none => (some (.doctype { d with broken := true }), skipDeclaration rest)
      | none =>
        match dropWord ['s', 'y', 's', 't', 'e', 'm'] rest with
        | some rest => takeSystemId d false rest
        | none => (some (.doctype { d with broken := true }), skipDeclaration rest)

/-- The characters of a marked section up to its end mark, and what follows. -/
def splitSection : List Char → List Char × List Char
  | [] => ([], [])
  | ']' :: ']' :: '>' :: rest => ([], rest)
  | c :: rest =>
    let (content, rest) := splitSection rest
    (c :: content, rest)

/-! ## Text -/

/-- A run of characters of one class at the front of a text, cut short where `stops` says so. -/
def takeRun (stops : Char → Bool) (cs : List Char) : Option Token × List Char :=
  match cs with
  | [] => (none, [])
  | c :: _ =>
    if isTextBlank c then
      (some (.blank (String.ofList (cs.takeWhile isTextBlank))), cs.dropWhile isTextBlank)
    else
      let goesOn := fun c => !isTextBlank c && !stops c
      (some (.text (String.ofList (cs.takeWhile goesOn))), cs.dropWhile goesOn)

/-- Characters of both classes as one token. -/
def charsToken (cs : List Char) : Token :=
  if cs.all isTextBlank then .blank (String.ofList cs) else .text (String.ofList cs)

/-- What a step finds that looks for one token. -/
def foundOf (answer : Option Token × List Char) : List Found × List Char :=
  (answer.1.toList.map .token, answer.2)

/-- Whether a reference by number ends without its semicolon. -/
def isOpenNumber (cs rest : List Char) : Bool :=
  match cs with
  | '#' :: _ => cs[cs.length - rest.length - 1]? != some ';'
  | _ => false

/-- A reference behind its ampersand, or else the ampersand itself. -/
def takeReferenceToken (cs : List Char) : List Found × List Char :=
  match takeReference false cs with
  | some (chars, rest) =>
    let token := Found.token (charsToken chars)
    (if isOpenNumber cs rest then [.fault, token] else [token], rest)
  | none => ([.token (.text "&")], cs)

/-- The tokens of a marked section's content: NUL characters stand apart. -/
def sectionTokens : List Char → List Token
  | [] => []
  | c :: rest =>
    if c = '\x00' then .null :: sectionTokens rest
    else
      let run := rest.takeWhile (· != '\x00')
      charsToken (c :: run) :: sectionTokens (rest.drop run.length)
termination_by cs => cs.length

/-- What starts with an opening bracket, in ordinary text; `sections` tells whether marked sections
are recognised. -/
def takeMarkup (sections : Bool) (cs : List Char) : List Found × List Char :=
  match cs with
  | '/' :: rest =>
    match rest with
    | [] => ([.token (.text "</")], [])
    | '>' :: rest => ([.fault], rest)
    | c :: _ => foundOf (if c.isAlpha then takeEndTag rest else takeBogusComment rest)
  | '!' :: rest =>
    match rest with
    | '-' :: '-' :: rest => foundOf (takeComment rest)
    | _ =>
      match dropWord ['d', 'o', 'c', 't', 'y', 'p', 'e'] rest with
      | some rest => foundOf (takeDoctype rest)
      | none =>
        match rest with
        | '[' :: 'C' :: 'D' :: 'A' :: 'T' :: 'A' :: '[' :: inside =>
          if sections then
            let (content, after) := splitSection inside
            ((sectionTokens content).map .token, after)
          else foundOf (takeBogusComment rest)
        | _ => foundOf (takeBogusComment rest)
  | '?' :: _ => foundOf (takeBogusComment cs)
  | c :: _ => if c.isAlpha then foundOf (takeStartTag cs) else ([.token (.text "<")], cs)
  | [] => ([.token (.text "<")], cs)

/-- What follows the end tag's name, if the text behind an opening bracket is the end tag of the
named element. -/
def dropEndTag (name : String) (cs : List Char) : Option (List Char) :=
  match cs with
  | '/' :: rest =>
    match dropWord name.toList rest with
    | some (c :: after) => if isGap c || c == '/' || c == '>' then some (c :: after) else none
    | _ => none
  | _ => none

/-- The end tag of the named element behind its opening bracket. -/
def takeOwnEndTag (name : String) (cs : List Char) : Option (Option Token × List Char) :=
  (dropEndTag name cs).map fun rest =>
    match takeAttributes [] (cs.length + 1) rest with
    | none => (none, [])
    | some (_, _, rest) => (some (.endTag name), rest)

/-- Raw text up to the end tag of the named element. -/
def splitRaw (name : String) : List Char → List Char × List Char
  | [] => ([], [])
  | c :: rest =>
    if c = '<' && (dropEndTag name rest).isSome then ([], c :: rest)
    else
      let (content, after) := splitRaw name rest
      (replaceNull c :: content, after)

/-- Where inside a script the text stands: an escaped stretch runs from `<!--` to `-->`, and inside
it a script tag hides end tags up to the next one. -/
inductive Escape where
  | none
  | once
  | twice
deriving Repr, DecidableEq

/-- Whether a script start tag follows an opening bracket. -/
def startsScript (cs : List Char) : Bool :=
  match dropWord ['s', 'c', 'r', 'i', 'p', 't'] cs with
  | some (c :: _) => isGap c || c == '/' || c == '>'
  | _ => false

/-- Script text up to its end tag. -/
def splitScript (escape : Escape) : List Char → List Char × List Char
  | [] => ([], [])
  | c :: rest =>
    let ends := c == '<' && (dropEndTag "script" rest).isSome
    if ends && escape != .twice then ([], c :: rest)
    else
      let escape :=
        if ends then Escape.once
        else if escape == .none && c == '<' && (['!', '-', '-'].isPrefixOf rest) then .once
        else if escape == .once && c == '<' && startsScript rest then .twice
        else if escape != .none && c == '-' && (['-', '>'].isPrefixOf rest) then .none
        else escape
      let (content, after) := splitScript escape rest
      (replaceNull c :: content, after)

/-- The text before an end tag, or else the end tag. -/
def takeBefore (split : List Char → List Char × List Char) (name : String) (cs : List Char) :
    Option Token × List Char :=
  match split cs with
  | ([], '<' :: rest) => (takeOwnEndTag name rest).getD (none, [])
  | (content, rest) => (some (charsToken content), rest)

/-- Read on in a text that is not empty. -/
def takeToken (mode : Mode) (sections : Bool) (cs : List Char) : List Found × List Char :=
  match mode with
  | .plain => ([.token (charsToken (cs.map replaceNull))], [])
  | .raw name => foundOf (takeBefore (splitRaw name) name cs)
  | .script => foundOf (takeBefore (splitScript .none) "script" cs)
  | .escapable name =>
    match cs with
    | '<' :: rest =>
      match takeOwnEndTag name rest with
      | some answer => foundOf answer
      | none => ([.token (.text "<")], rest)
    | '&' :: rest => takeReferenceToken rest
    | '\x00' :: rest => ([.token (.text "\ufffd")], rest)
    | cs => foundOf (takeRun (fun c => c == '<' || c == '&' || c == '\x00') cs)
  | .data =>
    match cs with
    | '<' :: rest => takeMarkup sections rest
    | '&' :: rest => takeReferenceToken rest
    | '\x00' :: rest => ([.token .null], rest)
    | cs => foundOf (takeRun (fun c => c == '<' || c == '&' || c == '\x00') cs)

end Topiary.Markup
