import Topiary.Json.Reader
import Topiary.Synthesis.Materialize

/-!
Settings and their JSON form. The text is read from left to right and the first problem is reported:
a name is checked before anything behind it is read, and a value as soon as its kind is known. Names
that are missing keep their defaults. A list gives the settings in the order of their declaration.
-/

namespace Topiary.Synthesis

open Topiary.Json

structure Settings where
  /-- The most copies that a repeat directive may ask for. -/
  maxMultiplier : Nat
  /-- The time limit of a fetch in milliseconds. -/
  fetchTimeout : Nat
  /-- How deep imports may nest. -/
  maxImportDepth : Nat
  userAgent : String
  /-- The base of relative addresses. -/
  baseUrl : Option String
deriving Repr, DecidableEq

/-- The version that the program reports. -/
def version : String := "0.1.0"

namespace Settings

def default : Settings where
  maxMultiplier := 1000
  fetchTimeout := 10000
  maxImportDepth := 16
  userAgent := "cssgen/" ++ version
  baseUrl := none

def limits (s : Settings) : Limits := ⟨s.maxMultiplier⟩

/-- One setting. -/
inductive Field where
  | maxMultiplier
  | fetchTimeout
  | maxImportDepth
  | userAgent
  | baseUrl
deriving Repr, DecidableEq

/-- All settings in the order of their declaration. -/
def Field.all : List Field :=
  [.maxMultiplier, .fetchTimeout, .maxImportDepth, .userAgent, .baseUrl]

def Field.name : Field → String
  | .maxMultiplier => "max_multiplier"
  | .fetchTimeout => "fetch_timeout_ms"
  | .maxImportDepth => "max_import_depth"
  | .userAgent => "user_agent"
  | .baseUrl => "base_url"

def Field.ofName? (name : String) : Option Field :=
  Field.all.find? fun field => field.name == name

/-- The beginning of a JSON value, as far as it is read before it is refused. -/
inductive Found where
  | null
  | bool (value : Bool)
  | number (value : Numeral)
  | text (value : String)
  | list
  | object
deriving Repr, DecidableEq

def Found.describe : Found → String
  | .null => "null"
  | .bool true => "boolean \x60true\x60"
  | .bool false => "boolean \x60false\x60"
  | .number (.integer value) => "integer \x60" ++ toString value ++ "\x60"
  | .number (.real value) => "floating point \x60" ++ (Numeral.real value).write ++ "\x60"
  | .text value => "string " ++ Text.quoted value
  | .list => "sequence"
  | .object => "map"

/-- What is wrong with JSON that reads well. -/
inductive Misfit where
  | unknownField (name : String)
  | duplicateField (field : Field)
  | wrongKind (found : Found) (expected : String)
  | outOfRange (value : Int) (expected : String)
deriving Repr, DecidableEq

/-- Names between backquotes, separated by commas. -/
def Misfit.message : Misfit → String
  | .unknownField name =>
    "unknown field \x60" ++ name ++ "\x60, expected one of " ++
      ", ".intercalate (Field.all.map fun field => "\x60" ++ field.name ++ "\x60")
  | .duplicateField field => "duplicate field \x60" ++ field.name ++ "\x60"
  | .wrongKind found expected => "invalid type: " ++ found.describe ++ ", expected " ++ expected
  | .outOfRange value expected =>
    "invalid value: integer \x60" ++ toString value ++ "\x60, expected " ++ expected

/-- Why a text gives no settings. -/
inductive ReadError where
  | fault (fault : Fault)
  | misfit (misfit : Misfit)
deriving Repr, DecidableEq

/-- A reader's result with its error among the read errors. -/
def liftFault {α : Type} : Except Fault α → Except ReadError α
  | .ok value => .ok value
  | .error fault => .error (.fault fault)

/-- Read a value only to tell its kind. -/
def readFound (cs : List Char) : Except Fault Found :=
  match skipGap cs with
  | [] => .error .ended
  | c :: rest =>
    if c = 'n' then (readWord ['u', 'l', 'l'] .null rest).map Prod.fst
    else if c = 't' then (readWord ['r', 'u', 'e'] (.bool true) rest).map Prod.fst
    else if c = 'f' then (readWord ['a', 'l', 's', 'e'] (.bool false) rest).map Prod.fst
    else if c = '"' then (readText rest).map fun (value, _) => .text value
    else if c = '[' then .ok .list
    else if c = '\x7b' then .ok .object
    else if c = '-' || isDigit c then (readNumber (c :: rest)).map fun (value, _) => .number value
    else .error .malformed

/-- Refuse a value of the wrong kind. -/
def refuse {α : Type} (expected : String) (cs : List Char) : Except ReadError α :=
  match readFound cs with
  | .ok found => .error (.misfit (.wrongKind found expected))
  | .error fault => .error (.fault fault)

/-- A natural number of at most `bits` bits. -/
def readNatural (bits : Nat) (expected : String) (cs : List Char) :
    Except ReadError (Nat × List Char) :=
  match skipGap cs with
  | [] => .error (.fault .ended)
  | c :: rest =>
    if c = '-' || isDigit c then
      match readNumber (c :: rest) with
      | .error fault => .error (.fault fault)
      | .ok (.real value, _) => .error (.misfit (.wrongKind (.number (.real value)) expected))
      | .ok (.integer value, rest) =>
        if 0 ≤ value && value < Nat.pow 2 bits then .ok (value.toNat, rest)
        else .error (.misfit (.outOfRange value expected))
    else refuse expected (c :: rest)

def readString (cs : List Char) : Except ReadError (String × List Char) :=
  match skipGap cs with
  | '"' :: rest => liftFault (readText rest)
  | cs => refuse "a string" cs

/-- A string, or `null` for none. -/
def readOptional (cs : List Char) : Except ReadError (Option String × List Char) :=
  match skipGap cs with
  | 'n' :: rest => liftFault (readWord ['u', 'l', 'l'] none rest)
  | cs => (readString cs).map fun (value, rest) => (some value, rest)

/-- Read the value of one setting. -/
def readField (s : Settings) (field : Field) (cs : List Char) :
    Except ReadError (Settings × List Char) :=
  match field with
  | .maxMultiplier =>
    (readNatural 32 "u32" cs).map fun (n, rest) => ({ s with maxMultiplier := n }, rest)
  | .fetchTimeout =>
    (readNatural 64 "u64" cs).map fun (n, rest) => ({ s with fetchTimeout := n }, rest)
  | .maxImportDepth =>
    (readNatural 64 "usize" cs).map fun (n, rest) => ({ s with maxImportDepth := n }, rest)
  | .userAgent => (readString cs).map fun (value, rest) => ({ s with userAgent := value }, rest)
  | .baseUrl => (readOptional cs).map fun (value, rest) => ({ s with baseUrl := value }, rest)

/-- Nothing but blanks may follow. -/
def finish (s : Settings) (cs : List Char) : Except ReadError Settings :=
  if (skipGap cs).isEmpty then .ok s else .error (.fault .malformed)

/-- A setting's name behind its opening quote, and its value. -/
def readMember (s : Settings) (seen : List Field) (cs : List Char) :
    Except ReadError (Settings × Field × List Char) := do
  let (name, rest) ← liftFault (readText cs)
  match Field.ofName? name with
  | none => .error (.misfit (.unknownField name))
  | some field =>
    if seen.contains field then .error (.misfit (.duplicateField field))
    else match skipGap rest with
      | [] => .error (.fault .ended)
      | ':' :: rest =>
        let (s, rest) ← readField s field rest
        .ok (s, field, rest)
      | _ => .error (.fault .malformed)

/-- The members of an object. Since no name may come twice, `count` bounds their number. -/
def readMembers (count : Nat) (seen : List Field) (s : Settings) (cs : List Char) :
    Except ReadError Settings :=
  match count with
  | 0 => .error (.fault .malformed)
  | count + 1 =>
    match skipGap cs with
    | [] => .error (.fault .ended)
    | c :: rest =>
      if c = '\x7d' then finish s rest
      else match nextPart seen.isEmpty c rest with
        | .error fault => .error (.fault fault)
        | .ok start =>
          match skipGap start with
          | [] => .error (.fault .ended)
          | '"' :: rest =>
            match readMember s seen rest with
            | .error error => .error error
            | .ok (s, field, rest) => readMembers count (field :: seen) s rest
          | _ => .error (.fault .malformed)

/-- The items of a list, one for each of the given settings. -/
def readItems (first : Bool) (s : Settings) (cs : List Char) : List Field →
    Except ReadError Settings
  | [] =>
    match skipGap cs with
    | [] => .error (.fault .ended)
    | ']' :: rest => finish s rest
    | _ => .error (.fault .malformed)
  | field :: fields =>
    match skipGap cs with
    | [] => .error (.fault .ended)
    | c :: rest =>
      if c = ']' then finish s rest
      else match nextPart first c rest with
        | .error fault => .error (.fault fault)
        | .ok start =>
          match skipGap start with
          | ']' :: _ => .error (.fault .malformed)
          | start =>
            match readField s field start with
            | .error error => .error error
            | .ok (s, rest) => readItems false s rest fields

/-- Read settings from their JSON text. -/
def read (text : String) : Except ReadError Settings :=
  match skipGap text.toList with
  | '\x7b' :: rest => readMembers (Field.all.length + 1) [] default rest
  | '[' :: rest => readItems true default rest Field.all
  | cs => refuse "struct Config" cs

end Settings

end Topiary.Synthesis
