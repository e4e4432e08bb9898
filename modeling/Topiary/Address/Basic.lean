import Topiary.Address.Host
import Topiary.Text.Blank

/-!
Addresses of documents and their text.
-/

namespace Topiary

/-- Who and where a document is asked of. -/
structure Authority where
  user : String
  password : String
  host : String
  port : Option Nat
deriving Repr, DecidableEq

inductive AddressPath where
  /-- A text without structure; nothing is relative to it. -/
  | flat (text : String)
  | steps (steps : List String)
deriving Repr, DecidableEq

structure Address where
  scheme : String
  authority : Option Authority
  path : AddressPath
  query : Option String
  fragment : Option String
deriving Repr, DecidableEq

def Authority.text (a : Authority) : String :=
  let password := if a.password.isEmpty then "" else ":" ++ a.password
  let user := a.user ++ password
  (if user.isEmpty then "" else user ++ "@") ++ a.host ++
    match a.port with
    | some port => ":" ++ toString port
    | none => ""

/-- The steps of a path. -/
def AddressPath.toList : AddressPath → List String
  | .flat _ => []
  | .steps path => path

def AddressPath.text : AddressPath → String
  | .flat text => text
  | .steps path => String.join (path.map ("/" ++ ·))

namespace Address

/-! ## Text -/

def text (a : Address) : String :=
  let place := match a.authority, a.path with
    | some authority, _ => "//" ++ authority.text
    | none, .steps ("" :: _ :: _) => "/."
    | none, _ => ""
  let query := match a.query with
    | some query => "?" ++ query
    | none => ""
  let fragment := match a.fragment with
    | some fragment => "#" ++ fragment
    | none => ""
  a.scheme ++ ":" ++ place ++ a.path.text ++ query ++ fragment

/-! ## Schemes -/

/-- The schemes with common rules, with their usual ports. -/
def commonSchemes : List (String × Option Nat) :=
  [("http", some 80), ("https", some 443), ("ws", some 80), ("wss", some 443), ("ftp", some 21),
    ("file", none)]

def isCommon (scheme : String) : Bool := (commonSchemes.lookup scheme).isSome

/-- The scheme at the front of a text, in lower case, and what follows its colon. -/
def takeScheme (cs : List Char) : Option (String × List Char) :=
  let isSchemeChar := fun (c : Char) => c.isAlphanum || c == '+' || c == '-' || c == '.'
  match cs with
  | [] => none
  | c :: _ =>
    if !c.isAlpha then none
    else
      match cs.dropWhile isSchemeChar with
      | ':' :: rest => some (Text.lower (String.ofList (cs.takeWhile isSchemeChar)), rest)
      | _ => none

end Address

end Topiary
