import Topiary.Address.Path

/-!
Addresses from text, alone or relative to one another.
-/

namespace Topiary.Address

/-! ## Paths, queries and fragments -/

/-- Add a query and a fragment. -/
def withTail (a : Address) (cs : List Char) : Address :=
  let fragmentOf := fun (cs : List Char) =>
    match cs with
    | '#' :: rest => some (escape fragmentSet rest)
    | _ => none
  match cs with
  | '?' :: rest =>
    let set := if isCommon a.scheme then commonQuerySet else querySet
    { a with
      query := some (escape set (rest.takeWhile (· != '#')))
      fragment := fragmentOf (rest.dropWhile (· != '#')) }
  | cs => { a with query := none, fragment := fragmentOf cs }

/-- Follow a path from given steps and read what stands behind it. -/
def withSteps (a : Address) (start : List String) (cs : List Char) : Address :=
  withTail { a with path := .steps (walkPath a.scheme start cs).1 }
    (cs.dropWhile fun c => !endsPath c)

/-- Read the path behind an authority. -/
def withRootedPath (a : Address) (cs : List Char) : Address :=
  let common := isCommon a.scheme
  match cs with
  | c :: rest =>
    if isSlash common c then withSteps a [] rest
    else if common || !endsPath c then withSteps a [] cs
    else withTail { a with path := .steps [] } cs
  | [] => if common then withSteps a [] [] else withTail { a with path := .steps [] } []

/-! ## Authorities -/

/-- What stands before the last at sign, and what follows it. -/
def splitUser (cs : List Char) : Option (List Char × List Char) :=
  match cs.reverse.dropWhile (· != '@') with
  | [] => none
  | _ :: front => some (front.reverse, cs.drop (front.length + 1))

/-- The characters of a host, where brackets hide colons. -/
def splitPort (inside : Bool) : List Char → List Char × List Char
  | [] => ([], [])
  | c :: rest =>
    if c = ':' && !inside then ([], c :: rest)
    else
      let inside := if c = '[' then true else if c = ']' then false else inside
      let (host, after) := splitPort inside rest
      (c :: host, after)

/-- A port that is not the usual one, behind its colon, and what follows it. -/
def takePort (scheme : String) (cs : List Char) :
    Except AddressError (Option Nat × List Char) :=
  let digits := cs.takeWhile Char.isDigit
  let rest := cs.dropWhile Char.isDigit
  let port := (readDigits 10 digits).getD 0
  if 65535 < port || !rest.head?.all (fun c => isSlash true c || endsPath c) then .error .badPort
  else if digits.isEmpty || commonSchemes.lookup scheme = some (some port) then .ok (none, rest)
  else .ok (some port, rest)

/-- The authority that a text starts with, and what follows it. -/
def takeAuthority (scheme : String) (cs : List Char) :
    Except AddressError (Authority × List Char) := do
  let common := isCommon scheme
  let ends := fun c => isSlash common c || endsPath c
  let written := cs.takeWhile fun c => !ends c
  let rest := cs.dropWhile fun c => !ends c
  let (user, place) := (splitUser written).getD ([], written)
  if (splitUser written).isSome && user.isEmpty && place.isEmpty && !rest.isEmpty then
    throw .emptyHost
  let (hostText, portText) := splitPort false place
  if common && hostText.isEmpty then throw .emptyHost
  let host ← if common then readHost hostText else readFreeHost hostText
  if host.isEmpty && !portText.isEmpty then throw .emptyHost
  let (port, rest) ← takePort scheme (portText.drop 1 ++ rest)
  let name := escape userSet (user.takeWhile (· != ':'))
  let password := escape userSet ((user.dropWhile (· != ':')).drop 1)
  if host.isEmpty && !(name.isEmpty && password.isEmpty) then throw .emptyHost
  pure (⟨name, password, host, port⟩, rest)

/-- Read an authority and what follows it. -/
def withAuthority (scheme : String) (cs : List Char) : Except AddressError Address := do
  let (authority, rest) ← takeAuthority scheme cs
  pure (withRootedPath ⟨scheme, some authority, .steps [], none, none⟩ rest)

/-! ## Files -/

/-- The root of the files on a machine. -/
def filesOn (host : String) : Address := ⟨"file", some ⟨"", "", host, none⟩, .steps [], none, none⟩

/-- Read the address of a file behind two slashes. A machine with a drive is the own one. -/
def readFileOnHost (cs : List Char) : Except AddressError Address := do
  let ends := fun c => isSlash true c || endsPath c
  let hostText := cs.takeWhile fun c => !ends c
  let rest := cs.dropWhile fun c => !ends c
  if (driveLetter? hostText).isSome then pure (withSteps (filesOn "") [] cs)
  else
    let host ← if hostText.isEmpty then pure "" else readHost hostText
    if host.isEmpty || host == "localhost" then pure (withSteps (filesOn "") [] rest)
    else
      let path := if rest.head?.any (isSlash true) then rest.drop 1 else rest
      let foundDrive := (walkPath "file" [] path).2
      pure (withSteps (filesOn (if foundDrive then "" else host)) [] path)

/-- Read the path of a file from the root, on the drive or the machine of the base. -/
def readFileFromRoot (base : Option Address) (cs : List Char) : Address :=
  match base with
  | none => withSteps (filesOn "") [] cs
  | some b =>
    let drive := b.path.toList.head?.filter isDriveName
    let host := (b.authority.map Authority.host).getD ""
    if startsWithDrive cs then withSteps (filesOn "") [] cs
    else
      match drive with
      | some drive => withSteps (filesOn "") [drive] cs
      | none => withSteps (filesOn host) [] cs

/-- The steps that a text is relative to: all but the last, which is left out unless it is a
drive. -/
def folderSteps (steps : List String) : List String :=
  if steps.getLast?.any isDriveName then steps else steps.dropLast

/-- Read the address of a file behind its scheme, as far as it is written. -/
def readFile (base : Option Address) (cs : List Char) : Except AddressError Address :=
  match cs, base with
  | [], none => .ok (withSteps (filesOn "") [] [])
  | [], some b => .ok { b with fragment := none }
  | c :: rest, _ =>
    if isSlash true c then
      match rest with
      | d :: rest' =>
        if isSlash true d then readFileOnHost rest' else .ok (readFileFromRoot base rest)
      | [] => .ok (readFileFromRoot base [])
    else
      match base with
      | none => .ok (withSteps (filesOn "") [] cs)
      | some b =>
        if c = '?' then .ok (withTail b cs)
        else if c = '#' then .ok { b with fragment := some (escape fragmentSet rest) }
        else if startsWithDrive cs then .ok (withSteps (filesOn "") [] cs)
        else .ok (withSteps b (folderSteps b.path.toList) cs)

/-! ## Reading and resolving -/

/-- Read what is relative to an address with steps. -/
def readRelative (base : Address) (steps : List String) (cs : List Char) :
    Except AddressError Address :=
  let slashes := (cs.takeWhile (isSlash true)).length
  match cs with
  | [] => .ok { base with fragment := none }
  | c :: rest =>
    if c = '?' then .ok (withTail base cs)
    else if c = '#' then .ok { base with fragment := some (escape fragmentSet rest) }
    else if 2 ≤ slashes then
      withAuthority base.scheme
        (cs.drop (if ['/', '/'].isPrefixOf cs then 2 else slashes))
    else if slashes = 1 then .ok (withSteps base [] rest)
    else .ok (withSteps base steps.dropLast cs)

/-- Read an address behind its scheme. -/
def readBehindScheme (base : Option Address) (scheme : String) (cs : List Char) :
    Except AddressError Address :=
  if scheme == "file" then readFile (base.filter fun b => b.scheme == "file") cs
  else if isCommon scheme then
    let slashes := (cs.takeWhile (isSlash true)).length
    match base with
    | some b =>
      if slashes < 2 && b.scheme == scheme then readRelative b b.path.toList cs
      else withAuthority scheme (cs.drop slashes)
    | none => withAuthority scheme (cs.drop slashes)
  else
    let bare : Address := ⟨scheme, none, .steps [], none, none⟩
    match cs with
    | '/' :: '/' :: rest => withAuthority scheme rest
    | '/' :: rest => .ok (withSteps bare [] rest)
    | cs =>
      let written := cs.takeWhile fun c => !endsPath c
      .ok (withTail { bare with path := .flat (escape [] written) }
        (cs.dropWhile fun c => !endsPath c))

/-- The characters of an address: no control characters and spaces around it, no line ends and tabs
in it. -/
def addressChars (text : String) : List Char :=
  (Text.trimBy (fun c => c.toNat ≤ 0x20) text.toList).filter fun c =>
    c != '\t' && c != '\n' && c != '\r'

/-- Read an address, relative to another one if there is one. -/
def readWith (base : Option Address) (text : String) : Except AddressError Address :=
  let cs := addressChars text
  match takeScheme cs with
  | some (scheme, rest) => readBehindScheme base scheme rest
  | none =>
    match base with
    | none => .error .relative
    | some base =>
      match base.path, cs with
      | _, '#' :: rest => .ok { base with fragment := some (escape fragmentSet rest) }
      | .flat _, _ => .error .relativeToFlat
      | .steps steps, cs =>
        if base.scheme == "file" then readFile (some base) cs else readRelative base steps cs

/-- Read an address that stands alone. -/
def read (text : String) : Except AddressError Address := readWith none text

/-- Read an address that stands in the document at `base`. -/
def join (base : Address) (text : String) : Except AddressError Address :=
  readWith (some base) text

end Topiary.Address
