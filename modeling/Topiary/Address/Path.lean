import Topiary.Address.Basic

/-!
Paths of addresses: steps, of which some stay and some go back, and drives, which no step leaves.
-/

namespace Topiary.Address

def isSlash (common : Bool) (c : Char) : Bool := c == '/' || (common && c == '\\')

/-- A character that ends a path. -/
def endsPath (c : Char) : Bool := c == '?' || c == '#'

/-- Whether a step stays where it is. -/
def staysAt (step : List Char) : Bool :=
  [".", "%2e"].contains (Text.lower (String.ofList step))

/-- Whether a step goes back by one. -/
def goesBack (step : List Char) : Bool :=
  ["..", ".%2e", "%2e.", "%2e%2e"].contains (Text.lower (String.ofList step))

/-! ## Drives -/

/-- The letter of a step that names a drive. -/
def driveLetter? : List Char → Option Char
  | [letter, mark] => if letter.isAlpha && (mark = ':' || mark = '|') then some letter else none
  | _ => none

def isDrive (step : String) : Bool := (driveLetter? step.toList).isSome

/-- The name of a drive as it is written. -/
def driveName (letter : Char) : String := String.ofList [letter, ':']

/-- Whether a step is the name of a drive as it is written. -/
def isDriveName (step : String) : Bool :=
  (driveLetter? step.toList).any fun letter => step == driveName letter

/-- Whether the first step of a text names a drive. -/
def startsWithDrive (cs : List Char) : Bool :=
  (driveLetter? (cs.take 2)).isSome && (cs.drop 2).head?.all fun c => isSlash true c || endsPath c

/-! ## Steps -/

/-- Go back by one step, but not from a drive. -/
def goBack (path : List String) : List String :=
  if path.getLast?.any isDrive then path else path.dropLast

/-- Follow steps from a path, and tell whether a drive was found. Only in paths of `files` a first
step that names a drive is one. -/
def followSteps (files : Bool) (path : List String) : List (List Char) → List String × Bool
  | [] => (path, false)
  | step :: rest =>
    let onward := fun (path : List String) =>
      if rest.isEmpty then (path ++ [""], false) else followSteps files path rest
    if goesBack step then onward (goBack path)
    else if staysAt step then onward path
    else
      match if files && path.isEmpty then driveLetter? step else none with
      | some letter => ((followSteps files [driveName letter] rest).1, true)
      | none => followSteps files (path ++ [escape pathSet step]) rest

/-- A path of files does not start with empty steps. -/
def dropEmptySteps : List String → List String
  | "" :: step :: rest => dropEmptySteps (step :: rest)
  | steps => steps

/-- Follow the path that a text starts with from given steps. -/
def walkPath (scheme : String) (start : List String) (cs : List Char) : List String × Bool :=
  let files := scheme == "file"
  let written := cs.takeWhile fun c => !endsPath c
  let (steps, foundDrive) :=
    followSteps files start (splitOn (isSlash (isCommon scheme)) written)
  (if files then dropEmptySteps steps else steps, foundDrive)

/-! ## Paths of files -/

/-- The names on a path of files: empty ones and single points mean nothing. -/
def pathNames (path : String) : List (List Char) :=
  (splitOn (· == '/') path.toList).filter fun name => !name.isEmpty && name != ['.']

/-- The address of a file by its absolute path. -/
def ofFilePath (path : String) : Address :=
  let steps := (pathNames path).map (escape stepSet)
  ⟨"file", some ⟨"", "", "", none⟩, .steps (if steps.isEmpty then [""] else steps), none, none⟩

/-- Whether octets end in the name of a drive. -/
def endInDrive (octets : List UInt8) : Bool :=
  let last := (octets.drop (octets.length - 2)).map fun octet => Char.ofNat octet.toNat
  2 < octets.length && (driveLetter? last).isSome

/-- The octets of the path of the file at an address, if the own machine has it. Drives are
folders. -/
def filePath? (a : Address) : Option (List UInt8) :=
  match a.path, (a.authority.map Authority.host).getD "" with
  | .steps steps, "" =>
    let octets := steps.flatMap fun step => '/'.toUInt8 :: unescape step.toList
    some (if endInDrive octets then octets ++ ['/'.toUInt8] else octets)
  | _, _ => none

end Topiary.Address
