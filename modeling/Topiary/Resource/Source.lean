import Topiary.Resource.Response
import Topiary.Sheet.Flatten
import Topiary.Synthesis.Settings
import Topiary.Text.Quoted

/-!
Where documents and stylesheets come from: addresses are resolved against a base, and files are read
from a disk. There is no network.
-/

namespace Topiary.Resource

structure Source where
  disk : Disk
  /-- What relative addresses are resolved against. -/
  base : Option Address
  /-- The time limit of a request in milliseconds. -/
  timeout : Nat

namespace Source

/-- The failure to read a text as an address. -/
def invalid (text : String) (e : Address.AddressError) : Failure :=
  .address (text ++ ": " ++ e.message)

/-- A source with a base that is still to be read. -/
def new (disk : Disk) (base : Option String) (timeout : Nat) : Except Failure Source :=
  match base with
  | none => .ok ⟨disk, none, timeout⟩
  | some text =>
    match Address.read text with
    | .ok base => .ok ⟨disk, some base, timeout⟩
    | .error e => .error (invalid text e)

/-- Whether a name can be sent in a request. -/
def isHeaderText (name : String) : Bool :=
  name.toList.all fun c => c == '\t' || (0x20 ≤ c.toNat && c != '\x7f')

/-- The source that settings ask for. -/
def ofSettings (disk : Disk) (s : Synthesis.Settings) : Except Failure Source :=
  match new disk s.baseUrl s.fetchTimeout with
  | .error failure => .error failure
  | .ok source =>
    if isHeaderText s.userAgent then .ok source else .error (.network "builder error")

/-- The address of a file by its path, relative to the folder of the disk. -/
def fileAddress (disk : Disk) (path : String) : Except Failure Address :=
  if path.isEmpty then .error (.disk .emptyPath)
  else .ok (.ofFilePath (disk.absolute path))

/-- The address that a text names. Without any base, what is no address is the path of a file. -/
def resolve (s : Source) (text : String) (base : Option String) : Except Failure Address :=
  match base, s.base with
  | some base, _ =>
    match (Address.read base).bind fun base => base.join text with
    | .ok address => .ok address
    | .error e => .error (invalid text e)
  | none, some base =>
    match base.join text with
    | .ok address => .ok address
    | .error e => .error (invalid text e)
  | none, none =>
    match Address.read text with
    | .ok address => .ok address
    | .error .relative => fileAddress s.disk text
    | .error e => .error (invalid text e)

/-- Read the file at a path of octets. -/
def readOctets (disk : Disk) (path : List UInt8) : Except Failure (List UInt8) :=
  match Text.decodeUtf8 path with
  | .error _ => .error (.disk .missing)
  | .ok path => (disk.readPath path).mapError .disk

def fetch (s : Source) (address : Address) : Except Failure Response :=
  match address.scheme with
  | "file" =>
    match address.filePath? with
    | none => .error (.address address.text)
    | some path => (readOctets s.disk path).map fun body => ⟨200, [], body⟩
  | "http" => .error (.network "there is no network")
  | "https" => .error (.network "there is no network")
  | scheme =>
    .error (.address ("unsupported scheme " ++ Text.quoted scheme ++ " in " ++ address.text))

/-- The text of a document and the address that it was found at. -/
def fetchText (s : Source) (url : String) (base : Option String) :
    Except Failure (Address × String) := do
  let address ← s.resolve url base
  let response ← s.fetch address
  pure (address, ← response.text)

def fetchJson (s : Source) (url : String) : Except Failure Json := do
  let response ← s.fetch (← s.resolve url none)
  response.json

/-! ## Imported sheets -/

/-- The failure to load an imported sheet. -/
def importMessage (url : String) (failure : Failure) : String :=
  "Failed to load import " ++ url ++ ": " ++ failure.message

/-- Load a sheet for the sheet at `base`, or else for the one at `top`. -/
def loadSheet (s : Source) (top : Option String) (url : String) (base : Option String) :
    Except Failure Sheet.Loaded :=
  (s.fetchText url (base.or top)).map fun (address, css) => ⟨address.text, css⟩

def sheetLoader (s : Source) (top : Option String) : Sheet.Loader := fun url base =>
  (s.loadSheet top url base).toOption

end Source

end Topiary.Resource
