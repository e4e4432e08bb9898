import Topiary.Markup.Parse
import Topiary.Markup.Render
import Topiary.Program.Arguments
import Topiary.Resource.Source
import Topiary.Sheet.Read
import Topiary.Synthesis.Engine

/-!
A run of the program: stylesheets are applied in order to a document, content is settled and the
document is written. A run is a function of its arguments and of a disk, and tells which files it
looked for.
-/

namespace Topiary.Program

open Topiary.Resource Topiary.Synthesis

/-- What a run comes to. -/
inductive Outcome where
  /-- The arguments make no sense. -/
  | misuse (error : UsageError)
  /-- A text that was asked for. -/
  | shown (text : String)
  | failed
  /-- A document, and the file to write it to. -/
  | page (text : String) (file : Option String)
deriving Repr, DecidableEq

/-- The number by which the outcome is reported to whoever started the program. -/
def Outcome.code : Outcome → Nat
  | .misuse _ => 2
  | .shown _ => 0
  | .failed => 1
  | .page _ _ => 0

/-- A run under way. -/
structure Progress where
  engine : Engine
  document : Document
  /-- The paths that the run looked for. -/
  sought : List String
  failed : Bool

/-- The path of the file that an address leads to. -/
def pathOf (s : Source) (url : String) (base : Option String) : List String :=
  match s.resolve url base with
  | .error _ => []
  | .ok address =>
    match address.filePath? with
    | none => []
    | some path =>
      match Text.decodeUtf8 path with
      | .ok path => [path]
      | .error _ => []

/-- The address of a stylesheet: that of the file, if there is one, or else what is written. -/
def sheetLocation (disk : Disk) (sheet : String) : String :=
  if disk.has sheet then (Address.ofFilePath (disk.absolute sheet)).text else sheet

/-- Apply one stylesheet, unless the run has failed before. -/
def Progress.apply (s : Source) (p : Progress) (sheet : String) : Progress :=
  if p.failed then p
  else
    let location := sheetLocation s.disk sheet
    let p := { p with sought := p.sought ++ sheet :: pathOf s location none }
    match s.fetchText location none with
    | .error _ => { p with failed := true }
    | .ok (address, css) =>
      let top := some address.text
      let (report, loads, engine, tree) :=
        p.engine.applySheet Sheet.parse (s.sheetLoader top) p.document.tree css
      let sought := p.sought ++ loads.flatMap fun (url, base) => pathOf s url (base.or top)
      { engine := engine
        document := { p.document with tree := tree }
        sought := sought
        failed := !report.isOk }

/-- Apply stylesheets in order and settle what they have left pending. -/
def Progress.finish (s : Source) (p : Progress) (sheets : List String) : Progress :=
  let p := sheets.foldl (Progress.apply s) p
  let (_, engine, tree) := p.engine.settle p.document.tree
  { p with
    engine := engine
    document := { p.document with tree := tree }
    sought := p.sought ++ engine.fetcher.asked.flatMap fun url => pathOf s url none }

/-- The text of a file. -/
def readText (disk : Disk) (path : String) : Option String :=
  match disk.readPath path with
  | .ok octets => (Text.decodeUtf8 octets).toOption
  | .error _ => none

/-- The settings that arguments ask for. -/
def settingsOf (disk : Disk) (a : Arguments) : Option Settings := do
  let settings ← match a.config with
    | some path => (readText disk path).bind fun text => (Settings.read text).toOption
    | none => some .default
  match a.baseUrl with
  | some base => some { settings with baseUrl := some base }
  | none => some settings

/-- The document that a run starts from. -/
def startOf (disk : Disk) (a : Arguments) : Option Document :=
  match a.html with
  | some path => (readText disk path).map Markup.parse
  | none => some .skeleton

/-- A text that ends with a line end. -/
def ended (text : String) : String :=
  if text.toList.getLast? = some '\n' then text else text ++ "\n"

/-- Build a document. The second part of the answer is what the run looked for on the disk. -/
def build (disk : Disk) (a : Arguments) : Outcome × List String :=
  let sought := a.config.toList ++ a.html.toList
  match settingsOf disk a, startOf disk a with
  | some settings, some document =>
    match Source.ofSettings disk settings with
    | .error _ => (.failed, sought)
    | .ok s =>
      let fetcher := Fetcher.ofAnswers fun url => .ofDocument (s.fetchJson url)
      let p := Progress.finish s ⟨.new settings fetcher, document, sought, false⟩ a.sheets
      if p.failed then (.failed, p.sought)
      else
        let style : Markup.Style := if a.pretty then .pretty else .compact
        (.page (ended (Markup.document style p.document)) a.output, p.sought)
  | _, _ => (.failed, sought)

/-- Run the program. -/
def run (disk : Disk) (arguments : List String) : Outcome × List String :=
  match Request.read arguments with
  | .error e => (.misuse e, [])
  | .ok .help => (.shown helpText, [])
  | .ok .version => (.shown ("cssgen " ++ version ++ "\n"), [])
  | .ok (.build a) => build disk a

end Topiary.Program
