/-!
The arguments of the program: stylesheets, and options between them.
-/

namespace Topiary.Program

/-- What a run is asked to do. -/
structure Arguments where
  /-- Paths or addresses of stylesheets. -/
  sheets : List String
  /-- The document to start from. -/
  html : Option String
  config : Option String
  baseUrl : Option String
  pretty : Bool
  output : Option String
  verbose : Bool
deriving Repr, DecidableEq

/-- No arguments. -/
def Arguments.empty : Arguments := ⟨[], none, none, none, false, none, false⟩

inductive Request where
  | build (arguments : Arguments)
  | help
  | version
deriving Repr, DecidableEq

/-- Why arguments make no sense. -/
inductive UsageError where
  | unknown (argument : String)
  | missingValue (option : String)
  | emptyValue (option : String)
  | needlessValue (option : String)
  | repeated (option : String)
  | noSheet
deriving Repr, DecidableEq

/-- The options of the program. -/
inductive Switch where
  | html
  | config
  | baseUrl
  | pretty
  | output
  | verbose
  | help
  | version
deriving Repr, DecidableEq

namespace Switch

def all : List Switch :=
  [.html, .config, .baseUrl, .pretty, .output, .verbose, .help, .version]

/-- The name behind two dashes. -/
def name : Switch → String
  | .html => "html"
  | .config => "config"
  | .baseUrl => "base-url"
  | .pretty => "pretty"
  | .output => "output"
  | .verbose => "verbose"
  | .help => "help"
  | .version => "version"

/-- The letter behind one dash. -/
def letter? : Switch → Option Char
  | .output => some 'o'
  | .verbose => some 'v'
  | .help => some 'h'
  | .version => some 'V'
  | _ => none

def takesValue : Switch → Bool
  | .html => true
  | .config => true
  | .baseUrl => true
  | .output => true
  | _ => false

def ofName? (name : String) : Option Switch := all.find? fun s => s.name == name

def ofLetter? (c : Char) : Option Switch := all.find? fun s => s.letter? == some c

end Switch

/-- How far reading has come. -/
inductive Reading where
  | arguments (arguments : Arguments)
  /-- The next argument is an option's value. -/
  | awaiting (arguments : Arguments) (switch : Switch)
  /-- Whatever follows, the answer is settled. -/
  | settled (request : Request)
deriving Repr, DecidableEq

namespace Arguments

/-- Take an option with its value into account. Paths are not empty. -/
def give (a : Arguments) (switch : Switch) (value : String) : Except UsageError Arguments :=
  let once := fun (before : Option String) (isPath : Bool) (after : Arguments) =>
    if before.isSome then .error (.repeated switch.name)
    else if isPath && value.isEmpty then .error (.emptyValue switch.name)
    else .ok after
  match switch with
  | .html => once a.html true { a with html := some value }
  | .config => once a.config true { a with config := some value }
  | .baseUrl => once a.baseUrl false { a with baseUrl := some value }
  | .output => once a.output true { a with output := some value }
  | other => .error (.needlessValue other.name)

/-- Take an option without value into account. -/
def turnOn (a : Arguments) (switch : Switch) : Except UsageError Reading :=
  match switch with
  | .pretty =>
    if a.pretty then .error (.repeated switch.name) else .ok (.arguments { a with pretty := true })
  | .verbose =>
    if a.verbose then .error (.repeated switch.name)
    else .ok (.arguments { a with verbose := true })
  | .help => .ok (.settled .help)
  | .version => .ok (.settled .version)
  | other => .ok (.awaiting a other)

/-- Letters behind one dash. The rest behind a letter that takes a value is the value. -/
def readLetters (a : Arguments) : List Char → Except UsageError Reading
  | [] => .ok (.arguments a)
  | c :: rest =>
    match Switch.ofLetter? c with
    | none => .error (.unknown (String.ofList ['-', c]))
    | some switch =>
      if switch.takesValue && !rest.isEmpty then
        let value := match rest with
          | '=' :: value => value
          | value => value
        (a.give switch (String.ofList value)).map .arguments
      else
        match a.turnOn switch with
        | .ok (.arguments a) => readLetters a rest
        | other => other

/-- A name behind two dashes, with its value behind an equals sign or without. -/
def readLong (a : Arguments) (cs : List Char) : Except UsageError Reading :=
  let name := String.ofList (cs.takeWhile (· != '='))
  match Switch.ofName? name, cs.dropWhile (· != '=') with
  | none, _ => .error (.unknown ("--" ++ name))
  | some switch, [] => a.turnOn switch
  | some switch, _ :: value => (a.give switch (String.ofList value)).map .arguments

/-- One argument in front of which no option awaits a value. -/
def readOne (a : Arguments) (argument : String) : Except UsageError Reading :=
  match argument.toList with
  | '-' :: '-' :: name => a.readLong name
  | '-' :: c :: rest => a.readLetters (c :: rest)
  | _ => .ok (.arguments { a with sheets := a.sheets ++ [argument] })

/-- Whether an argument cannot be a value because it looks like an option. -/
def looksLikeOption (argument : String) : Bool :=
  match argument.toList with
  | '-' :: _ :: _ => true
  | _ => false

/-- Arguments from left to right. Behind two bare dashes there are no options any more. -/
def readAll : Reading → List String → Except UsageError Request
  | .settled request, _ => .ok request
  | .awaiting _ switch, [] => .error (.missingValue switch.name)
  | .awaiting a switch, value :: rest =>
    if looksLikeOption value then .error (.missingValue switch.name)
    else
      match a.give switch value with
      | .ok a => readAll (.arguments a) rest
      | .error e => .error e
  | .arguments a, [] => if a.sheets.isEmpty then .error .noSheet else .ok (.build a)
  | .arguments a, "--" :: rest =>
    let a := { a with sheets := a.sheets ++ rest }
    if a.sheets.isEmpty then .error .noSheet else .ok (.build a)
  | .arguments a, argument :: rest =>
    match a.readOne argument with
    | .ok reading => readAll reading rest
    | .error e => .error e

end Arguments

/-- What the program is asked for. -/
def Request.read (arguments : List String) : Except UsageError Request :=
  Arguments.readAll (.arguments .empty) arguments

/-- The text that explains the arguments. -/
def helpText : String :=
  "Generate HTML from CSS selectors\n" ++
  "\n" ++
  "Usage: cssgen [OPTIONS] <STYLESHEET>...\n" ++
  "\n" ++
  "Arguments:\n" ++
  "  <STYLESHEET>...  Stylesheets to apply in order (paths or URLs)\n" ++
  "\n" ++
  "Options:\n" ++
  "      --html <FILE>     Start from this HTML document instead of an empty skeleton\n" ++
  "      --config <FILE>   JSON config file\n" ++
  "      --base-url <URL>  Base for relative content URLs\n" ++
  "      --pretty          Indent the output\n" ++
  "  -o, --output <FILE>   Write the document here instead of stdout\n" ++
  "  -v, --verbose         Log at debug level\n" ++
  "  -h, --help            Print help\n" ++
  "  -V, --version         Print version\n"

end Topiary.Program
