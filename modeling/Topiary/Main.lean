import Topiary.Program.Run

/-!
The command line. Files are read here; which ones a run needs is found by running it on the files
that are known, until it looks for no more.
-/

namespace Topiary.Main

open Topiary.Program Topiary.Resource

/-- Files as they were found, by the paths that a run uses for them. -/
abbrev Known := List (String × Except DiskError (List UInt8))

/-- The disk as far as it is known. -/
def diskOf (folder : String) (known : Known) : Disk :=
  ⟨folder, fun path => (known.lookup path).getD (.error .missing)⟩

/-- Read a file. -/
def readFile (path : String) : IO (Except DiskError (List UInt8)) := do
  try
    let octets ← IO.FS.readBinFile path
    pure (.ok octets.toList)
  catch
    | .noFileOrDirectory _ _ _ => pure (.error .missing)
    | .inappropriateType _ _ _ => pure (.error .isFolder)
    | e => pure (.error (.other (toString e)))

/-- Run with the files that are known; whenever the run looks for others, read them and run
again. -/
partial def settle (folder : String) (arguments : List String) (known : Known) : IO Outcome := do
  let disk := diskOf folder known
  let (outcome, sought) := run disk arguments
  let fresh := (sought.map disk.absolute).eraseDups.filter fun path => (known.lookup path).isNone
  if fresh.isEmpty then pure outcome
  else
    let found ← fresh.mapM fun path => do pure (path, ← readFile path)
    settle folder arguments (known ++ found)

/-- Deliver an outcome and tell its code. -/
def deliver (outcome : Outcome) : IO UInt32 := do
  match outcome with
  | .misuse _ => IO.eprintln "error: invalid arguments\n\nFor more information, try '--help'."
  | .shown text => IO.print text
  | .failed => IO.eprintln "error: the document could not be built"
  | .page text none => IO.print text
  | .page text (some path) => IO.FS.writeFile path text
  pure outcome.code.toUInt32

end Topiary.Main

/-- The program. -/
def main (arguments : List String) : IO UInt32 := do
  let folder ← IO.currentDir
  let outcome ← Topiary.Main.settle folder.toString arguments []
  try
    Topiary.Main.deliver outcome
  catch e =>
    IO.eprintln (toString e)
    pure 1
