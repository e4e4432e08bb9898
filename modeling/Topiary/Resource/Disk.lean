import Topiary.Address.Read

/-!
Files as they are read: absolute paths lead to octets or to a reason why there are none. A disk can
be given by a table of its files.
-/

namespace Topiary.Resource

/-- Why a file cannot be read. -/
inductive DiskError where
  | missing
  | notFolder
  | isFolder
  | badPath
  | emptyPath
  | other (reason : String)
deriving Repr, DecidableEq

def DiskError.message : DiskError → String
  | .missing => "No such file or directory (os error 2)"
  | .notFolder => "Not a directory (os error 20)"
  | .isFolder => "Is a directory (os error 21)"
  | .badPath => "file name contained an unexpected NUL byte"
  | .emptyPath => "cannot make an empty path absolute"
  | .other reason => reason

/-- A disk with the folder that relative paths start from. -/
structure Disk where
  folder : String
  read : String → Except DiskError (List UInt8)

namespace Disk

/-- The absolute form of a path that is not empty. -/
def absolute (d : Disk) (path : String) : String :=
  match path.toList with
  | '/' :: _ => path
  | _ => d.folder ++ "/" ++ path

def readPath (d : Disk) (path : String) : Except DiskError (List UInt8) :=
  if path.isEmpty then .error .missing
  else if path.toList.contains '\x00' then .error .badPath
  else d.read (d.absolute path)

/-- Whether there is a file or a folder at a path. -/
def has (d : Disk) (path : String) : Bool :=
  match d.readPath path with
  | .ok _ => true
  | .error .isFolder => true
  | .error _ => false

end Disk

/-! ## Tables of files -/

/-- The names on the way to a file. -/
abbrev Way := List (List Char)

/-- Files by the names on the way to them. -/
structure FileTable where
  folder : Way
  files : List (Way × List UInt8)

/-- Where a walk along a path ends. -/
inductive Place where
  | folder (way : Way)
  | file (way : Way) (octets : List UInt8)
  | nothing (way : Way)
deriving Repr, DecidableEq

def Way.text (way : Way) : String :=
  String.ofList (way.flatMap ('/' :: ·))

namespace FileTable

/-- The table of files whose paths start from a folder. -/
def ofFiles (folder : String) (files : List (String × List UInt8)) : FileTable :=
  let start := Address.pathNames folder
  ⟨start, files.map fun (path, octets) => (start ++ Address.pathNames path, octets)⟩

/-- Whether a way leads to a folder: folders are what is on the way to a file or to the folder of
the table. -/
def isFolder (t : FileTable) (way : Way) : Bool :=
  way.isPrefixOf t.folder || t.files.any fun f => way.isPrefixOf f.1 && way != f.1

def placeAt (t : FileTable) (way : Way) : Place :=
  match t.files.lookup way with
  | some octets => .file way octets
  | none => if t.isFolder way then .folder way else .nothing way

/-- Walk on along the names of a path; two points go back. Only the last name may lead to a file or
to nothing. -/
def walk (t : FileTable) (place : Place) : Way → Except DiskError Place
  | [] => .ok place
  | name :: rest =>
    match place with
    | .file _ _ => .error .notFolder
    | .nothing _ => .error .missing
    | .folder way =>
      if name.isEmpty || name = ['.'] then walk t place rest
      else if name = ['.', '.'] then walk t (.folder way.dropLast) rest
      else walk t (t.placeAt (way ++ [name])) rest

/-- What an absolute path leads to. -/
def find (t : FileTable) (path : String) : Except DiskError Place :=
  t.walk (.folder []) (Address.splitOn (· == '/') path.toList)

def read (t : FileTable) (path : String) : Except DiskError (List UInt8) :=
  match t.find path with
  | .ok (.file _ octets) => .ok octets
  | .ok (.folder _) => .error .isFolder
  | .ok (.nothing _) => .error .missing
  | .error e => .error e

/-- The disk that holds the files of the table. -/
def disk (t : FileTable) : Disk := ⟨t.folder.text, t.read⟩

/-- The table with a file written; the file may be new, the folder may not. -/
def write (t : FileTable) (path : String) (octets : List UInt8) : Except DiskError FileTable :=
  if path.isEmpty then .error .missing
  else
    match t.find (t.disk.absolute path) with
    | .ok (.folder _) => .error .isFolder
    | .ok (.nothing way) => .ok { t with files := (way, octets) :: t.files }
    | .ok (.file way _) => .ok { t with files := (way, octets) :: t.files }
    | .error e => .error e

end FileTable

end Topiary.Resource
