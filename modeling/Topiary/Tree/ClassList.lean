import Topiary.Text.Blank

/-!
Class lists: the words of a class attribute, each once, in the order of first mention.
-/

namespace Topiary

structure ClassList where
  names : List String
deriving Repr, DecidableEq

namespace ClassList

def empty : ClassList := ⟨[]⟩

def contains (l : ClassList) (name : String) : Bool :=
  l.names.contains name

/-- Add a name at the end; the empty name and names that are there already change nothing. -/
def add (l : ClassList) (name : String) : ClassList :=
  if name.isEmpty || l.contains name then l else ⟨l.names ++ [name]⟩

def addAll (l : ClassList) (names : List String) : ClassList :=
  names.foldl add l

/-- The class list that an attribute value writes. -/
def ofString (value : String) : ClassList :=
  empty.addAll (Text.words value)

/-- The attribute value that writes the list. -/
def value (l : ClassList) : String :=
  " ".intercalate l.names

end ClassList

end Topiary
