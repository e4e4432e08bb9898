/-!
Stylesheets as far as they matter here: style rules with their selector and `content`, and imports.
-/

namespace Topiary.Sheet

structure Rule where
  selector : String
  /-- The value of the `content` declaration as it is written. -/
  content : Option String
deriving Repr, DecidableEq

/-- A top-level entry of a stylesheet. -/
inductive Entry where
  | rule (rule : Rule)
  /-- The address of an imported sheet, as it is written. -/
  | load (url : String)
deriving Repr, DecidableEq

structure Stylesheet where
  entries : List Entry
deriving Repr, DecidableEq

namespace Stylesheet

def empty : Stylesheet := ⟨[]⟩

/-- The rules of the sheet itself, imports not followed. -/
def rules (s : Stylesheet) : List Rule :=
  s.entries.filterMap fun
    | .rule rule => some rule
    | .load _ => none

end Stylesheet

/-- Why a text is no stylesheet. -/
structure ParseError where
  /-- The 1-based number of the line at fault. -/
  line : Nat
deriving Repr, DecidableEq

end Topiary.Sheet
