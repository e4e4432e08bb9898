import Topiary.Sheet.Basic

/-!
Flattening imports. Every import is replaced by the rules of the imported sheet. An import is
skipped if it nests too deep, does not load, leads back to a sheet that is being expanded, or does
not parse.
-/

namespace Topiary.Sheet

/-- The text of an imported sheet and the address it was found at. -/
structure Loaded where
  url : String
  css : String
deriving Repr, DecidableEq

/-- Where sheets come from: an address as it is written, relative to the address of the sheet that
holds it. -/
abbrev Loader := String → Option String → Option Loaded

/-- What flattening does, in order: it emits rules and it asks for sheets. -/
inductive Event where
  | rule (rule : Rule)
  | load (url : String) (base : Option String)
deriving Repr, DecidableEq

/-- Expand the entries of a sheet found at `base`, with the addresses in `chain` being expanded and
`depth` further levels of imports allowed. -/
def expand (parse : String → Except ParseError Stylesheet) (loader : Loader) (depth : Nat)
    (chain : List String) (base : Option String) (entries : List Entry) : List Event :=
  match depth with
  | 0 =>
    entries.flatMap fun
      | .rule rule => [.rule rule]
      | .load _ => []
  | depth + 1 =>
    entries.flatMap fun
      | .rule rule => [.rule rule]
      | .load url =>
        .load url base ::
          match loader url base with
          | none => []
          | some loaded =>
            if chain.contains loaded.url then []
            else
              match parse loaded.css with
              | .error _ => []
              | .ok sheet =>
                expand parse loader depth (chain ++ [loaded.url]) (some loaded.url) sheet.entries

/-- The rules among events. -/
def rulesOf (events : List Event) : List Rule :=
  events.filterMap fun
    | .rule rule => some rule
    | .load _ _ => none

/-- The requests among events. -/
def loadsOf (events : List Event) : List (String × Option String) :=
  events.filterMap fun
    | .rule _ => none
    | .load url base => some (url, base)

/-- Expand a top-level sheet. -/
def flatten (parse : String → Except ParseError Stylesheet) (loader : Loader) (maxDepth : Nat)
    (sheet : Stylesheet) : List Event :=
  expand parse loader maxDepth [] none sheet.entries

end Topiary.Sheet
