import Topiary.Sheet.Basic
import Topiary.Sheet.Declarations

/-!
Stylesheets from text. Rules with broken selectors are left out, and so is everything that is
neither a style rule nor an import.
-/

namespace Topiary.Sheet

/-- The style rule that a selector and a block make, if the selector is sound. -/
def styleRule (selector inside : List Piece) : Option Entry :=
  (selectors? false selector).map fun selectors =>
    .rule ⟨selectorsText selectors, contentOf inside⟩

/-- The entries that pieces spell, after `stage`; `count` bounds their number. -/
def entriesWithin (stage : Stage) : (count : Nat) → List Piece → List Entry
  | 0, _ => []
  | _ + 1, [] => []
  | count + 1, p :: rest =>
    match p with
    | .token (.fence _) => entriesWithin stage count rest
    | .token (.atWord name) =>
      let (prelude, after) := rest.span fun q => !endsPrelude q
      let (url, stage) := match sheetPrelude? stage name prelude with
        | some prelude => prelude.result stage (after.head?.any Piece.isCurly)
        | none => (none, stage)
      (url.map Entry.load).toList ++ entriesWithin stage count (after.drop 1)
    | _ =>
      if p.isGap then entriesWithin stage count rest
      else
        let (selector, after) := (p :: rest).span fun q => !q.isCurly
        match after with
        | .block _ inside :: after =>
          if startsOwnName selector then entriesWithin stage count after
          else (styleRule selector inside).toList ++ entriesWithin .body count after
        | _ => []

/-- What follows a statement of the character set at the very start. -/
def skipCharset (ps : List Piece) : List Piece :=
  let start := ps.dropWhile fun
    | .token (.fence _) => true
    | p => p.isGap
  match start with
  | .token (.atWord name) :: rest =>
    if Text.lower name == "charset" then (rest.dropWhile fun p => !endsPrelude p).drop 1 else ps
  | _ => ps

/-- The stylesheet that a text spells. What is broken is left out, so every text spells one. -/
def Stylesheet.read (text : String) : Stylesheet :=
  let ps := skipCharset (pieces text)
  ⟨entriesWithin .start ps.length ps⟩

/-- Reading a sheet never fails. -/
def parse (text : String) : Except ParseError Stylesheet :=
  .ok (.read text)

end Topiary.Sheet
