import Topiary.Selector.Equation
import Topiary.Selector.Sequence
import Topiary.Tree.Basic

/-!
Blueprints of elements. A compound group describes an element through its tag, ids, classes, exact
attribute values and its repeat directive; all other tokens are set aside.
-/

namespace Topiary.Synthesis

open Topiary.Selector

/-- Why a selector cannot be made true. -/
inductive SynthesisError where
  /-- No earlier step matched, so there is nowhere to attach the group. -/
  | anchor (group : String)
  /-- The group does not start with a tag. -/
  | untagged (group : String)
deriving Repr, DecidableEq

def SynthesisError.message : SynthesisError → String
  | .anchor group => "Nothing to attach " ++ Text.quoted group ++ " to: no earlier step matched"
  | .untagged group =>
    "Cannot synthesize " ++ Text.quoted group ++ ": it does not start with a tag name"

/-- What to build for one compound group. -/
structure Blueprint where
  tag : String
  /-- The last id of the group. -/
  id : Option String
  classes : ClassList
  attributes : Attributes
  /-- The first repeat directive, before any limit is applied. -/
  multiplier : Option Int
  /-- The sources of the tokens that describe nothing. -/
  skipped : List String
deriving Repr, DecidableEq

namespace Blueprint

def ofTag (tag : String) : Blueprint :=
  ⟨tag, none, .empty, .empty, none, []⟩

/-- Set a token aside. -/
def skip (b : Blueprint) (t : Token) : Blueprint :=
  { b with skipped := b.skipped ++ [t.source] }

/-- Take a token into account. -/
def add (b : Blueprint) (t : Token) : Blueprint :=
  match t.kind with
  | .id name => { b with id := some name }
  | .className name => { b with classes := b.classes.add name }
  | .attrValue name .equals value => { b with attributes := b.attributes.set name value }
  | .equationCall e =>
    match b.multiplier, e.multiplier with
    | none, some count => { b with multiplier := some count }
    | _, _ => b.skip t
  | _ => b.skip t

/-- The blueprint that a group describes. -/
def ofGroup (g : Group) : Except SynthesisError Blueprint :=
  match g.tokens with
  | ⟨.tag name, _⟩ :: tokens => .ok (tokens.foldl add (ofTag name))
  | _ => .error (.untagged g.source)

/-- Build the element, detached. -/
def build (b : Blueprint) (t : Tree) : Tree × NodeId :=
  let (t, node) := t.createElement b.tag
  let t := match b.id with
    | some id => t.setId node id
    | none => t
  let t := b.classes.names.foldl (fun t name => t.addClass node name) t
  let t := b.attributes.entries.foldl (fun t a => t.setAttribute node a.name a.value) t
  (t, node)

end Blueprint

end Topiary.Synthesis
