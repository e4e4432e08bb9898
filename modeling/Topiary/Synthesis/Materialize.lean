import Topiary.Query.Match
import Topiary.Synthesis.Binder
import Topiary.Synthesis.Blueprint

/-!
Making a selector true. The items of a selector are taken from left to right, and the tree is
queried with the growing text. What matches becomes the context; a group that matches nothing is
built under every node of the context, so that the text matches afterwards.
-/

namespace Topiary.Synthesis

open Topiary.Selector

/-- Bounds on what one rule may build. -/
structure Limits where
  maxMultiplier : Nat
deriving Repr, DecidableEq

/-- What came of one item. -/
inductive Outcome where
  /-- The text up to here matched that many elements. -/
  | matched (count : Nat)
  /-- The text up to here is no query; the context stays as it was. -/
  | skipped (reason : String)
  /-- A combinator matched nothing. -/
  | propagated
  /-- That many elements were built and attached. -/
  | synthesized (count : Nat)
deriving Repr, DecidableEq

/-- The selector text up to an item and what came of it. -/
structure Step where
  upTo : String
  outcome : Outcome
deriving Repr, DecidableEq

/-- The account of one rule. -/
structure Report where
  steps : List Step
  /-- Elements attached to the tree. -/
  created : Nat
  /-- Tokens and directives that had no effect. -/
  skipped : List String
  /-- The mark of the last template, if its content is pending. -/
  correlation : Option Correlation
  contentBound : Bool
deriving Repr, DecidableEq

def Report.empty : Report := ⟨[], 0, [], none, false⟩

/-- Where the walk over a selector stands. -/
structure Walk where
  tree : Tree
  binder : Binder
  /-- What the last step that counts has matched or built. -/
  context : List NodeId
  report : Report

namespace Walk

/-- Record what came of a step. -/
def record (w : Walk) (upTo : String) (outcome : Outcome) : Walk :=
  { w with report := { w.report with steps := w.report.steps ++ [⟨upTo, outcome⟩] } }

/-- Record that something had no effect. -/
def skip (w : Walk) (texts : List String) : Walk :=
  { w with report := { w.report with skipped := w.report.skipped ++ texts } }

/-- The number of copies that a repeat directive asks for, within the limits. -/
def multiplier (limits : Limits) : Option Int → Nat × List String
  | none => (1, [])
  | some raw =>
    let most := max limits.maxMultiplier 1
    if raw < 1 then (1, ["repeat count " ++ toString raw])
    else if (most : Int) < raw then
      (most, ["repeat count " ++ toString raw ++ " above " ++ toString most])
    else (raw.toNat, [])

/-- Put the content of a rule on a template. -/
def bind (w : Walk) (template : NodeId) : Payload → Walk
  | .absent => w
  | .literal text =>
    { w with
      tree := w.tree.setTextContent template text
      report := { w.report with contentBound := true } }
  | .pending content =>
    let (mark, binder, tree) := w.binder.defer w.tree template content
    { w with
      tree := tree
      binder := binder
      report := { w.report with correlation := some mark, contentBound := true } }

/-- Copy a template and mark the copy with its place among its fellows. -/
def copy (template : NodeId) (t : Tree) (index : Nat) : Tree × Option NodeId :=
  match t.cloneDeep template with
  | (t, some node) => (t.setRepeatIndex node index, some node)
  | (t, none) => (t, none)

/-- Make `count` copies of a template. -/
def copies (template : NodeId) (count : Nat) (t : Tree) : Tree × List NodeId :=
  (List.range count).foldl (fun (state : Tree × List NodeId) index =>
    let (t, made) := state
    match copy template t index with
    | (t, some node) => (t, made ++ [node])
    | (t, none) => (t, made)) (t, [])

/-- Attach `count` copies of a template to each of the parents. -/
def attach (template : NodeId) (count : Nat) (parents : List NodeId) (t : Tree) :
    Tree × List NodeId :=
  parents.foldl (fun (state : Tree × List NodeId) parent =>
    let (t, made) := state
    let (t, fresh) := copies template count t
    (t.appendAll parent fresh, made ++ fresh)) (t, [])

/-- Build a group under every node of the context. The content, if any, goes on the template. -/
def synthesize (limits : Limits) (payload : Payload) (upTo : String) (g : Group) (w : Walk) :
    Except SynthesisError Walk :=
  if w.context.isEmpty then .error (.anchor g.source)
  else
    match Blueprint.ofGroup g with
    | .error error => .error error
    | .ok blueprint =>
      let (count, notes) := multiplier limits blueprint.multiplier
      let w := (w.skip blueprint.skipped).skip notes
      let (tree, template) := blueprint.build w.tree
      let w := ({ w with tree := tree }).bind template payload
      let (tree, made) := attach template count w.context w.tree
      let w := { w with
        tree := tree
        context := made
        report := { w.report with created := w.report.created + made.length } }
      .ok (w.record upTo (.synthesized made.length))

/-- Take one item. The payload is absent for all items but the last. -/
def step (limits : Limits) (payload : Payload) (upTo : String) (item : Item) (w : Walk) :
    Except SynthesisError Walk :=
  match w.tree.query upTo with
  | .error cause => .ok (w.record upTo (.skipped cause.reason))
  | .ok (first :: others) =>
    .ok (({ w with context := first :: others }).record upTo (.matched (others.length + 1)))
  | .ok [] =>
    match item with
    | .combinator _ => .ok (({ w with context := [] }).record upTo .propagated)
    | .compound g => w.synthesize limits payload upTo g

/-- Take the items from place `index` on. A step that fails leaves the walk where it stood. -/
def run (limits : Limits) (payload : Payload) (s : Sequence) (index : Nat) (w : Walk) :
    List Item → Walk × Option SynthesisError
  | [] => (w, none)
  | item :: items =>
    let own := if items.isEmpty then payload else .absent
    match w.step limits own (s.upTo index) item with
    | .error error => (w, some error)
    | .ok w => run limits payload s (index + 1) w items

end Walk

/-- Make a selector true in a tree. An error leaves behind what was built before it. -/
def materialize (limits : Limits) (s : Sequence) (payload : Payload) (t : Tree) (b : Binder) :
    Except SynthesisError Report × Tree × Binder :=
  match Walk.run limits payload s 0 ⟨t, b, [], .empty⟩ s.items with
  | (w, none) => (.ok w.report, w.tree, w.binder)
  | (w, some error) => (.error error, w.tree, w.binder)

end Topiary.Synthesis
