import Topiary.Synthesis.Content
import Topiary.Tree.Basic

/-!
Binding fetched content. An element that waits for content is marked before it is copied, so that
all copies carry the mark; when the fetch is answered, the text of every connected element with the
mark is replaced.
-/

namespace Topiary.Synthesis

/-- The next mark and the fetches that are not settled yet, in the order they were deferred. -/
structure Binder where
  next : Nat
  pending : List (Correlation × Pending)
deriving Inhabited

/-- What one settling has brought. -/
structure SettleReport where
  resolved : Nat
  failed : Nat
  nodesUpdated : Nat
deriving Repr, DecidableEq

namespace Binder

/-- Marks are counted from 1. -/
def empty : Binder := ⟨1, []⟩

/-- Hand out the next mark. -/
def issue (b : Binder) : Correlation × Binder :=
  (⟨b.next⟩, { b with next := b.next + 1 })

/-- Mark an element with a new mark and keep its fetch. -/
def defer (b : Binder) (t : Tree) (template : NodeId) (content : Pending) :
    Correlation × Binder × Tree :=
  let (mark, b) := b.issue
  (mark, { b with pending := b.pending ++ [(mark, content)] }, t.setCorrelation template mark)

end Binder

/-- Replace the text of the elements with a mark by the written form of a document. The answer tells
how many elements there were. -/
def bindValue (t : Tree) (mark : Correlation) (value : Json) : Tree × Nat :=
  let nodes := t.findByCorrelation mark
  (nodes.foldl (fun t node => (t.removeChildren node).setTextContent node value.write) t,
    nodes.length)

/-- Account for one answered fetch. -/
def settleOne (state : Tree × SettleReport) (entry : Correlation × Pending) :
    Tree × SettleReport :=
  let (t, report) := state
  match entry.2.fetch with
  | .value document =>
    let (t, updated) := bindValue t entry.1 document
    (t, { report with
      resolved := report.resolved + 1, nodesUpdated := report.nodesUpdated + updated })
  | .failed => (t, { report with failed := report.failed + 1 })
  | .stalled => (t, { report with failed := report.failed + 1 })

/-- Account for answered fetches in the order of the list. -/
def settleAll (t : Tree) (entries : List (Correlation × Pending)) : Tree × SettleReport :=
  entries.foldl settleOne (t, ⟨0, 0, 0⟩)

/-- Settle all that is pending; fetches that stall have failed. -/
def Binder.settle (b : Binder) (t : Tree) : SettleReport × Binder × Tree :=
  let (t, report) := settleAll t b.pending
  (report, { b with pending := [] }, t)

end Topiary.Synthesis
