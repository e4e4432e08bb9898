import Topiary.Proofs.Tree.Order

/-!
The walk from the document node. Operations may close circles of nodes, but none of them ever hangs
below the document node as long as that node itself is not appended. So the walk needs no bound: it
ends of its own accord, after it has passed every connected node once and in preorder; and going up
from any node whose parents come to an end tells whether the walk passes it.
-/

namespace Topiary.Tree

variable {t : Tree} {top x y p : NodeId} {l : List NodeId} {exit : Option NodeId}

/-! ## Unbounded walks -/

/-- Going up from a node below `top` until there is a next sibling, without a bound. -/
inductive Climbs (t : Tree) (top : NodeId) : NodeId → Option NodeId → Prop where
  | top : Climbs t top top none
  | sibling {x y : NodeId} : x ≠ top → t.nextSibling? x = some y → Climbs t top x (some y)
  | parent {x p : NodeId} {exit : Option NodeId} : x ≠ top → t.nextSibling? x = none →
      t.parent? x = some p → Climbs t top p exit → Climbs t top x exit
  | stray {x : NodeId} : x ≠ top → t.nextSibling? x = none → t.parent? x = none →
      Climbs t top x none

/-- One step of the walk below `top`: down to the first child, or else up to a next sibling. -/
inductive Follows (t : Tree) (top : NodeId) : NodeId → Option NodeId → Prop where
  | down {x c : NodeId} : t.firstChild? x = some c → Follows t top x (some c)
  | up {x : NodeId} {exit : Option NodeId} : t.firstChild? x = none → Climbs t top x exit →
      Follows t top x exit

/-- The walk below `top` from `start` on passes these nodes of the tree and ends of its own
accord. -/
inductive Walks (t : Tree) (top : NodeId) : Option NodeId → List NodeId → Prop where
  | done : Walks t top none []
  | pass {x : NodeId} {next : Option NodeId} {l : List NodeId} : x < t.size →
      Follows t top x next → Walks t top next l → Walks t top (some x) (x :: l)

/-- The nodes of a forest in preorder: every node, then what is below it, then what is behind it. -/
inductive Preorder (t : Tree) : List NodeId → List NodeId → Prop where
  | nil : Preorder t [] []
  | cons {x : NodeId} {rest below behind : List NodeId} : Preorder t (t.children x) below →
      Preorder t rest behind → Preorder t (x :: rest) (x :: (below ++ behind))

/-- The parents of a node come to an end. -/
inductive Ends (t : Tree) : NodeId → Prop where
  | top {x : NodeId} : t.parent? x = none → Ends t x
  | child {x p : NodeId} : t.parent? x = some p → Ends t p → Ends t x

/-- Going up from a node ends at the document node or at another node without parent. -/
inductive Rises (t : Tree) : NodeId → Bool → Prop where
  | root : Rises t root true
  | stray {x : NodeId} : x ≠ root → t.parent? x = none → Rises t x false
  | child {x p : NodeId} {found : Bool} : x ≠ root → t.parent? x = some p → Rises t p found →
      Rises t x found

/-! ## The bounds are never reached -/

theorem Lineage.climbs (h : t.Lineage x l) (ht : t.Rooted) {count : Nat} (hl : l.length < count) :
    t.Climbs Tree.root x (t.climb Tree.root count x) := by
  induction h generalizing count with
  | root =>
    cases count with
    | zero => simp at hl
    | succ count =>
      rw [climb, if_pos rfl]
      exact .top
  | @child x p l hp _ ih =>
    cases count with
    | zero => simp at hl
    | succ count =>
      have hne := ht.ne_root_of_parent? hp
      obtain ⟨node, hnode, hparent⟩ := Option.bind_eq_some_iff.mp hp
      have hnext : t.nextSibling? x = node.nextSibling := by simp [nextSibling?, hnode]
      rw [climb, if_neg hne, hnode]
      simp only [hparent]
      split
      · rename_i next hsibling
        exact .sibling hne (hnext.trans hsibling)
      · rename_i hsibling
        exact .parent hne (hnext.trans hsibling) hp (ih (by simpa using hl))

namespace Rooted

theorem follows (h : t.Rooted) (hx : t.Connected x) : t.Follows root x (t.following? root x) := by
  obtain ⟨l, hl⟩ := hx
  rw [following?]
  split
  · rename_i child hchild
    exact .down hchild
  · rename_i hnone
    exact .up hnone (hl.climbs h (Nat.lt_succ_of_lt (hl.length_lt h)))

theorem walks_of_trail (h : t.Rooted) (htrail : t.Trail l none) (hl : ∀ x ∈ l, t.Connected x) :
    t.Walks root l.head? l := by
  induction l with
  | nil => exact .done
  | cons x l ih =>
    obtain ⟨hx, hnext, hrest⟩ := htrail
    have hfollows := h.follows (hl x (by simp))
    rw [hnext, Option.toList_none, List.append_nil] at hfollows
    exact .pass hx hfollows (ih hrest fun y hy => hl y (by simp [hy]))

end Rooted

/-! ## Preorder -/

namespace Preorder

theorem single {below : List NodeId} (h : t.Preorder (t.children x) below) :
    t.Preorder [x] (x :: below) := by
  rw [← List.append_nil below]
  exact .cons h .nil

theorem append {l l' m m' : List NodeId} (h : t.Preorder l m) (h' : t.Preorder l' m') :
    t.Preorder (l ++ l') (m ++ m') := by
  induction h with
  | nil => exact h'
  | cons hbelow _ _ ih =>
    rw [List.cons_append, List.cons_append, List.append_assoc]
    exact .cons hbelow ih

theorem flatMap {f : NodeId → List NodeId} (hl : ∀ x ∈ l, t.Preorder [x] (f x)) :
    t.Preorder l (l.flatMap f) := by
  induction l with
  | nil => exact .nil
  | cons x l ih =>
    rw [List.flatMap_cons, ← List.singleton_append]
    exact (hl x (by simp)).append (ih fun y hy => hl y (by simp [hy]))

end Preorder

namespace Rooted

/-- A subtree that is taken deep enough is taken in preorder. -/
theorem preorder_of_lineage (h : t.Rooted) {depth : Nat} (hl : t.Lineage x l)
    (hdepth : t.size ≤ depth + l.length) : t.Preorder [x] (t.preorder depth x) := by
  induction depth generalizing x l with
  | zero => exact absurd (hl.length_lt h) (by omega)
  | succ depth ih =>
    refine Preorder.single (Preorder.flatMap fun k hk => ?_)
    refine ih (Lineage.child (h.linked.mem_children.mp hk) hl) ?_
    simp only [List.length_cons]
    omega

theorem walks_descendants (h : t.Rooted) :
    t.Walks root (t.firstChild? root) (t.descendants root) := by
  obtain ⟨-, hfirst, htrail⟩ := h.trail_descendants
  rw [following?_root, Option.toList_none, List.append_nil] at hfirst
  rw [hfirst]
  exact h.walks_of_trail htrail fun x hx => (h.mem_descendants_iff.mp hx).2

theorem preorder_descendants (h : t.Rooted) :
    t.Preorder (t.children root) (t.descendants root) := by
  obtain ⟨depth, hdepth⟩ := Nat.exists_eq_succ_of_ne_zero (Nat.ne_of_gt h.size_pos)
  have hall := h.cons_descendants_eq
  rw [hdepth, preorder] at hall
  rw [(List.cons.inj hall).2]
  refine Preorder.flatMap fun k hk => ?_
  exact h.preorder_of_lineage (.child (h.linked.mem_children.mp hk) .root) (by simp [hdepth])

theorem isConnected_iff_mem_descendants (h : t.Rooted) :
    t.isConnected x = true ↔ x = root ∨ x ∈ t.descendants root := by
  rw [h.isConnected_iff, h.mem_descendants_iff]
  by_cases hx : x = root
  · simp [hx, connected_root]
  · simp [hx]

theorem rises_isConnected (h : t.Rooted) (hx : t.Ends x) : t.Rises x (t.isConnected x) := by
  induction hx with
  | @top x hp =>
    by_cases hroot : x = root
    · rw [hroot, h.isConnected_iff.mpr connected_root]
      exact .root
    · have hstray : t.isConnected x = false := by
        rw [Bool.eq_false_iff, ne_eq, h.isConnected_iff]
        rintro ⟨l, hl⟩
        cases hl with
        | root => exact hroot rfl
        | child hp' _ => simp [hp] at hp'
      rw [hstray]
      exact .stray hroot hp
  | @child x p hp _ ih =>
    have hsame : t.isConnected x = t.isConnected p := by
      rw [Bool.eq_iff_iff, h.isConnected_iff, h.isConnected_iff, h.connected_iff hp]
    rw [hsame]
    exact .child (h.ne_root_of_parent? hp) hp ih

end Rooted

/-- In a tree whose document node was never appended, the walk from the document node ends; it goes
in preorder through exactly the other nodes whose parents lead up to the document node, and passes
each of them once. A node whose parents come to an end is found to be connected if it is the
document node or the walk passes it. -/
theorem descendants_traverse (h : t.Reachable) :
    t.Walks root (t.firstChild? root) (t.descendants root) ∧
      t.Preorder (t.children root) (t.descendants root) ∧
      (t.descendants root).Nodup ∧
      (∀ x, x ∈ t.descendants root ↔ x ≠ root ∧ t.Connected x) ∧
      ∀ x, t.Ends x → t.Rises x (t.isConnected x) ∧
        (t.isConnected x = true ↔ x = root ∨ x ∈ t.descendants root) := by
  have hroot := h.rooted
  exact ⟨hroot.walks_descendants, hroot.preorder_descendants,
    (List.nodup_cons.mp hroot.nodup_descendants).2, fun x => hroot.mem_descendants_iff,
    fun x hx => ⟨hroot.rises_isConnected hx, hroot.isConnected_iff_mem_descendants⟩⟩

/-- Two elements in a circle, and a third one below the document node. -/
def circledTree : Tree :=
  ofMutations [.createElement "div", .createElement "p", .createElement "b", .append 1 2,
    .append 2 1, .append root 3]

theorem descendants_traverse_circledTree :
    circledTree.Reachable ∧ circledTree.parent? 1 = some 2 ∧ circledTree.parent? 2 = some 1 ∧
      circledTree.descendants root = [3] ∧
      circledTree.Walks root (circledTree.firstChild? root) (circledTree.descendants root) ∧
      circledTree.Preorder (circledTree.children root) (circledTree.descendants root) ∧
      (circledTree.descendants root).Nodup ∧
      (∀ x, x ∈ circledTree.descendants root ↔ x ≠ root ∧ circledTree.Connected x) ∧
      ∀ x, circledTree.Ends x → circledTree.Rises x (circledTree.isConnected x) ∧
        (circledTree.isConnected x = true ↔ x = root ∨ x ∈ circledTree.descendants root) := by
  have hreachable : circledTree.Reachable := ⟨_, by simp [Mutation.SparesRoot, root], rfl⟩
  exact ⟨hreachable, by decide, by decide, by decide, descendants_traverse hreachable⟩

end Topiary.Tree
