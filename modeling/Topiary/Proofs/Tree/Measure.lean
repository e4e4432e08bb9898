import Topiary.Proofs.Tree.Growth
import Topiary.Proofs.Tree.Order

/-!
How much a copy adds to the store. A copy takes one new place for every node of the subtree that is
copied; a leaf is copied with its own children only.
-/

namespace Topiary.Tree

variable {t t' t1 : Tree} {c x m : NodeId} {e : Element} {depth : Nat}

theorem length_flatMap_of_length {f : NodeId → List NodeId} {l : List NodeId} {count : Nat}
    (h : ∀ x ∈ l, (f x).length = count) : (l.flatMap f).length = l.length * count := by
  induction l with
  | nil => simp
  | cons x l ih =>
    rw [List.flatMap_cons, List.length_append, h x (by simp), ih fun y hy => h y (by simp [hy]),
      List.length_cons, Nat.add_mul, Nat.one_mul, Nat.add_comm]

theorem preorder_of_childless (h : t.children x = []) (depth : Nat) : t.preorder depth x = [x] := by
  cases depth with
  | zero => rfl
  | succ depth => rw [preorder, h, List.flatMap_nil]

/-- Nothing has happened to the subtrees of the first tree. -/
theorem Intact.preorder (h : t.Intact t') (ht : t.Linked) (hx : x < t.size) :
    t'.preorder depth x = t.preorder depth x := by
  induction depth generalizing x with
  | zero => rfl
  | succ depth ih =>
    rw [Tree.preorder, Tree.preorder, h.children x hx]
    congr 1
    exact List.flatMap_congr fun k hk => ih (ht.lt_of_mem_children hk).1

/-! ## Copies of subtrees -/

theorem size_foldl_cloneChild
    (ih : ∀ {t : Tree} {c : NodeId}, t.Linked → c < t.size →
      (cloneWithin depth t c).1.size = t.size + (t.preorder depth c).length)
    (ht : t.Linked) (h : t.Copied c t1) (l : List NodeId) (hl : ∀ x ∈ l, x < t.size) :
    (l.foldl (cloneChild depth t.size) t1).size =
      t1.size + (l.flatMap (t.preorder depth)).length := by
  induction l generalizing t1 with
  | nil => rfl
  | cons child l ihl =>
    have hchild : child < t.size := hl child (by simp)
    have hlt : child < t1.size := Nat.lt_of_lt_of_le hchild h.intact.size_le
    obtain ⟨t2, ht2, hcopy, -⟩ := copied_cloneWithin depth h.linked hlt
    have hsize : t2.size = t1.size + (t.preorder depth child).length := by
      have hsize1 := ih h.linked hlt
      rwa [ht2, h.intact.preorder ht hchild] at hsize1
    have hstep : cloneChild depth t.size t1 child = t2.append t.size t1.size := by
      rw [cloneChild, ht2]
    rw [List.foldl_cons, hstep, ihl (h.append hcopy).1 fun x hx => hl x (by simp [hx]),
      size_append, hsize, List.flatMap_cons, List.length_append, Nat.add_assoc]

/-- A copy holds as many nodes as are copied. -/
theorem size_cloneWithin (depth : Nat) (ht : t.Linked) (hc : c < t.size) :
    (cloneWithin depth t c).1.size = t.size + (t.preorder depth c).length := by
  induction depth generalizing t c with
  | zero =>
    obtain ⟨node, hnode⟩ := exists_get? hc
    rw [cloneWithin, hnode]
    exact size_push _
  | succ depth ih =>
    obtain ⟨node, hnode⟩ := exists_get? hc
    rw [cloneWithin_succ depth hnode, preorder, ht.children_push,
      size_foldl_cloneChild ih ht (.push ht hnode) _ fun x hx => (ht.lt_of_mem_children hx).1,
      size_push, List.length_cons]
    omega

theorem Leaf.size_cloneDeep (h : t.Leaf m e) (ht : t.Linked) :
    (t.cloneDeep m).1.size = t.size + (1 + (t.children m).length) := by
  obtain ⟨depth, hdepth⟩ := Nat.exists_eq_succ_of_ne_zero (Nat.ne_zero_of_lt h.lt_size)
  have hsingle : ∀ k ∈ t.children m, (t.preorder depth k).length = 1 := by
    intro k hk
    rw [preorder_of_childless (h.childless k hk).2]
    rfl
  have hkids : ((t.children m).flatMap (t.preorder depth)).length = (t.children m).length := by
    rw [length_flatMap_of_length hsingle, Nat.mul_one]
  rw [cloneDeep, size_cloneWithin _ ht h.lt_size, hdepth, preorder, List.length_cons, hkids,
    Nat.add_comm 1]

end Topiary.Tree
