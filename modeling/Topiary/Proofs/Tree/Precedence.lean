import Topiary.Proofs.Tree.Order

/-!
Precedence. Every node has a path, the places among siblings that lead to it from the document node.
Document order is the lexicographic order of the paths: a node comes before what is below it, and
what is below a node comes before its later siblings. The walk from the document node goes through
the nodes strictly in this order.
-/

namespace Topiary.Tree

variable {t : Tree} {p c d x y : NodeId} {depth : Nat}

/-- The number of siblings before a node. -/
def place (t : Tree) (x : NodeId) : Nat :=
  (t.prevSiblings x).length

/-- The places that lead from the document node down to a node. -/
def path (t : Tree) (x : NodeId) : List Nat :=
  ((x :: t.ancestors x).map t.place).reverse

/-- The first node comes before the second in document order. -/
def Precedes (t : Tree) (x y : NodeId) : Prop :=
  t.path x < t.path y

theorem not_precedes_self (t : Tree) (x : NodeId) : ¬ t.Precedes x x :=
  List.lt_irrefl _

theorem lt_append_cons (l more : List Nat) (n : Nat) : l < l ++ n :: more := by
  have hlt : l ++ [] < l ++ n :: more := List.append_left_lt (List.nil_lt_cons n more)
  rwa [List.append_nil] at hlt

theorem Linked.place_eq (h : t.Linked) {i : Nat} (hi : (t.children p)[i]? = some c) :
    t.place c = i := by
  obtain ⟨hlt, hc⟩ := List.getElem?_eq_some_iff.mp hi
  have hsplit : t.children p = (t.children p).take i ++ c :: (t.children p).drop (i + 1) := by
    rw [← hc, ← List.drop_eq_getElem_cons hlt, List.take_append_drop]
  rw [place, LinkedBy.prevSiblings_eq h hsplit, List.length_reverse, List.length_take,
    Nat.min_eq_left (Nat.le_of_lt hlt)]

namespace Rooted

theorem path_child (h : t.Rooted) (hx : t.Connected x) (hp : t.parent? x = some p) :
    t.path x = t.path p ++ [t.place x] := by
  rw [path, path, h.ancestors_eq hx, hp]
  simp

/-- The path to a node goes on to what is below the node. -/
theorem exists_path_of_mem_preorder (h : t.Rooted) (hx : t.Connected x)
    (hy : y ∈ t.preorder depth x) : ∃ more, t.path y = t.path x ++ more := by
  induction depth generalizing x with
  | zero =>
    rw [preorder, List.mem_singleton] at hy
    exact ⟨[], by rw [hy, List.append_nil]⟩
  | succ depth ih =>
    rw [preorder, List.mem_cons] at hy
    rcases hy with rfl | hy
    · exact ⟨[], (List.append_nil _).symm⟩
    · obtain ⟨k, hk, hy⟩ := List.mem_flatMap.mp hy
      have hparent := h.linked.mem_children.mp hk
      obtain ⟨more, hmore⟩ := ih (hx.child hparent) hy
      exact ⟨t.place k :: more, by
        rw [hmore, h.path_child (hx.child hparent) hparent, List.append_assoc,
          List.singleton_append]⟩

theorem precedes_below (h : t.Rooted) (hx : t.Connected x) (hc : c ∈ t.children x)
    (hy : y ∈ t.preorder depth c) : t.Precedes x y := by
  have hparent := h.linked.mem_children.mp hc
  obtain ⟨more, hmore⟩ := h.exists_path_of_mem_preorder (hx.child hparent) hy
  rw [Precedes, hmore, h.path_child (hx.child hparent) hparent, List.append_assoc]
  exact lt_append_cons _ _ _

theorem precedes_beside (h : t.Rooted) (hp : t.Connected p) (hc : c ∈ t.children p)
    (hd : d ∈ t.children p) (hplace : t.place c < t.place d) (hx : x ∈ t.preorder depth c)
    (hy : y ∈ t.preorder depth d) : t.Precedes x y := by
  have hparent := h.linked.mem_children.mp hc
  have hparent' := h.linked.mem_children.mp hd
  obtain ⟨more, hmore⟩ := h.exists_path_of_mem_preorder (hp.child hparent) hx
  obtain ⟨more', hmore'⟩ := h.exists_path_of_mem_preorder (hp.child hparent') hy
  rw [Precedes, hmore, hmore', h.path_child (hp.child hparent) hparent,
    h.path_child (hp.child hparent') hparent', List.append_assoc, List.append_assoc]
  exact List.append_left_lt (List.cons_lt_cons_iff.mpr (Or.inl hplace))

theorem pairwise_place_children (h : t.Rooted) (p : NodeId) :
    (t.children p).Pairwise fun c d => t.place c < t.place d := by
  rw [List.pairwise_iff_getElem]
  intro i j hi hj hij
  rw [h.linked.place_eq (List.getElem?_eq_getElem hi),
    h.linked.place_eq (List.getElem?_eq_getElem hj)]
  exact hij

theorem pairwise_preorder (h : t.Rooted) (hx : t.Connected x) :
    (t.preorder depth x).Pairwise t.Precedes := by
  induction depth generalizing x with
  | zero => exact List.pairwise_singleton _ _
  | succ depth ih =>
    rw [preorder, List.pairwise_cons, List.pairwise_flatMap]
    refine ⟨fun y hy => ?_, fun c hc => ih (hx.child (h.linked.mem_children.mp hc)), ?_⟩
    · obtain ⟨c, hc, hy⟩ := List.mem_flatMap.mp hy
      exact h.precedes_below hx hc hy
    · refine (h.pairwise_place_children x).imp_of_mem ?_
      intro c d hc hd hplace y hy z hz
      exact h.precedes_beside hx hc hd hplace hy hz

/-- The walk from the document node goes through the tree strictly in document order. -/
theorem pairwise_descendants (h : t.Rooted) : (t.descendants root).Pairwise t.Precedes := by
  have hall : (root :: t.descendants root).Pairwise t.Precedes := by
    rw [h.cons_descendants_eq]
    exact h.pairwise_preorder connected_root
  exact (List.pairwise_cons.mp hall).2

end Rooted

theorem nodup_of_pairwise_precedes {l : List NodeId} (h : l.Pairwise t.Precedes) : l.Nodup := by
  refine h.imp ?_
  rintro x y hxy rfl
  exact not_precedes_self t x hxy

end Topiary.Tree
