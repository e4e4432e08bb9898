import Topiary.Proofs.Tree.Lineage

/-!
Growing trees. New nodes are appended behind the children of old ones, and all else about the old
nodes stays.
-/

namespace Topiary.Tree

variable {t t' t1 t2 : Tree} {p c m x : NodeId} {l : List NodeId}
  {fresh more : NodeId → List NodeId} {e : Element}

/-- Every old node has the children in `fresh` behind its old ones, and all else is as it was. -/
structure Grown (t : Tree) (fresh : NodeId → List NodeId) (t' : Tree) : Prop where
  rooted : t'.Rooted
  size_le : t.size ≤ t'.size
  data : ∀ x < t.size, t'.data? x = t.data? x
  parent : ∀ x < t.size, t'.parent? x = t.parent? x
  children : ∀ x < t.size, t'.children x = t.children x ++ fresh x
  new : ∀ p, ∀ m ∈ fresh p, t.size ≤ m

theorem Intact.grown (h : t.Intact t') (ht' : t'.Rooted) : t.Grown (fun _ => []) t' where
  rooted := ht'
  size_le := h.size_le
  data := h.data
  parent := h.parent
  children x hx := by rw [h.children x hx, List.append_nil]
  new := by simp

/-- What the children of a node hold. -/
def held (t : Tree) (x : NodeId) : List (Option NodeData) :=
  (t.children x).map t.data?

theorem element?_congr (h : t'.data? x = t.data? x) : t'.element? x = t.element? x := by
  rw [element?_eq, element?_eq, h]

theorem isElement_eq (h : t'.data? x = t.data? x) : t'.isElement x = t.isElement x := by
  rw [isElement, isElement, element?_congr h]

theorem lt_size_of_isElement (h : t.isElement x = true) : x < t.size := by
  obtain ⟨e, he⟩ := Option.isSome_iff_exists.mp h
  exact lt_size_of_element? he

namespace Grown

theorem trans (h : t.Grown fresh t1) (h' : t1.Grown more t2) :
    t.Grown (fun x => fresh x ++ more x) t2 where
  rooted := h'.rooted
  size_le := Nat.le_trans h.size_le h'.size_le
  data x hx := (h'.data x (Nat.lt_of_lt_of_le hx h.size_le)).trans (h.data x hx)
  parent x hx := (h'.parent x (Nat.lt_of_lt_of_le hx h.size_le)).trans (h.parent x hx)
  children x hx := by
    rw [h'.children x (Nat.lt_of_lt_of_le hx h.size_le), h.children x hx, List.append_assoc]
  new p m hm := by
    rcases List.mem_append.mp hm with hm | hm
    · exact h.new p m hm
    · exact Nat.le_trans h.size_le (h'.new p m hm)

theorem isElement (h : t.Grown fresh t') (hx : t.isElement x = true) : t'.isElement x = true :=
  (isElement_eq (h.data x (lt_size_of_isElement hx))).trans hx

theorem lineage (h : t.Grown fresh t') (ht : t.Rooted) (hx : t.Lineage x l) :
    t'.Lineage x l := by
  induction hx with
  | root => exact .root
  | child hp hl ih =>
    exact .child ((h.parent _ (ht.linked.lt_of_parent? hp).1).trans hp) ih

theorem connected (h : t.Grown fresh t') (ht : t.Rooted) (hx : t.Connected x) :
    t'.Connected x := by
  obtain ⟨l, hl⟩ := hx
  exact ⟨l, h.lineage ht hl⟩

theorem connected_iff (h : t.Grown fresh t') (ht : t.Rooted) (hx : x < t.size) :
    t'.Connected x ↔ t.Connected x := by
  constructor
  · rintro ⟨l, hl⟩
    induction hl with
    | root => exact connected_root
    | @child x p l hp _ ih =>
      rw [h.parent x hx] at hp
      exact (ih (ht.linked.lt_of_parent? hp).2).child hp
  · exact h.connected ht

theorem ancestors (h : t.Grown fresh t') (ht : t.Rooted) (hx : t.Connected x) :
    t'.ancestors x = t.ancestors x :=
  (h.lineage ht (ht.lineage_ancestors hx)).ancestors_eq h.rooted

theorem parent?_fresh (h : t.Grown fresh t') (hp : p < t.size) (hm : m ∈ fresh p) :
    t'.parent? m = some p :=
  h.rooted.linked.mem_children.mp (by rw [h.children p hp]; simp [hm])

theorem connected_fresh (h : t.Grown fresh t') (ht : t.Rooted) (hp : t.Connected p)
    (hm : m ∈ fresh p) : t'.Connected m :=
  (h.connected ht hp).child (h.parent?_fresh (ht.lt_size_of_connected hp) hm)

theorem nodup_fresh (h : t.Grown fresh t') (hp : p < t.size) : (fresh p).Nodup := by
  have hnodup := h.rooted.linked.nodup_children (p := p)
  rw [h.children p hp] at hnodup
  exact (List.nodup_append.mp hnodup).2.1

/-- No new node is appended in two places. -/
theorem nodup_flatMap (h : t.Grown fresh t') (hl : l.Nodup) (hlt : ∀ p ∈ l, p < t.size) :
    (l.flatMap fresh).Nodup := by
  rw [List.nodup_flatMap]
  refine ⟨fun p hp => h.nodup_fresh (hlt p hp), ?_⟩
  refine List.Pairwise.imp_of_mem ?_ hl
  intro p q hp hq hne m hmp hmq
  have hparent := (h.parent?_fresh (hlt p hp) hmp).symm.trans (h.parent?_fresh (hlt q hq) hmq)
  exact hne (Option.some.inj hparent)

theorem prevSiblings (h : t.Grown fresh t') (ht : t.Rooted) (hx : t.parent? x = some p) :
    t'.prevSiblings x = t.prevSiblings x := by
  have hlt := ht.linked.lt_of_parent? hx
  obtain ⟨u, v, hk, hprev⟩ := ht.linked.exists_siblings hx
  have hk' : t'.children p = u ++ x :: (v ++ fresh p) := by
    rw [h.children p hlt.2, hk, List.append_assoc, List.cons_append]
  rw [hprev, LinkedBy.prevSiblings_eq h.rooted.linked hk']

theorem held (h : t.Grown fresh t') (ht : t.Linked) (hx : x < t.size) (hnone : fresh x = []) :
    t'.held x = t.held x := by
  rw [Tree.held, Tree.held, h.children x hx, hnone, List.append_nil]
  exact List.map_congr_left fun k hk => h.data k (ht.lt_of_mem_children hk).1

/-- The element children of an old node, with the new ones behind them. -/
theorem elementChildren (h : t.Grown fresh t') (ht : t.Rooted) (hp : p < t.size) :
    t'.elementChildren p = t.elementChildren p ++ (fresh p).filter t'.isElement := by
  rw [Tree.elementChildren, Tree.elementChildren, h.children p hp, List.filter_append]
  congr 1
  refine List.filter_congr fun k hk => ?_
  exact isElement_eq (h.data k (ht.linked.lt_of_mem_children hk).1)

end Grown

/-! ## Leaves -/

/-- An element whose children, if any, are no elements and have no children. -/
structure Leaf (t : Tree) (m : NodeId) (e : Element) : Prop where
  data : t.data? m = some (.element e)
  childless : ∀ k ∈ t.children m, t.isElement k = false ∧ t.children k = []

namespace Leaf

theorem lt_size (h : t.Leaf m e) : m < t.size :=
  data?_isSome_iff.mp (by rw [h.data]; rfl)

theorem element? (h : t.Leaf m e) : t.element? m = some e := by
  rw [element?_eq, h.data]
  rfl

theorem isElement (h : t.Leaf m e) : t.isElement m = true := by
  rw [Tree.isElement, h.element?]
  rfl

theorem elementChildren (h : t.Leaf m e) : t.elementChildren m = [] := by
  rw [Tree.elementChildren, List.filter_eq_nil_iff]
  intro k hk
  simp [(h.childless k hk).1]

/-- A leaf stays one as long as new nodes go below elements other than itself. -/
theorem grown (h : t.Leaf m e) (ht : t.Rooted) (hg : t.Grown fresh t') (hm : fresh m = [])
    (hfresh : ∀ p, t.isElement p = false → fresh p = []) : t'.Leaf m e where
  data := (hg.data m h.lt_size).trans h.data
  childless := by
    intro k hk
    rw [hg.children m h.lt_size, hm, List.append_nil] at hk
    have hlt := (ht.linked.lt_of_mem_children hk).1
    obtain ⟨hnot, hbare⟩ := h.childless k hk
    refine ⟨(isElement_eq (hg.data k hlt)).trans hnot, ?_⟩
    rw [hg.children k hlt, hbare, hfresh k hnot]
    rfl

theorem intact (h : t.Leaf m e) (ht : t.Rooted) (hi : t.Intact t') (ht' : t'.Rooted) :
    t'.Leaf m e :=
  h.grown ht (hi.grown ht') rfl fun _ _ => rfl

end Leaf

/-! ## Appending new nodes -/

/-- Detached nodes go behind the children of a node, and nothing else changes. -/
theorem Rooted.appendAll (ht : t.Rooted) (hp : p < t.size) (hnodup : l.Nodup)
    (hl : ∀ m ∈ l, m ≠ root ∧ m < t.size ∧ t.parent? m = none) :
    (t.appendAll p l).Rooted ∧ (t.appendAll p l).size = t.size ∧
      (∀ x, (t.appendAll p l).data? x = t.data? x) ∧
      (∀ x, x ∉ l → (t.appendAll p l).parent? x = t.parent? x) ∧
      ∀ x, (t.appendAll p l).children x = t.children x ++ if x = p then l else [] := by
  induction l generalizing t with
  | nil =>
    refine ⟨ht, rfl, fun _ => rfl, fun _ _ => rfl, fun x => ?_⟩
    rw [ite_self, List.append_nil]
    rfl
  | cons m l ih =>
    obtain ⟨hroot, hm, hfree⟩ := hl m (by simp)
    obtain ⟨hnot, hnodup⟩ := List.nodup_cons.mp hnodup
    have hparents : ∀ x, x ≠ m → (t.append p m).parent? x = t.parent? x := fun x hx => by
      rw [ht.linked.parent?_append hp hm, if_neg hx]
    have hrest : ∀ x ∈ l, x ≠ root ∧ x < (t.append p m).size ∧
        (t.append p m).parent? x = none := by
      intro x hx
      rw [size_append, hparents x (ne_of_mem_of_not_mem hx hnot)]
      exact hl x (by simp [hx])
    obtain ⟨hrooted, hsize, hdata, hparent, hchildren⟩ :=
      ih (ht.append hroot) (by rw [size_append]; exact hp) hnodup hrest
    refine ⟨hrooted, hsize.trans size_append, fun x => (hdata x).trans data?_append, ?_, ?_⟩
    · intro x hx
      rw [List.mem_cons, not_or] at hx
      exact (hparent x hx.2).trans (hparents x hx.1)
    · intro x
      refine (hchildren x).trans ?_
      rw [ht.linked.children_append_of_free hp hm hfree]
      by_cases hx : x = p <;> simp [hx]

/-- Detached nodes that are new since the first tree go behind the children of an old one. -/
theorem Intact.grown_appendAll (hi : t.Intact t1) (ht1 : t1.Rooted) (hp : p < t.size)
    (hnodup : l.Nodup) (hl : ∀ m ∈ l, t.size ≤ m ∧ m < t1.size ∧ t1.parent? m = none) :
    t.Grown (fun x => if x = p then l else []) (t1.appendAll p l) := by
  have hfree : ∀ m ∈ l, m ≠ root ∧ m < t1.size ∧ t1.parent? m = none := by
    intro m hm
    refine ⟨?_, (hl m hm).2⟩
    rintro rfl
    exact Nat.not_lt_of_le (hl root hm).1 (Nat.lt_of_le_of_lt (Nat.zero_le p) hp)
  obtain ⟨hrooted, hsize, hdata, hparent, hchildren⟩ :=
    ht1.appendAll (Nat.lt_of_lt_of_le hp hi.size_le) hnodup hfree
  refine ⟨hrooted, by rw [hsize]; exact hi.size_le, ?_, ?_, ?_, ?_⟩
  · intro x hx
    rw [hdata, hi.data x hx]
  · intro x hx
    rw [hparent x fun hmem => Nat.not_lt_of_le (hl x hmem).1 hx, hi.parent x hx]
  · intro x hx
    rw [hchildren, hi.children x hx]
  · intro q m hm
    by_cases hq : q = p
    · rw [if_pos hq] at hm
      exact (hl m hm).1
    · simp [hq] at hm

end Topiary.Tree
