import Topiary.Proofs.Tree.Links

/-!
The children of a node as a list. In a linked tree the walk along the sibling links yields the list
that the links write down, and what an operation does to the tree is what it does to these lists, to
the parents and to the contents of the nodes.
-/

namespace Topiary.Tree

variable {t : Tree} {kids : NodeId → List NodeId} {p q c x : NodeId}

/-- What a node is, apart from its relatives. -/
def data? (t : Tree) (id : NodeId) : Option NodeData :=
  (t.get? id).map Node.data

/-- All five links of every node agree with one another. -/
def Linked (t : Tree) : Prop :=
  t.LinkedBy t.children

/-! ## Walks along the links -/

theorem follow_eq (link : Node → Option NodeId) {l : List NodeId} {start : Option NodeId}
    {count : Nat} (hl : l.length ≤ count) (hstart : start = l.head?)
    (hmem : ∀ u y v, l = u ++ y :: v → y < t.size ∧ (t.get? y).bind link = v.head?) :
    t.follow link count start = l := by
  induction l generalizing start count with
  | nil => cases count <;> simp [follow, hstart]
  | cons y l ih =>
    obtain ⟨hy, hlink⟩ := hmem [] y l rfl
    obtain ⟨node, hnode⟩ := exists_get? hy
    cases count with
    | zero => simp at hl
    | succ count =>
      rw [hstart, List.head?_cons, follow, hnode]
      simp only [List.cons.injEq, true_and]
      rw [hnode, Option.bind_some] at hlink
      apply ih (by simpa using hl) hlink
      intro u z v hz
      exact hmem (y :: u) z v (by rw [hz, List.cons_append])

theorem length_le_size {l : List NodeId} (hnodup : l.Nodup) (hl : ∀ y ∈ l, y < t.size) :
    l.length ≤ t.size := by
  have hsub : l ⊆ List.range t.size := fun y hy => List.mem_range.mpr (hl y hy)
  simpa using hnodup.length_le_of_subset hsub

namespace LinkedBy

theorem children_eq (h : t.LinkedBy kids) : t.children = kids := by
  funext p
  refine follow_eq _ (length_le_size (h.nodup p) fun y hy => h.lt_of_mem hy) (h.first p) ?_
  intro u y v hk
  exact ⟨h.lt_of_mem (p := p) (by simp [hk]), h.next p u y v hk⟩

theorem linked (h : t.LinkedBy kids) : t.Linked := by
  rw [Linked, h.children_eq]
  exact h

theorem prevSiblings_eq (h : t.LinkedBy kids) {l r : List NodeId} (hk : kids p = l ++ c :: r) :
    t.prevSiblings c = l.reverse := by
  have hnodup : l.Nodup := (List.nodup_append.mp (hk ▸ h.nodup p)).1
  have hlt : ∀ y ∈ l, y < t.size := fun y hy => h.lt_of_mem (p := p) (by simp [hk, hy])
  refine follow_eq _ (by simpa using length_le_size hnodup hlt) ?_ ?_
  · rw [h.prev p l c r hk, List.head?_reverse]
  · intro u y v hl
    have hl' : l = v.reverse ++ y :: u.reverse := by
      rw [← List.reverse_reverse l, hl]
      simp
    refine ⟨hlt y (by simp [hl']), ?_⟩
    rw [← List.getLast?_reverse]
    exact h.prev p v.reverse y (u.reverse ++ c :: r) (by simp [hk, hl'])

end LinkedBy

/-! ## What the links say -/

namespace Linked

theorem mem_children (h : t.Linked) : c ∈ t.children p ↔ t.parent? c = some p :=
  (h.parent p c).symm

theorem nodup_children (h : t.Linked) : (t.children p).Nodup :=
  h.nodup p

theorem lt_of_mem_children (h : t.Linked) (hc : c ∈ t.children p) : c < t.size ∧ p < t.size :=
  ⟨h.lt_of_mem hc, h.lt_of_mem_kids hc⟩

theorem lt_of_parent? (h : t.Linked) (hc : t.parent? c = some p) : c < t.size ∧ p < t.size :=
  h.lt_of_mem_children (h.mem_children.mpr hc)

theorem children_eq_nil (h : t.Linked) (hp : t.size ≤ p) : t.children p = [] := by
  cases hk : t.children p with
  | nil => rfl
  | cons first rest =>
    have := (h.lt_of_mem_children (c := first) (p := p) (by simp [hk])).2
    exact absurd this (Nat.not_lt.mpr hp)

/-- A node with a parent splits the children of its parent into the siblings before and behind. -/
theorem exists_siblings (h : t.Linked) (hc : t.parent? c = some p) :
    ∃ l r, t.children p = l ++ c :: r ∧ t.prevSiblings c = l.reverse := by
  obtain ⟨l, r, hk, -, -⟩ := LinkedBy.exists_split h hc
  exact ⟨l, r, hk, LinkedBy.prevSiblings_eq h hk⟩

end Linked

/-! ## Contents -/

theorem data?_modify (f : Node → Node) (hf : ∀ n, (f n).data = n.data) :
    (t.modify c f).data? x = t.data? x := by
  rw [data?, data?, get?_modify]
  by_cases hx : x = c
  · cases t.get? x <;> simp [hx, hf]
  · simp [hx]

@[simp] theorem data?_detach : (t.detach c).data? x = t.data? x := by
  rw [detach]
  repeat' split
  all_goals simp [data?_modify]

@[simp] theorem data?_append : (t.append p c).data? x = t.data? x := by
  rw [append]
  split
  · rfl
  · cases hlast : (t.detach c).lastChild? p <;> simp [hlast, data?_modify]

theorem data?_push (data : NodeData) :
    (t.push data).1.data? x = if x = t.size then some data else t.data? x := by
  rw [data?, get?_push]
  by_cases hx : x = t.size <;> simp [hx, data?, Node.ofData]

/-- The element that a node's contents make up. -/
def elementOf : NodeData → Option Element
  | .element e => some e
  | _ => none

theorem element?_eq : t.element? x = (t.data? x).bind elementOf := by
  rw [element?, data?]
  cases t.get? x with
  | none => rfl
  | some node =>
    rw [Option.bind_some, Option.map_some, Option.bind_some, Node.element?]
    cases node.data <;> rfl

theorem data?_isSome_iff : (t.data? x).isSome ↔ x < t.size := by
  rw [← get?_isSome_iff, data?, Option.isSome_map]

theorem lt_size_of_element? {e : Element} (h : t.element? x = some e) : x < t.size := by
  rw [← data?_isSome_iff]
  rw [element?_eq] at h
  cases hx : t.data? x with
  | none => simp [hx] at h
  | some data => rfl

/-! ## Operations -/

namespace Linked

theorem detach (h : t.Linked) : (t.detach c).Linked :=
  (LinkedBy.detach h).linked

theorem children_detach (h : t.Linked) : (t.detach c).children p = (t.children p).erase c :=
  congrFun (LinkedBy.detach h).children_eq p

theorem append (h : t.Linked) : (t.append p c).Linked := by
  by_cases hlt : p < t.size ∧ c < t.size
  · exact (LinkedBy.append h hlt.1 hlt.2).linked
  · rw [Tree.append, if_pos (by grind)]
    exact h

theorem children_append (h : t.Linked) (hp : p < t.size) (hc : c < t.size) :
    (t.append p c).children q =
      if q = p then (t.children q).erase c ++ [c] else (t.children q).erase c :=
  congrFun (LinkedBy.append h hp hc).children_eq q

/-- Appending a node that has no parent changes one list only. -/
theorem children_append_of_free (h : t.Linked) (hp : p < t.size) (hc : c < t.size)
    (hfree : t.parent? c = none) :
    (t.append p c).children q = if q = p then t.children q ++ [c] else t.children q := by
  have herase : (t.children q).erase c = t.children q := by
    apply List.erase_of_not_mem
    intro hmem
    simp [h.mem_children.mp hmem] at hfree
  rw [h.children_append hp hc, herase]

theorem parent?_append (h : t.Linked) (hp : p < t.size) (hc : c < t.size) :
    (t.append p c).parent? x = if x = c then some p else t.parent? x :=
  LinkedBy.parent?_append h hp hc

theorem push (h : t.Linked) (data : NodeData) : (t.push data).1.Linked :=
  (LinkedBy.push h data).linked

theorem children_push (h : t.Linked) (data : NodeData) :
    (t.push data).1.children p = t.children p :=
  congrFun (LinkedBy.push h data).children_eq p

theorem modify (h : t.Linked) {f : Node → Node} (hf : KeepsLinks f) : (t.modify c f).Linked :=
  (LinkedBy.modify h hf).linked

theorem children_modify (h : t.Linked) {f : Node → Node} (hf : KeepsLinks f) :
    (t.modify c f).children p = t.children p :=
  congrFun (LinkedBy.modify h hf).children_eq p

end Linked

theorem parent?_push (data : NodeData) : (t.push data).1.parent? x = t.parent? x := by
  rw [parent?, get?_push]
  by_cases hx : x = t.size
  · rw [parent?, hx, get?_eq_none_iff.mpr (Nat.le_refl t.size)]
    simp [Node.ofData]
  · simp [hx, parent?]

theorem linked_empty : Tree.empty.Linked :=
  linkedBy_empty.linked

end Topiary.Tree
