import Topiary.Proofs.Tree.Children

/-!
Copying. A copy of a node stands at the end of the store, has no parent, and leaves alone every node
that was there before.
-/

namespace Topiary.Tree

variable {t : Tree} {p c x : NodeId}

/-- Nothing has happened to the nodes of the first tree. -/
structure Intact (t t' : Tree) : Prop where
  size_le : t.size ≤ t'.size
  data : ∀ x < t.size, t'.data? x = t.data? x
  parent : ∀ x < t.size, t'.parent? x = t.parent? x
  children : ∀ x < t.size, t'.children x = t.children x

namespace Intact

theorem refl (t : Tree) : t.Intact t :=
  ⟨Nat.le_refl _, fun _ _ => rfl, fun _ _ => rfl, fun _ _ => rfl⟩

theorem trans {t1 t2 t3 : Tree} (h : t1.Intact t2) (h' : t2.Intact t3) : t1.Intact t3 where
  size_le := Nat.le_trans h.size_le h'.size_le
  data x hx := (h'.data x (Nat.lt_of_lt_of_le hx h.size_le)).trans (h.data x hx)
  parent x hx := (h'.parent x (Nat.lt_of_lt_of_le hx h.size_le)).trans (h.parent x hx)
  children x hx := (h'.children x (Nat.lt_of_lt_of_le hx h.size_le)).trans (h.children x hx)

theorem push (h : t.Linked) (data : NodeData) : t.Intact (t.push data).1 where
  size_le := by simp
  data x hx := by rw [data?_push, if_neg (Nat.ne_of_lt hx)]
  parent _ _ := parent?_push data
  children _ _ := h.children_push data

/-- Hanging new nodes below new nodes changes nothing about the old ones. -/
theorem append {t1 : Tree} (h : t.Intact t1) (hl : t1.Linked) (hp : t.size ≤ p)
    (hc : t.size ≤ c) (hfree : t1.parent? c = none) : t.Intact (t1.append p c) := by
  by_cases hlt : p < t1.size ∧ c < t1.size
  · constructor
    · simpa using h.size_le
    · intro x hx
      rw [data?_append, h.data x hx]
    · intro x hx
      have hxc : x ≠ c := Nat.ne_of_lt (Nat.lt_of_lt_of_le hx hc)
      rw [hl.parent?_append hlt.1 hlt.2, if_neg hxc, h.parent x hx]
    · intro x hx
      have hxp : x ≠ p := Nat.ne_of_lt (Nat.lt_of_lt_of_le hx hp)
      rw [hl.children_append_of_free hlt.1 hlt.2 hfree, if_neg hxp, h.children x hx]
  · rw [Tree.append, if_pos (by grind)]
    exact h

end Intact

/-- Copy a child and hang the copy below `copy`. -/
def cloneChild (depth : Nat) (copy : NodeId) (t : Tree) (child : NodeId) : Tree :=
  match cloneWithin depth t child with
  | (t, some childCopy) => t.append copy childCopy
  | (t, none) => t

theorem cloneWithin_succ {node : Node} (depth : Nat) (h : t.get? c = some node) :
    cloneWithin (depth + 1) t c =
      (((t.push node.data).1.children c).foldl (cloneChild depth t.size) (t.push node.data).1,
        some t.size) := by
  rw [cloneWithin, h]
  rfl

/-- The second tree is the first with a detached copy of `c` at its end. -/
structure Copied (t : Tree) (c : NodeId) (t' : Tree) : Prop where
  linked : t'.Linked
  intact : t.Intact t'
  lt : t.size < t'.size
  parent : t'.parent? t.size = none
  data : t'.data? t.size = t.data? c

theorem Copied.push (h : t.Linked) {node : Node} (hc : t.get? c = some node) :
    t.Copied c (t.push node.data).1 where
  linked := h.push _
  intact := .push h _
  lt := by simp
  parent := by
    rw [parent?_push, parent?, get?_eq_none_iff.mpr (Nat.le_refl _)]
    rfl
  data := by rw [data?_push, if_pos rfl, data?, hc, Option.map_some]

/-- One more child of a copy: the step that the induction over the children repeats. -/
theorem Copied.append {t1 t2 : Tree} {child : NodeId} (h : t.Copied c t1)
    (hchild : t1.Copied child t2) : t.Copied c (t2.append t.size t1.size) ∧
      (t2.append t.size t1.size).children t.size = t1.children t.size ++ [t1.size] := by
  have hlt : t.size < t2.size := Nat.lt_trans h.lt hchild.lt
  have hne : t.size ≠ t1.size := Nat.ne_of_lt h.lt
  constructor
  · constructor
    · exact hchild.linked.append
    · exact (h.intact.trans hchild.intact).append hchild.linked (Nat.le_refl _)
        (Nat.le_of_lt h.lt) hchild.parent
    · simpa using hlt
    · rw [hchild.linked.parent?_append hlt hchild.lt, if_neg hne,
        hchild.intact.parent _ h.lt, h.parent]
    · rw [data?_append, hchild.intact.data _ h.lt, h.data]
  · rw [hchild.linked.children_append_of_free hlt hchild.lt hchild.parent, if_pos rfl,
      hchild.intact.children _ h.lt]

theorem copied_foldl (depth : Nat)
    (ih : ∀ {t : Tree} {c : NodeId}, t.Linked → c < t.size →
      ∃ t', cloneWithin depth t c = (t', some t.size) ∧ t.Copied c t' ∧
        (t.children c = [] → t'.children t.size = []))
    {t1 : Tree} (h : t.Copied c t1) (l : List NodeId) (hl : ∀ x ∈ l, x < t.size) :
    t.Copied c (l.foldl (cloneChild depth t.size) t1) ∧
      ((l.foldl (cloneChild depth t.size) t1).children t.size).map
          (l.foldl (cloneChild depth t.size) t1).data? =
        (t1.children t.size).map t1.data? ++ l.map t.data? ∧
      ((∀ x ∈ l, t.children x = []) → (∀ k ∈ t1.children t.size, t1.children k = []) →
        ∀ k ∈ (l.foldl (cloneChild depth t.size) t1).children t.size,
          (l.foldl (cloneChild depth t.size) t1).children k = []) := by
  induction l generalizing t1 with
  | nil => exact ⟨h, by simp, fun _ hkids => hkids⟩
  | cons child l ihl =>
    have hchild : child < t.size := hl child (by simp)
    obtain ⟨t2, ht2, hcopy, hbare⟩ := ih h.linked (Nat.lt_of_lt_of_le hchild h.intact.size_le)
    have hstep : cloneChild depth t.size t1 child = t2.append t.size t1.size := by
      rw [cloneChild, ht2]
    obtain ⟨hcopied, hkids⟩ := h.append hcopy
    obtain ⟨hc, hdata, hall⟩ := ihl hcopied fun x hx => hl x (by simp [hx])
    rw [List.foldl_cons, hstep]
    refine ⟨hc, ?_, fun hl' hkids' => hall (fun x hx => hl' x (by simp [hx])) fun k hk => ?_⟩
    · rw [hdata, hkids]
      have hold : (t1.children t.size).map (t2.append t.size t1.size).data? =
          (t1.children t.size).map t1.data? := by
        apply List.map_congr_left
        intro x hx
        rw [data?_append, hcopy.intact.data x (h.linked.lt_of_mem_children hx).1]
      rw [List.map_append, hold, List.map_singleton, data?_append, hcopy.data,
        h.intact.data child hchild]
      simp
    · have hne : k ≠ t.size := by
        rintro rfl
        rw [hcopied.linked.mem_children, hcopied.parent] at hk
        simp at hk
      rw [hcopy.linked.children_append_of_free (Nat.lt_trans h.lt hcopy.lt) hcopy.lt hcopy.parent,
        if_neg hne]
      rw [hkids] at hk
      rcases List.mem_append.mp hk with hk | hk
      · rw [hcopy.intact.children k (h.linked.lt_of_mem_children hk).1]
        exact hkids' k hk
      · rw [List.mem_singleton.mp hk]
        exact hbare (by rw [h.intact.children child hchild]; exact hl' child (by simp))

theorem copied_cloneWithin (depth : Nat) (h : t.Linked) (hc : c < t.size) :
    ∃ t', cloneWithin depth t c = (t', some t.size) ∧ t.Copied c t' ∧
      (t.children c = [] → t'.children t.size = []) ∧
      (depth ≠ 0 → (t'.children t.size).map t'.data? = (t.children c).map t.data? ∧
        ((∀ k ∈ t.children c, t.children k = []) →
          ∀ k ∈ t'.children t.size, t'.children k = [])) := by
  induction depth generalizing t c with
  | zero =>
    obtain ⟨node, hnode⟩ := exists_get? hc
    refine ⟨_, by rw [cloneWithin, hnode]; rfl, .push h hnode, fun _ => ?_, fun hne =>
      absurd rfl hne⟩
    rw [h.children_push, h.children_eq_nil (Nat.le_refl _)]
  | succ depth ih =>
    obtain ⟨node, hnode⟩ := exists_get? hc
    refine ⟨_, cloneWithin_succ depth hnode, ?_⟩
    have hfold := copied_foldl depth
      (fun h hc => by
        obtain ⟨t', ht', hcopied, hbare, -⟩ := ih h hc
        exact ⟨t', ht', hcopied, hbare⟩)
      (Copied.push h hnode) ((t.push node.data).1.children c) (by
        intro x hx
        rw [h.children_push] at hx
        exact (h.lt_of_mem_children hx).1)
    obtain ⟨hcopied, hdata, hkids⟩ := hfold
    refine ⟨hcopied, fun hbare => ?_, fun _ => ⟨?_, fun hbare => hkids ?_ ?_⟩⟩
    · rw [h.children_push, hbare]
      exact (h.children_push _).trans (h.children_eq_nil (Nat.le_refl _))
    · rw [hdata, h.children_push, h.children_push, h.children_eq_nil (Nat.le_refl _)]
      simp
    · rw [h.children_push]
      exact hbare
    · rw [h.children_push, h.children_eq_nil (Nat.le_refl _)]
      simp

/-- Copying a node in full: the copy has its contents, and so do the children, which have children
only if those of the node do. -/
theorem copied_cloneDeep (h : t.Linked) (hc : c < t.size) :
    ∃ t', t.cloneDeep c = (t', some t.size) ∧ t.Copied c t' ∧
      (t'.children t.size).map t'.data? = (t.children c).map t.data? ∧
      ((∀ k ∈ t.children c, t.children k = []) →
        ∀ k ∈ t'.children t.size, t'.children k = []) := by
  obtain ⟨t', ht', hcopied, -, hkids⟩ := copied_cloneWithin t.size h hc
  exact ⟨t', ht', hcopied, hkids (Nat.ne_of_gt (Nat.lt_of_le_of_lt (Nat.zero_le c) hc))⟩

end Topiary.Tree
