import Topiary.Proofs.Tree.Traversal

/-!
Finite subtrees. The subtree of a node is finite if its preorder comes to an end. No node is then
below itself, so the subtree has no more levels than the tree has nodes, and recursions that go down
as many levels see all of it.
-/

namespace Topiary.Tree

variable {t t' : Tree} {x y k : NodeId} {xs l l' : List NodeId} {levels : Nat}

theorem lt_size_of_mem_follow {link : Node → Option NodeId} {count : Nat}
    {start : Option NodeId} (h : y ∈ t.follow link count start) : y < t.size := by
  induction count generalizing start with
  | zero => simp [follow] at h
  | succ count ih =>
    cases start with
    | none => simp [follow] at h
    | some x =>
      rw [follow] at h
      split at h
      · simp at h
      · rename_i node hnode
        rcases List.mem_cons.mp h with rfl | h
        · exact lt_size_of_get? hnode
        · exact ih h

/-- Whatever the links say, children are nodes of the tree. -/
theorem lt_size_of_mem_children (h : k ∈ t.children x) : k < t.size :=
  lt_size_of_mem_follow h

namespace Preorder

theorem unique (h : t.Preorder xs l) (h' : t.Preorder xs l') : l = l' := by
  induction h generalizing l' with
  | nil =>
    cases h'
    rfl
  | cons _ _ ihbelow ihbehind =>
    cases h' with
    | cons hbelow hbehind => rw [ihbelow hbelow, ihbehind hbehind]

/-- The subtree of a node in a finite forest is finite and no larger. -/
theorem exists_of_mem (h : t.Preorder xs l) (hx : x ∈ xs) :
    ∃ m, t.Preorder [x] m ∧ m.length ≤ l.length := by
  induction h with
  | nil => simp at hx
  | @cons y rest below behind hbelow _ _ ih =>
    rcases List.mem_cons.mp hx with rfl | hx
    · refine ⟨_, hbelow.single, ?_⟩
      simp only [List.length_cons, List.length_append]
      omega
    · obtain ⟨m, hm, hlength⟩ := ih hx
      refine ⟨m, hm, ?_⟩
      simp only [List.length_cons, List.length_append]
      omega

/-- The subtree of a child is finite and smaller. -/
theorem exists_of_child (h : t.Preorder [x] l) (hk : k ∈ t.children x) :
    ∃ m, t.Preorder [k] m ∧ m.length < l.length := by
  cases h with
  | cons hbelow _ =>
    obtain ⟨m, hm, hlength⟩ := hbelow.exists_of_mem hk
    refine ⟨m, hm, ?_⟩
    simp only [List.length_cons, List.length_append]
    omega

end Preorder

/-! ## Levels -/

/-- The subtree of a node ends within so many levels, that of the node itself included. -/
def Fits (t : Tree) : (levels : Nat) → NodeId → Prop
  | 0, _ => False
  | levels + 1, x => ∀ k ∈ t.children x, t.Fits levels k

theorem Fits.succ (h : t.Fits levels x) : t.Fits (levels + 1) x := by
  induction levels generalizing x with
  | zero => exact h.elim
  | succ levels ih => exact fun k hk => ih (h k hk)

theorem Fits.children_eq_nil (h : t.Fits 1 x) : t.children x = [] :=
  List.eq_nil_iff_forall_not_mem.mpr fun k hk => (h k hk).elim

theorem Fits.exists_succ (h : t.Fits levels x) :
    ∃ n, levels = n + 1 ∧ ∀ k ∈ t.children x, t.Fits n k := by
  cases levels with
  | zero => exact h.elim
  | succ n => exact ⟨n, rfl, h⟩

/-- A node is none of those whose subtrees are larger than its own. -/
theorem Preorder.nodup_above (h : t.Preorder [x] l) {above : List NodeId} (hnodup : above.Nodup)
    (habove : ∀ a ∈ above, a < t.size ∧ ∃ m, t.Preorder [a] m ∧ l.length < m.length) :
    (x :: above).Nodup := by
  refine List.nodup_cons.mpr ⟨fun hmem => ?_, hnodup⟩
  obtain ⟨-, m, hm, hlength⟩ := habove x hmem
  rw [hm.unique h] at hlength
  exact Nat.lt_irrefl _ hlength

/-- On the way down through a finite subtree no node is met again, so the way ends before the nodes
of the tree are used up. -/
theorem Preorder.fits_of_above (h : t.Preorder [x] l) (hx : x < t.size) {above : List NodeId}
    (hnodup : above.Nodup)
    (habove : ∀ a ∈ above, a < t.size ∧ ∃ m, t.Preorder [a] m ∧ l.length < m.length)
    (hlevels : t.size ≤ levels + above.length) : t.Fits levels x := by
  have hnodup' := h.nodup_above hnodup habove
  induction levels generalizing x l above with
  | zero =>
    have hlt : ∀ a ∈ x :: above, a < t.size := by
      intro a ha
      rcases List.mem_cons.mp ha with rfl | ha
      · exact hx
      · exact (habove a ha).1
    have hlength := length_le_size hnodup' hlt
    rw [List.length_cons] at hlength
    omega
  | succ levels ih =>
    intro k hk
    obtain ⟨m, hm, hlength⟩ := h.exists_of_child hk
    have habove' : ∀ a ∈ x :: above, a < t.size ∧
        ∃ n, t.Preorder [a] n ∧ m.length < n.length := by
      intro a ha
      rcases List.mem_cons.mp ha with rfl | ha
      · exact ⟨hx, l, h, hlength⟩
      · obtain ⟨hat, n, hn, hln⟩ := habove a ha
        exact ⟨hat, n, hn, Nat.lt_trans hlength hln⟩
    refine ih hm (lt_size_of_mem_children hk) hnodup' habove' ?_ (hm.nodup_above hnodup' habove')
    rw [List.length_cons]
    omega

/-- A finite subtree has no more levels than the tree has nodes. -/
theorem Preorder.fits (h : t.Preorder [x] l) (hx : x < t.size) : t.Fits t.size x :=
  h.fits_of_above hx List.nodup_nil (by simp) (Nat.le_refl _)

/-- A subtree that ends within the levels that are taken is taken in preorder. -/
theorem Fits.preorder (h : t.Fits (levels + 1) x) : t.Preorder [x] (t.preorder levels x) := by
  induction levels generalizing x with
  | zero =>
    refine Preorder.single ?_
    rw [h.children_eq_nil]
    exact .nil
  | succ levels ih => exact Preorder.single (Preorder.flatMap fun k hk => ih (h k hk))

end Topiary.Tree
