import Topiary.Proofs.Tree.Mutation

/-!
Lines of descent. A node is connected if its parents lead up to the document node; they then do so
in one way only, none of them twice, and the bounded walks of the library see all of them.
-/

namespace Topiary.Tree

variable {t : Tree} {p c x y : NodeId} {l l' : List NodeId}

/-- The parents of a node, the nearest first, up to the document node. -/
inductive Lineage (t : Tree) : NodeId → List NodeId → Prop where
  | root : Lineage t root []
  | child {c p : NodeId} {l : List NodeId} : t.parent? c = some p → Lineage t p l →
      Lineage t c (p :: l)

/-- The node hangs off the document node. -/
def Connected (t : Tree) (x : NodeId) : Prop :=
  ∃ l, t.Lineage x l

theorem connected_root : t.Connected root :=
  ⟨[], .root⟩

theorem Connected.child (h : t.Connected p) (hc : t.parent? c = some p) : t.Connected c := by
  obtain ⟨l, hl⟩ := h
  exact ⟨p :: l, .child hc hl⟩

namespace Lineage

theorem unique (ht : t.Rooted) (h : t.Lineage x l) (h' : t.Lineage x l') : l = l' := by
  induction h generalizing l' with
  | root =>
    cases h' with
    | root => rfl
    | child hp _ => simp [ht.parent] at hp
  | child hp _ ih =>
    cases h' with
    | root => simp [ht.parent] at hp
    | child hp' hl' =>
      obtain rfl := Option.some.inj (hp.symm.trans hp')
      rw [ih hl']

/-- Every parent on the way has the rest of the way as its own. -/
theorem of_mem (h : t.Lineage x l) (hy : y ∈ l) : ∃ u v, l = u ++ y :: v ∧ t.Lineage y v := by
  induction h with
  | root => simp at hy
  | child hp hl ih =>
    rcases List.mem_cons.mp hy with rfl | hy
    · exact ⟨[], _, rfl, hl⟩
    · obtain ⟨u, v, rfl, hv⟩ := ih hy
      exact ⟨_ :: u, v, rfl, hv⟩

theorem connected_of_mem (h : t.Lineage x l) (hy : y ∈ l) : t.Connected y := by
  obtain ⟨-, v, -, hv⟩ := h.of_mem hy
  exact ⟨v, hv⟩

theorem nodup (ht : t.Rooted) (h : t.Lineage x l) : (x :: l).Nodup := by
  induction h with
  | root => simp
  | @child c p l hp hl ih =>
    refine List.nodup_cons.mpr ⟨fun hmem => ?_, ih⟩
    obtain ⟨u, v, huv, hv⟩ := (Lineage.child hp hl).of_mem hmem
    have hsame := (Lineage.child hp hl).unique ht hv
    rw [hsame] at huv
    have := congrArg List.length huv
    simp only [List.length_append, List.length_cons] at this
    omega

theorem lt_size (ht : t.Rooted) (h : t.Lineage x l) : x < t.size := by
  cases h with
  | root => exact ht.size_pos
  | child hp _ => exact (ht.linked.lt_of_parent? hp).1

theorem length_lt (ht : t.Rooted) (h : t.Lineage x l) : l.length < t.size := by
  have hle : (x :: l).length ≤ t.size := by
    apply length_le_size (h.nodup ht)
    intro y hy
    rcases List.mem_cons.mp hy with rfl | hy
    · exact h.lt_size ht
    · obtain ⟨-, v, -, hv⟩ := h.of_mem hy
      exact hv.lt_size ht
  exact hle

theorem head?_eq (ht : t.Rooted) (h : t.Lineage x l) : t.parent? x = l.head? := by
  cases h with
  | root => exact ht.parent
  | child hp _ => exact hp

theorem parent?_of_split (ht : t.Rooted) (h : t.Lineage x l) :
    ∀ u y v, l = u ++ y :: v → y < t.size ∧ t.parent? y = v.head? := by
  induction h with
  | root => simp
  | child hp hl ih =>
    intro u y v huv
    cases u with
    | nil =>
      obtain ⟨rfl, rfl⟩ := List.cons.inj huv
      exact ⟨hl.lt_size ht, hl.head?_eq ht⟩
    | cons first u => exact ih u y v (List.cons.inj huv).2

/-- The bounded walk along the parents sees the whole line. -/
theorem ancestors_eq (ht : t.Rooted) (h : t.Lineage x l) : t.ancestors x = l :=
  follow_eq _ (Nat.le_of_lt (h.length_lt ht)) (h.head?_eq ht) (h.parent?_of_split ht)

end Lineage

namespace Rooted

theorem ne_root_of_parent? (h : t.Rooted) (hc : t.parent? c = some p) : c ≠ root := by
  rintro rfl
  simp [h.parent] at hc

theorem connected_iff (h : t.Rooted) (hc : t.parent? c = some p) :
    t.Connected c ↔ t.Connected p := by
  constructor
  · rintro ⟨l, hl⟩
    cases hl with
    | root => simp [h.parent] at hc
    | child hp hl =>
      obtain rfl := Option.some.inj (hc.symm.trans hp)
      exact ⟨_, hl⟩
  · exact fun hp => hp.child hc

theorem lineage_ancestors (h : t.Rooted) (hx : t.Connected x) : t.Lineage x (t.ancestors x) := by
  obtain ⟨l, hl⟩ := hx
  rw [hl.ancestors_eq h]
  exact hl

theorem ancestors_eq (h : t.Rooted) (hx : t.Connected x) :
    t.ancestors x = match t.parent? x with
      | none => []
      | some p => p :: t.ancestors p := by
  obtain ⟨l, hl⟩ := hx
  cases hl with
  | root =>
    rw [Lineage.root.ancestors_eq h, h.parent]
  | child hp hl =>
    rw [(Lineage.child hp hl).ancestors_eq h, hp]
    simp only [hl.ancestors_eq h]

theorem connected_of_mem_ancestors (h : t.Rooted) (hx : t.Connected x)
    (hy : y ∈ t.ancestors x) : t.Connected y :=
  (h.lineage_ancestors hx).connected_of_mem hy

theorem ancestors_subset (h : t.Rooted) (hx : t.Connected x) (hy : y ∈ t.ancestors x) :
    t.ancestors y ⊆ t.ancestors x := by
  obtain ⟨u, v, hsplit, hv⟩ := (h.lineage_ancestors hx).of_mem hy
  rw [hv.ancestors_eq h, hsplit]
  exact fun a ha => by simp [ha]

theorem mem_ancestors_of_parent? (h : t.Rooted) (hx : t.Connected x) (hp : t.parent? x = some p) :
    p ∈ t.ancestors x := by
  rw [h.ancestors_eq hx, hp]
  exact List.mem_cons_self

theorem lt_size_of_connected (h : t.Rooted) (hx : t.Connected x) : x < t.size :=
  (h.lineage_ancestors hx).lt_size h

end Rooted

/-! ## The bounded test -/

theorem connected_of_mem_follow {count : Nat} {start : Option NodeId}
    (h : root ∈ t.follow Node.parent count start) : ∃ y, start = some y ∧ t.Connected y := by
  induction count generalizing start with
  | zero => simp [follow] at h
  | succ count ih =>
    cases start with
    | none => simp [follow] at h
    | some y =>
      refine ⟨y, rfl, ?_⟩
      rw [follow] at h
      split at h
      · simp at h
      · rename_i node hnode
        rcases List.mem_cons.mp h with rfl | h
        · exact connected_root
        · obtain ⟨p, hp, hconn⟩ := ih h
          exact hconn.child (by rw [parent?, hnode, Option.bind_some, hp])

/-- The bounded test sees every connected node and no other. -/
theorem Rooted.isConnected_iff (h : t.Rooted) : t.isConnected x = true ↔ t.Connected x := by
  rw [isConnected, Bool.or_eq_true, beq_iff_eq, List.contains_iff_mem]
  constructor
  · rintro (rfl | hmem)
    · exact connected_root
    · obtain ⟨p, hp, hconn⟩ := connected_of_mem_follow hmem
      exact hconn.child hp
  · rintro ⟨l, hl⟩
    rw [hl.ancestors_eq h]
    induction hl with
    | root => exact Or.inl rfl
    | @child c p l hp hl ih =>
      right
      rcases ih with rfl | hmem
      · exact List.mem_cons_self
      · exact List.mem_cons_of_mem _ hmem

end Topiary.Tree
