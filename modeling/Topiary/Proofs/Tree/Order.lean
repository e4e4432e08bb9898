import Topiary.Proofs.Tree.Lineage

/-!
Document order. The bounded walk from the document node lists every connected node once, each in
front of what is below it and the children of a node in their order.
-/

namespace Topiary.Tree

variable {t : Tree} {p c x y : NodeId} {l l' : List NodeId} {exit : Option NodeId}

/-- A node and what is below it to a certain depth, every node in front of its children. -/
def preorder (t : Tree) : (depth : Nat) → NodeId → List NodeId
  | 0, x => [x]
  | depth + 1, x => x :: (t.children x).flatMap (t.preorder depth)

theorem preorder_eq_cons (depth : Nat) : ∃ tail, t.preorder depth x = x :: tail := by
  cases depth <;> exact ⟨_, rfl⟩

/-- A list that the step to the following node goes through from front to back, with the place where
it goes on behind the last node. -/
def Trail (t : Tree) : List NodeId → Option NodeId → Prop
  | [], _ => True
  | x :: l, exit => x < t.size ∧ t.following? root x = (l ++ exit.toList).head? ∧ Trail t l exit

namespace Trail

theorem append {first rest : List NodeId} (h : t.Trail first (rest ++ exit.toList).head?)
    (h' : t.Trail rest exit) : t.Trail (first ++ rest) exit := by
  induction first with
  | nil => exact h'
  | cons x first ih =>
    obtain ⟨hx, hnext, htail⟩ := h
    refine ⟨hx, ?_, ih htail⟩
    rw [hnext]
    cases first <;> cases rest <;> cases exit <;> simp

theorem drop {u v : List NodeId} (h : t.Trail (u ++ v) exit) : t.Trail v exit := by
  induction u with
  | nil => exact h
  | cons x u ih => exact ih h.2.2

/-- Where a trail ends, its first node tells all the others. -/
theorem unique (h : t.Trail l none) (h' : t.Trail l' none) (hhead : l.head? = l'.head?) :
    l = l' := by
  induction l generalizing l' with
  | nil =>
    cases l' with
    | nil => rfl
    | cons y l' => simp at hhead
  | cons x l ih =>
    cases l' with
    | nil => simp at hhead
    | cons y l' =>
      obtain rfl : x = y := by simpa using hhead
      obtain ⟨-, hl, htail⟩ := h
      obtain ⟨-, hl', htail'⟩ := h'
      have hnext : l.head? = l'.head? := by
        simpa using hl.symm.trans hl'
      rw [ih htail htail' hnext]

theorem nodup (h : t.Trail l none) : l.Nodup := by
  induction l with
  | nil => exact List.nodup_nil
  | cons x l ih =>
    refine List.nodup_cons.mpr ⟨fun hmem => ?_, ih h.2.2⟩
    obtain ⟨u, v, rfl⟩ := List.append_of_mem hmem
    have hrest : t.Trail (x :: v) none := drop (u := x :: u) h
    have hsame := unique h hrest rfl
    have := congrArg List.length hsame
    simp only [List.length_cons, List.length_append] at this
    omega

theorem lt_size (h : t.Trail l exit) : ∀ y ∈ l, y < t.size := by
  induction l with
  | nil => simp
  | cons x l ih =>
    intro y hy
    rcases List.mem_cons.mp hy with rfl | hy
    · exact h.1
    · exact ih h.2.2 y hy

theorem walk_eq (h : t.Trail l none) {count : Nat} (hl : l.length ≤ count) :
    t.walk root count l.head? = l := by
  induction l generalizing count with
  | nil => cases count <;> rfl
  | cons x l ih =>
    obtain ⟨hx, hnext, htail⟩ := h
    obtain ⟨node, hnode⟩ := exists_get? hx
    cases count with
    | zero => simp at hl
    | succ count =>
      rw [List.head?_cons, walk, hnode]
      simp only [List.cons.injEq, true_and]
      rw [hnext]
      simpa using ih htail (by simpa using hl)

end Trail

/-! ## Climbing -/

/-- Where document order goes on behind everything below a node. -/
def exitOf (t : Tree) (x : NodeId) : Option NodeId :=
  t.climb root (t.size + 1) x

theorem climb_eq (h : t.Lineage x l) {m n : Nat} (hm : l.length < m) (hn : l.length < n) :
    t.climb root m x = t.climb root n x := by
  induction h generalizing m n with
  | root =>
    cases m with
    | zero => simp at hm
    | succ m =>
      cases n with
      | zero => simp at hn
      | succ n => simp [climb]
  | @child c p l hp hl ih =>
    cases m with
    | zero => simp at hm
    | succ m =>
      cases n with
      | zero => simp at hn
      | succ n =>
        obtain ⟨node, hnode, hparent⟩ := Option.bind_eq_some_iff.mp hp
        have hup : t.climb root m p = t.climb root n p :=
          ih (by simpa using hm) (by simpa using hn)
        simp only [climb, hnode, hparent, hup]

namespace Rooted

theorem exitOf_root : t.exitOf root = none := by
  simp [exitOf, climb]

theorem exitOf_eq (h : t.Rooted) (hp : t.parent? c = some p) (hconn : t.Connected p)
    {u v : List NodeId} (hk : t.children p = u ++ c :: v) :
    t.exitOf c = (v ++ (t.exitOf p).toList).head? := by
  obtain ⟨l, hl⟩ := hconn
  have hnext := h.linked.next p u c v hk
  obtain ⟨node, hnode, hparent⟩ := Option.bind_eq_some_iff.mp hp
  have hsibling : node.nextSibling = v.head? := by simpa [nextSibling?, hnode] using hnext
  have hlen := (Lineage.child hp hl).length_lt h
  have hup : t.climb root t.size p = t.exitOf p :=
    climb_eq hl (Nat.lt_trans (Nat.lt_succ_self _) hlen)
      (Nat.lt_succ_of_lt (Nat.lt_trans (Nat.lt_succ_self _) hlen))
  rw [exitOf, climb, if_neg (h.ne_root_of_parent? hp), hnode]
  simp only [hsibling, hparent]
  cases v with
  | nil =>
    simp only [List.head?_nil, List.nil_append, hup]
    cases t.exitOf p <;> rfl
  | cons first v => rfl

theorem head?_flatMap_preorder (depth : Nat) (v : List NodeId) :
    (v.flatMap (t.preorder depth) ++ exit.toList).head? = (v ++ exit.toList).head? := by
  cases v with
  | nil => rfl
  | cons k v =>
    obtain ⟨tail, htail⟩ := preorder_eq_cons (t := t) (x := k) depth
    simp [htail]

/-- The subtrees of the last children of a node are a trail if each of them is. -/
theorem trail_children (h : t.Rooted) (hp : t.Connected p) {depth : Nat}
    (hkids : ∀ k ∈ t.children p, t.Trail (t.preorder depth k) (t.exitOf k))
    (v : List NodeId) {u : List NodeId} (hk : t.children p = u ++ v) :
    t.Trail (v.flatMap (t.preorder depth)) (t.exitOf p) := by
  induction v generalizing u with
  | nil => trivial
  | cons k v ih =>
    have hmem : k ∈ t.children p := by simp [hk]
    rw [List.flatMap_cons]
    refine Trail.append ?_ (ih (u := u ++ [k]) (by simp [hk]))
    rw [head?_flatMap_preorder, ← h.exitOf_eq (h.linked.mem_children.mp hmem) hp hk]
    exact hkids k hmem

/-- The subtree of a connected node is a trail that goes on where the climb from the node ends. -/
theorem trail_preorder (h : t.Rooted) {depth : Nat} (hl : t.Lineage x l)
    (hdepth : t.size ≤ depth + l.length) : t.Trail (t.preorder depth x) (t.exitOf x) := by
  induction depth generalizing x l with
  | zero => exact absurd (hl.length_lt h) (by omega)
  | succ depth ih =>
    have hbelow : t.Trail ((t.children x).flatMap (t.preorder depth)) (t.exitOf x) := by
      refine h.trail_children ⟨l, hl⟩ (fun k hk => ?_) (t.children x) (u := []) rfl
      refine ih (Lineage.child (h.linked.mem_children.mp hk) hl) ?_
      simp only [List.length_cons]
      omega
    refine ⟨hl.lt_size h, ?_, hbelow⟩
    rw [head?_flatMap_preorder, following?, h.linked.first x]
    cases t.children x with
    | nil =>
      simp only [List.head?_nil, List.nil_append, exitOf]
      cases t.climb root (t.size + 1) x <;> rfl
    | cons first rest => rfl

theorem trail_root (h : t.Rooted) : t.Trail (t.preorder t.size root) none := by
  rw [← exitOf_root]
  exact h.trail_preorder .root (by simp)

theorem following?_root : t.following? root root = t.firstChild? root := by
  rw [following?]
  cases t.firstChild? root <;> simp [climb]

/-- The walk from the document node goes through the tree in document order. -/
theorem cons_descendants_eq (h : t.Rooted) :
    root :: t.descendants root = t.preorder t.size root := by
  have htrail := h.trail_root
  obtain ⟨depth, hdepth⟩ := Nat.exists_eq_succ_of_ne_zero (Nat.ne_of_gt h.size_pos)
  rw [hdepth, preorder] at htrail ⊢
  obtain ⟨-, hfirst, hbelow⟩ := htrail
  rw [following?_root, Option.toList_none, List.append_nil] at hfirst
  rw [descendants, hfirst, hbelow.walk_eq (length_le_size hbelow.nodup hbelow.lt_size)]

theorem trail_descendants (h : t.Rooted) : t.Trail (root :: t.descendants root) none := by
  rw [h.cons_descendants_eq]
  exact h.trail_root

theorem nodup_descendants (h : t.Rooted) : (root :: t.descendants root).Nodup :=
  h.trail_descendants.nodup

theorem connected_of_mem_preorder (h : t.Rooted) {depth : Nat} (hx : t.Connected x)
    (hy : y ∈ t.preorder depth x) : t.Connected y := by
  induction depth generalizing x with
  | zero =>
    rw [preorder, List.mem_singleton] at hy
    exact hy ▸ hx
  | succ depth ih =>
    rw [preorder, List.mem_cons] at hy
    rcases hy with rfl | hy
    · exact hx
    · obtain ⟨k, hk, hy⟩ := List.mem_flatMap.mp hy
      exact ih (hx.child (h.linked.mem_children.mp hk)) hy

/-- A subtree holds the children of its nodes if it is deep enough. -/
theorem child_mem_preorder (h : t.Rooted) {depth : Nat} (hl : t.Lineage x l)
    (hdepth : t.size ≤ depth + l.length) (hy : y ∈ t.preorder depth x)
    (hc : t.parent? c = some y) : c ∈ t.preorder depth x := by
  induction depth generalizing x l with
  | zero => exact absurd (hl.length_lt h) (by omega)
  | succ depth ih =>
    rw [preorder, List.mem_cons] at hy ⊢
    right
    rcases hy with rfl | hy
    · obtain ⟨tail, htail⟩ := preorder_eq_cons (t := t) (x := c) depth
      exact List.mem_flatMap.mpr ⟨c, h.linked.mem_children.mpr hc, by simp [htail]⟩
    · obtain ⟨k, hk, hy⟩ := List.mem_flatMap.mp hy
      refine List.mem_flatMap.mpr ⟨k, hk, ?_⟩
      refine ih (Lineage.child (h.linked.mem_children.mp hk) hl) ?_ hy
      simp only [List.length_cons]
      omega

/-- The walk from the document node sees exactly the connected nodes. -/
theorem mem_descendants_iff (h : t.Rooted) :
    x ∈ t.descendants root ↔ x ≠ root ∧ t.Connected x := by
  have hnodup := List.nodup_cons.mp h.nodup_descendants
  constructor
  · intro hx
    refine ⟨fun heq => hnodup.1 (heq ▸ hx), ?_⟩
    have hmem : x ∈ t.preorder t.size root := by
      rw [← h.cons_descendants_eq]
      exact List.mem_cons_of_mem _ hx
    exact h.connected_of_mem_preorder connected_root hmem
  · rintro ⟨hne, l, hl⟩
    have hmem : x ∈ t.preorder t.size root := by
      clear hne hnodup
      induction hl with
      | root =>
        rw [← h.cons_descendants_eq]
        exact List.mem_cons_self
      | child hp _ ih => exact h.child_mem_preorder .root (by simp) ih hp
    rw [← h.cons_descendants_eq] at hmem
    exact (List.mem_cons.mp hmem).resolve_left hne

end Rooted

end Topiary.Tree
