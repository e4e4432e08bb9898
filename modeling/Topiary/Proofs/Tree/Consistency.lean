import Topiary.Proofs.Tree.Mutation

/-!
Consistency of the links. Whatever operations have been applied to a tree, and whatever places they
were given, the children of a node stand in one row that can be gone through in both directions, and
a node without parent stands in no row.
-/

namespace Topiary.Tree

variable {t : Tree} {p c x y : NodeId} {l : List NodeId}

/-- Going from sibling to sibling passes these nodes of the tree and ends behind the last. -/
inductive Row (t : Tree) : Option NodeId → List NodeId → Prop where
  | done : Row t none []
  | next {c : NodeId} {l : List NodeId} : c < t.size → Row t (t.nextSibling? c) l →
      Row t (some c) (c :: l)

/-- The links of all nodes tell the same story: the row from the first child of a node on ends at
its last child and holds each node with this parent once, every step forth has its step back, and
nodes without parent have no siblings. -/
structure Consistent (t : Tree) : Prop where
  row : ∀ p, t.Row (t.firstChild? p) (t.children p)
  last : ∀ p, t.lastChild? p = (t.children p).getLast?
  parent : ∀ p c, t.parent? c = some p ↔ c ∈ t.children p
  nodup : ∀ p, (t.children p).Nodup
  mirror : ∀ x y, t.nextSibling? x = some y ↔ t.prevSibling? y = some x
  single : ∀ x, t.parent? x = none → t.prevSibling? x = none ∧ t.nextSibling? x = none

/-! ## Rows of linked trees -/

namespace Linked

theorem row (h : t.Linked) {u : List NodeId} (hk : t.children p = u ++ l) : t.Row l.head? l := by
  induction l generalizing u with
  | nil => exact .done
  | cons c l ih =>
    refine .next (h.lt_of_mem_children (p := p) (by simp [hk])).1 ?_
    rw [h.next p u c l hk]
    exact ih (u := u ++ [c]) (by simp [hk])

theorem nextSibling?_eq_some_iff (h : t.Linked) :
    t.nextSibling? x = some y ↔ ∃ p u v, t.children p = u ++ x :: y :: v := by
  constructor
  · intro hnext
    cases hp : t.parent? x with
    | none => simp [(h.single x hp).2] at hnext
    | some p =>
      obtain ⟨u, r, hk, -, hr⟩ := LinkedBy.exists_split h hp
      obtain ⟨v, rfl⟩ := List.head?_eq_some_iff.mp (hr.symm.trans hnext)
      exact ⟨p, u, v, hk⟩
  · rintro ⟨p, u, v, hk⟩
    exact h.next p u x (y :: v) hk

theorem prevSibling?_eq_some_iff (h : t.Linked) :
    t.prevSibling? y = some x ↔ ∃ p u v, t.children p = u ++ x :: y :: v := by
  constructor
  · intro hprev
    cases hp : t.parent? y with
    | none => simp [(h.single y hp).1] at hprev
    | some p =>
      obtain ⟨l, v, hk, hl, -⟩ := LinkedBy.exists_split h hp
      obtain ⟨u, rfl⟩ := List.getLast?_eq_some_iff.mp (hl.symm.trans hprev)
      exact ⟨p, u, v, by rw [hk, List.append_assoc, List.singleton_append]⟩
  · rintro ⟨p, u, v, hk⟩
    rw [h.prev p (u ++ [x]) y v (by simp [hk]), List.getLast?_concat]

theorem consistent (h : t.Linked) : t.Consistent where
  row p := by
    rw [h.first p]
    exact h.row (u := []) rfl
  last := h.last
  parent := h.parent
  nodup := h.nodup
  mirror x y := by rw [h.nextSibling?_eq_some_iff, h.prevSibling?_eq_some_iff]
  single := h.single

/-! ## Operations keep trees linked -/

theorem detachFirst (h : t.Linked) (count : Nat) : (t.detachFirst c count).Linked := by
  induction count generalizing t with
  | zero => exact h
  | succ count ih =>
    rw [Tree.detachFirst]
    split
    · exact h
    · exact ih h.detach

theorem cloneDeep (h : t.Linked) : (t.cloneDeep c).1.Linked := by
  by_cases hc : c < t.size
  · obtain ⟨t', ht', hcopied, -⟩ := copied_cloneDeep h hc
    rw [ht']
    exact hcopied.linked
  · have hnone : t.get? c = none := get?_eq_none_iff.mpr (Nat.not_lt.mp hc)
    rw [Tree.cloneDeep, cloneWithin.eq_def, hnone]
    exact h

theorem setTextContent (h : t.Linked) (content : String) : (t.setTextContent c content).Linked := by
  rw [Tree.setTextContent]
  split
  · apply h.modify
    constructor <;> exact fun _ => rfl
  · have hbare : (t.removeChildren c).Linked := h.detachFirst _
    split
    · exact hbare
    · exact (hbare.push _).append

/-- No operation asks anything of the places that it is given. -/
theorem apply (h : t.Linked) (m : Mutation) : (m.apply t).Linked := by
  cases m with
  | createElement tag => exact h.push _
  | createText content => exact h.push _
  | createComment content => exact h.push _
  | createDoctype name => exact h.push _
  | append parent child => exact h.append
  | detach id => exact h.detach
  | removeChildren id => exact h.detachFirst _
  | cloneDeep id => exact h.cloneDeep
  | setTextContent id content => exact h.setTextContent content
  | setId id value => exact h.modifyElement _
  | addClass id name => exact h.modifyElement _
  | setAttribute id name value => exact h.modifyElement _
  | setRepeatIndex id index => exact h.modifyElement _
  | setCorrelation id mark => exact h.modifyElement _

theorem foldl (h : t.Linked) (ms : List Mutation) : (ms.foldl Mutation.apply t).Linked := by
  induction ms generalizing t with
  | nil => exact h
  | cons m ms ih => exact ih (h.apply m)

end Linked

/-! ## Consistent trees are linked -/

theorem Row.head?_eq {start : Option NodeId} (h : t.Row start l) : start = l.head? := by
  cases h <;> rfl

theorem Row.nextSibling?_eq {start : Option NodeId} {u v : List NodeId} (h : t.Row start l)
    (hl : l = u ++ c :: v) : t.nextSibling? c = v.head? := by
  induction h generalizing u with
  | done => simp at hl
  | next _ hrow ih =>
    cases u with
    | nil =>
      obtain ⟨rfl, rfl⟩ := List.cons.inj hl
      exact hrow.head?_eq
    | cons first u => exact ih (List.cons.inj hl).2

/-- Nothing stands before the first child of a node: it would be a child of the same node, in front
of the first. -/
theorem Consistent.prevSibling?_eq_none (h : t.Consistent) {v : List NodeId}
    (hk : t.children p = c :: v) : t.prevSibling? c = none := by
  rw [Option.eq_none_iff_forall_ne_some]
  intro x hprev
  have hnext := (h.mirror x c).mpr hprev
  cases hx : t.parent? x with
  | none => simp [(h.single x hx).2] at hnext
  | some q =>
    obtain ⟨u, w, hq⟩ := List.append_of_mem ((h.parent q x).mp hx)
    obtain ⟨w, rfl⟩ := List.head?_eq_some_iff.mp (((h.row q).nextSibling?_eq hq).symm.trans hnext)
    have hcq : t.parent? c = some q := (h.parent q c).mpr (by simp [hq])
    have hcp : t.parent? c = some p := (h.parent p c).mpr (by simp [hk])
    obtain rfl : q = p := Option.some.inj (hcq.symm.trans hcp)
    have hnot : c ∉ v := by
      have hnodup := h.nodup q
      rw [hk] at hnodup
      exact (List.nodup_cons.mp hnodup).1
    have hsame : u ++ x :: c :: w = c :: v := hq.symm.trans hk
    cases u with
    | nil => exact hnot (by simp [← (List.cons.inj hsame).2])
    | cons first u => exact hnot (by simp [← (List.cons.inj hsame).2])

theorem Consistent.linked (h : t.Consistent) : t.Linked where
  first p := (h.row p).head?_eq
  last := h.last
  parent := h.parent
  nodup := h.nodup
  next p _ _ _ hk := (h.row p).nextSibling?_eq hk
  prev p l c r hk := by
    rcases List.eq_nil_or_concat l with rfl | ⟨l, x, rfl⟩
    · exact h.prevSibling?_eq_none hk
    · rw [List.concat_eq_append, List.getLast?_concat]
      have hnext := (h.row p).nextSibling?_eq (u := l) (c := x) (v := c :: r) (by simp [hk])
      exact (h.mirror x c).mp hnext
  single := h.single

/-! ## Reachable trees are consistent -/

/-- No sequence of operations breaks the links, not even one that hangs the document node or a node
below itself. -/
theorem consistent_ofMutations (ms : List Mutation) : (ofMutations ms).Consistent :=
  (linked_empty.foldl ms).consistent

/-- A node below itself is its own row. -/
example : (ofMutations [.createElement "p", .append 1 1]).children 1 = [1] := by decide

end Topiary.Tree
