import Topiary.Proofs.Tree.Consistency
import Topiary.Proofs.Tree.Finite
import Topiary.Proofs.Tree.Measure

/-!
Duplicates of finite subtrees. Copying a node in full leaves every node as it was and adds one node
for each node of the subtree, numbered in preorder. The copies form a subtree of the same shape with
the same data, and nothing stands above it.
-/

namespace Topiary.Tree

variable {t t' t1 t2 : Tree} {x y k p c : NodeId} {xs ys xs' ys' kids below l m : List NodeId}
  {P : NodeId → Prop} {depth : Nat}

/-- Two forests have the same shape, and the nodes at the same place hold the same data. -/
inductive Mirrors (t t' : Tree) : List NodeId → List NodeId → Prop where
  | nil : Mirrors t t' [] []
  | cons {x y : NodeId} {xs ys : List NodeId} : t'.data? y = t.data? x →
      Mirrors t t' (t.children x) (t'.children y) → Mirrors t t' xs ys →
      Mirrors t t' (x :: xs) (y :: ys)

/-- Two trees agree on a class of nodes that holds what is below its members. -/
structure Agree (P : NodeId → Prop) (t t' : Tree) : Prop where
  data : ∀ x, P x → t'.data? x = t.data? x
  children : ∀ x, P x → t'.children x = t.children x
  closed : ∀ x, P x → ∀ k ∈ t.children x, P k

/-! ## Forests in trees that agree -/

theorem Intact.agree (h : t.Intact t') (ht : t.Linked) : t.Agree (· < t.size) t' where
  data := h.data
  children := h.children
  closed _ _ _ hk := (ht.lt_of_mem_children hk).1

theorem Intact.fits {levels : Nat} (h : t.Intact t') (ht : t.Linked) (hx : x < t.size)
    (hfits : t.Fits levels x) : t'.Fits levels x := by
  induction levels generalizing x with
  | zero => exact hfits
  | succ levels ih =>
    intro k hk
    rw [h.children x hx] at hk
    exact ih (ht.lt_of_mem_children hk).1 (hfits k hk)

/-- Hanging one top below another changes only the subtree of the latter. -/
theorem agree_append (h : t.Linked) (hp : p < t.size) (hc : c < t.size)
    (hfree : t.parent? c = none) (htop : t.parent? p = none) :
    t.Agree (· ≠ p) (t.append p c) where
  data _ _ := data?_append
  children x hx := by rw [h.children_append_of_free hp hc hfree, if_neg hx]
  closed x _ k hk := by
    rintro rfl
    simp [h.mem_children.mp hk] at htop

theorem Preorder.agree (h : t.Preorder xs l) (ha : t.Agree P t') (hxs : ∀ x ∈ xs, P x) :
    t'.Preorder xs l := by
  induction h with
  | nil => exact .nil
  | @cons x rest below behind _ _ ihbelow ihbehind =>
    have hx := hxs x (by simp)
    refine .cons ?_ (ihbehind fun y hy => hxs y (by simp [hy]))
    rw [ha.children x hx]
    exact ihbelow (ha.closed x hx)

namespace Mirrors

theorem agree_left (h : Mirrors t1 t2 xs ys) (ha : t.Agree P t1) (hxs : ∀ x ∈ xs, P x) :
    Mirrors t t2 xs ys := by
  induction h with
  | nil => exact .nil
  | @cons x y xs ys hdata _ _ ihbelow ihbehind =>
    have hx := hxs x (by simp)
    rw [ha.data x hx] at hdata
    rw [ha.children x hx] at ihbelow
    exact .cons hdata (ihbelow (ha.closed x hx)) (ihbehind fun y hy => hxs y (by simp [hy]))

theorem agree_right (h : Mirrors t t1 xs ys) (ha : t1.Agree P t2) (hys : ∀ y ∈ ys, P y) :
    Mirrors t t2 xs ys := by
  induction h with
  | nil => exact .nil
  | @cons x y xs ys hdata _ _ ihbelow ihbehind =>
    have hy := hys y (by simp)
    refine .cons ((ha.data y hy).trans hdata) ?_ (ihbehind fun z hz => hys z (by simp [hz]))
    rw [ha.children y hy]
    exact ihbelow (ha.closed y hy)

theorem append (h : Mirrors t t' xs ys) (h' : Mirrors t t' xs' ys') :
    Mirrors t t' (xs ++ xs') (ys ++ ys') := by
  induction h with
  | nil => exact h'
  | cons hdata hbelow _ _ ih => exact .cons hdata hbelow ih

end Mirrors

/-! ## One node -/

/-- The second tree is the first with a copy of the subtree of `x` at its end, `l` being the
preorder of that subtree. -/
structure Duplicated (t : Tree) (x : NodeId) (l : List NodeId) (t' : Tree) : Prop where
  copied : t.Copied x t'
  size : t'.size = t.size + l.length
  preorder : t'.Preorder [t.size] (List.range' t.size l.length)
  mirrors : Mirrors t t' [x] [t.size]

/-- The second tree is the first with a copy of `x` at its end and, below it, copies of some of the
children of `x`. -/
structure Duplicating (t : Tree) (x : NodeId) (kids below : List NodeId) (t' : Tree) : Prop where
  copied : t.Copied x t'
  size : t'.size = t.size + 1 + below.length
  preorder : t'.Preorder (t'.children t.size) (List.range' (t.size + 1) below.length)
  mirrors : Mirrors t t' kids (t'.children t.size)

theorem duplicating_push (h : t.Linked) {node : Node} (hx : t.get? x = some node) :
    t.Duplicating x [] [] (t.push node.data).1 := by
  have hnone : (t.push node.data).1.children t.size = [] := by
    rw [h.children_push, h.children_eq_nil (Nat.le_refl _)]
  refine ⟨.push h hx, by simp, ?_, ?_⟩
  · rw [hnone]
    exact .nil
  · rw [hnone]
    exact .nil

namespace Duplicating

/-- One more child: a duplicate of it is hung behind the copies that are there. -/
theorem append (h : t.Duplicating x kids below t1) (ht : t.Linked) (hkt : k < t.size)
    (hk : t1.Duplicated k m t2) :
    t.Duplicating x (kids ++ [k]) (below ++ m) (t2.append t.size t1.size) := by
  obtain ⟨hcopied, hchildren⟩ := h.copied.append hk.copied
  have hlt : t.size < t2.size := Nat.lt_trans h.copied.lt hk.copied.lt
  have hne : t1.size ≠ t.size := Nat.ne_of_gt h.copied.lt
  have htop : t2.parent? t.size = none := by
    rw [hk.copied.intact.parent _ h.copied.lt, h.copied.parent]
  have hstays : t1.Agree (· < t1.size) t2 := hk.copied.intact.agree h.copied.linked
  have hhung : t2.Agree (· ≠ t.size) (t2.append t.size t1.size) :=
    agree_append hk.copied.linked hlt hk.copied.lt hk.copied.parent htop
  have hkids : ∀ y ∈ t1.children t.size, y < t1.size ∧ y ≠ t.size := by
    intro y hy
    refine ⟨(h.copied.linked.lt_of_mem_children hy).1, ?_⟩
    rintro rfl
    have hparent := h.copied.linked.mem_children.mp hy
    simp [h.copied.parent] at hparent
  refine ⟨hcopied, ?_, ?_, ?_⟩
  · rw [size_append, hk.size, h.size, List.length_append, Nat.add_assoc]
  · have hnumbers : List.range' (t.size + 1) (below ++ m).length =
        List.range' (t.size + 1) below.length ++ List.range' t1.size m.length := by
      rw [List.length_append, h.size, List.range'_append_1]
    rw [hchildren, hnumbers]
    refine Preorder.append ?_ (hk.preorder.agree hhung (by simpa using hne))
    exact (h.preorder.agree hstays fun y hy => (hkids y hy).1).agree hhung
      fun y hy => (hkids y hy).2
  · rw [hchildren]
    refine Mirrors.append ?_ ?_
    · exact (h.mirrors.agree_right hstays fun y hy => (hkids y hy).1).agree_right hhung
        fun y hy => (hkids y hy).2
    · have hmirrors : Mirrors t t2 [k] [t1.size] :=
        hk.mirrors.agree_left (h.copied.intact.agree ht) (by simpa using hkt)
      exact hmirrors.agree_right hhung (by simpa using hne)

theorem foldl (ht : t.Linked)
    (ih : ∀ {t : Tree} {k : NodeId}, t.Linked → k < t.size → t.Fits (depth + 1) k →
      ∃ t', cloneWithin depth t k = (t', some t.size) ∧
        t.Duplicated k (t.preorder depth k) t')
    (h : t.Duplicating x kids below t1) (hl : ∀ k ∈ l, k < t.size ∧ t.Fits (depth + 1) k) :
    t.Duplicating x (kids ++ l) (below ++ l.flatMap (t.preorder depth))
      (l.foldl (cloneChild depth t.size) t1) := by
  induction l generalizing kids below t1 with
  | nil => simpa using h
  | cons k l ihl =>
    obtain ⟨hkt, hfits⟩ := hl k (by simp)
    have hintact := h.copied.intact
    obtain ⟨t2, ht2, hk⟩ := ih h.copied.linked (Nat.lt_of_lt_of_le hkt hintact.size_le)
      (hintact.fits ht hkt hfits)
    rw [hintact.preorder ht hkt] at hk
    have hstep : cloneChild depth t.size t1 k = t2.append t.size t1.size := by
      rw [cloneChild, ht2]
    have hrest := ihl (h.append ht hkt hk) fun y hy => hl y (by simp [hy])
    rw [List.foldl_cons, hstep]
    simpa [List.append_assoc] using hrest

/-- With all its children, a copy is a duplicate. -/
theorem duplicated (h : t.Duplicating x (t.children x) below t') :
    t.Duplicated x (x :: below) t' where
  copied := h.copied
  size := by
    rw [h.size, List.length_cons]
    omega
  preorder := h.preorder.single
  mirrors := .cons h.copied.data h.mirrors .nil

end Duplicating

/-! ## Whole subtrees -/

theorem duplicated_cloneWithin (depth : Nat) (ht : t.Linked) (hx : x < t.size)
    (hfits : t.Fits (depth + 1) x) :
    ∃ t', cloneWithin depth t x = (t', some t.size) ∧
      t.Duplicated x (t.preorder depth x) t' := by
  induction depth generalizing t x with
  | zero =>
    obtain ⟨node, hnode⟩ := exists_get? hx
    have hnone : t.children x = [] := Fits.children_eq_nil hfits
    have hpush : t.Duplicating x (t.children x) [] (t.push node.data).1 := by
      rw [hnone]
      exact duplicating_push ht hnode
    exact ⟨_, by rw [cloneWithin, hnode]; rfl, hpush.duplicated⟩
  | succ depth ih =>
    obtain ⟨node, hnode⟩ := exists_get? hx
    refine ⟨_, cloneWithin_succ depth hnode, ?_⟩
    rw [ht.children_push]
    have hall := (duplicating_push ht hnode).foldl ht ih (l := t.children x) fun k hk =>
      ⟨(ht.lt_of_mem_children hk).1, hfits k hk⟩
    exact hall.duplicated

/-- A node is its data and its five links. -/
theorem get?_congr (hdata : t'.data? x = t.data? x) (hparent : t'.parent? x = t.parent? x)
    (hfirst : t'.firstChild? x = t.firstChild? x) (hlast : t'.lastChild? x = t.lastChild? x)
    (hprev : t'.prevSibling? x = t.prevSibling? x) (hnext : t'.nextSibling? x = t.nextSibling? x) :
    t'.get? x = t.get? x := by
  rw [data?, data?] at hdata
  rw [parent?, parent?] at hparent
  rw [firstChild?, firstChild?] at hfirst
  rw [lastChild?, lastChild?] at hlast
  rw [prevSibling?, prevSibling?] at hprev
  rw [nextSibling?, nextSibling?] at hnext
  cases hx : t.get? x with
  | none => simpa [hx] using hdata
  | some node =>
    obtain ⟨node', hx', -⟩ := Option.map_eq_some_iff.mp (hdata.trans (by rw [hx, Option.map_some]))
    simp only [hx, hx', Option.bind_some, Option.map_some, Option.some.injEq] at *
    cases node
    cases node'
    simp_all

theorem Intact.siblings?_eq (h : t.Intact t') (ht : t.Linked) (ht' : t'.Linked)
    (hx : x < t.size) :
    t'.prevSibling? x = t.prevSibling? x ∧ t'.nextSibling? x = t.nextSibling? x := by
  have hparent := h.parent x hx
  cases hp : t.parent? x with
  | none =>
    rw [hp] at hparent
    obtain ⟨hprev, hnext⟩ := ht.single x hp
    obtain ⟨hprev', hnext'⟩ := ht'.single x hparent
    exact ⟨hprev'.trans hprev.symm, hnext'.trans hnext.symm⟩
  | some p =>
    obtain ⟨l, r, hk, hprev, hnext⟩ := LinkedBy.exists_split ht hp
    have hk' := (h.children p (ht.lt_of_parent? hp).2).trans hk
    exact ⟨(ht'.prev p l x r hk').trans hprev.symm, (ht'.next p l x r hk').trans hnext.symm⟩

/-- A node to which nothing has happened has all its links. -/
theorem Intact.get?_eq (h : t.Intact t') (ht : t.Linked) (ht' : t'.Linked) (hx : x < t.size) :
    t'.get? x = t.get? x := by
  obtain ⟨hprev, hnext⟩ := h.siblings?_eq ht ht' hx
  refine get?_congr (h.data x hx) (h.parent x hx) ?_ ?_ hprev hnext
  · rw [ht'.first x, ht.first x, h.children x hx]
  · rw [ht'.last x, ht.last x, h.children x hx]

/-- A node of a consistent tree whose subtree is finite is copied in full: every node that was
there is as it was, the copy has one node for each node of the subtree, numbered in preorder from
the end of the tree on, it is detached, and it has the shape and the data of the subtree. -/
theorem cloneDeep_duplicates (h : t.Consistent) (hx : x < t.size) (hl : t.Preorder [x] l) :
    ∃ t', t.cloneDeep x = (t', some t.size) ∧ t'.Consistent ∧
      (∀ y < t.size, t'.get? y = t.get? y) ∧ t'.size = t.size + l.length ∧
      t'.parent? t.size = none ∧ t'.Preorder [t.size] (List.range' t.size l.length) ∧
      Mirrors t t' [x] [t.size] := by
  have ht := h.linked
  have hfits := (hl.fits hx).succ
  obtain ⟨t', ht', hduplicated⟩ := duplicated_cloneWithin t.size ht hx hfits
  rw [hfits.preorder.unique hl] at hduplicated
  have hcopied := hduplicated.copied
  exact ⟨t', ht', hcopied.linked.consistent,
    fun y hy => hcopied.intact.get?_eq ht hcopied.linked hy, hduplicated.size, hcopied.parent,
    hduplicated.preorder, hduplicated.mirrors⟩

/-- A list of two items below the document node; the first item holds a text, the second carries
two marks. -/
def listTree : Tree :=
  ofMutations [.createElement "ul", .createElement "li", .createElement "li", .createText "a",
    .append root 1, .append 1 2, .append 1 3, .append 2 4, .setAttribute 3 "id" "b",
    .setRepeatIndex 3 2, .setCorrelation 3 ⟨1⟩]

theorem cloneDeep_duplicates_listTree :
    listTree.Consistent ∧ 1 < listTree.size ∧ listTree.Preorder [1] [1, 2, 4, 3] ∧
      ∃ t', listTree.cloneDeep 1 = (t', some 5) ∧ t'.Consistent ∧
        (∀ y < listTree.size, t'.get? y = listTree.get? y) ∧ t'.size = 5 + 4 ∧
        t'.parent? 5 = none ∧ t'.Preorder [5] [5, 6, 7, 8] ∧ Mirrors listTree t' [1] [5] := by
  have hreachable : listTree.Reachable := ⟨_, by simp [Mutation.SparesRoot, root], rfl⟩
  have hconsistent : listTree.Consistent := consistent_ofMutations _
  have hlineage : listTree.Lineage 1 [root] := .child (by decide) .root
  have hpreorder : listTree.Preorder [1] [1, 2, 4, 3] := by
    have hwalk : listTree.preorder 4 1 = [1, 2, 4, 3] := by decide
    rw [← hwalk]
    exact hreachable.rooted.preorder_of_lineage hlineage (by decide)
  exact ⟨hconsistent, by decide, hpreorder, cloneDeep_duplicates hconsistent (by decide) hpreorder⟩

end Topiary.Tree
