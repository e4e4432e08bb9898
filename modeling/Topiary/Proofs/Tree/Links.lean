import Mathlib.Data.List.Nodup
import Topiary.Tree.Basic

/-!
The links between nodes. Five links of every node say the same thing over and over: which nodes are
the children of which, and in what order. `LinkedBy` ties the links of a tree to lists of children,
and every step of an operation on the links is a step on the lists.
-/

namespace Topiary.Tree

variable {t : Tree} {kids : NodeId → List NodeId} {p q c x : NodeId}

/-- The links of a tree write down the given lists of children. -/
structure LinkedBy (t : Tree) (kids : NodeId → List NodeId) : Prop where
  first : ∀ p, t.firstChild? p = (kids p).head?
  last : ∀ p, t.lastChild? p = (kids p).getLast?
  parent : ∀ p c, t.parent? c = some p ↔ c ∈ kids p
  nodup : ∀ p, (kids p).Nodup
  next : ∀ p l c r, kids p = l ++ c :: r → t.nextSibling? c = r.head?
  prev : ∀ p l c r, kids p = l ++ c :: r → t.prevSibling? c = l.getLast?
  single : ∀ c, t.parent? c = none → t.prevSibling? c = none ∧ t.nextSibling? c = none

/-! ## Nodes -/

theorem get?_eq_none_iff : t.get? x = none ↔ t.size ≤ x := by
  simp [get?, size]

theorem get?_isSome_iff : (t.get? x).isSome ↔ x < t.size := by
  simp [get?, size]

theorem exists_get? (h : x < t.size) : ∃ node, t.get? x = some node :=
  Option.isSome_iff_exists.mp (get?_isSome_iff.mpr h)

theorem lt_size_of_get? {node : Node} (h : t.get? x = some node) : x < t.size := by
  rw [← get?_isSome_iff, h]
  rfl

theorem lt_size_of_link {link : Node → Option NodeId} (h : (t.get? x).bind link = some p) :
    x < t.size := by
  cases hx : t.get? x with
  | none => simp [hx] at h
  | some node => exact lt_size_of_get? hx

theorem get?_modify (f : Node → Node) :
    (t.modify c f).get? x = if x = c then (t.get? x).map f else t.get? x := by
  simp only [get?, modify, Array.getElem?_modify, eq_comm (a := c)]

@[simp] theorem size_modify (f : Node → Node) : (t.modify c f).size = t.size := by
  simp [modify, size]

theorem get?_push (data : NodeData) :
    (t.push data).1.get? x = if x = t.size then some (.ofData data) else t.get? x := by
  simp only [get?, push, size, Array.getElem?_push]
  rfl

@[simp] theorem size_push (data : NodeData) : (t.push data).1.size = t.size + 1 := by
  simp [push, size]

/-! ## Single links after a change -/

theorem link_modify_of_eq (link : Node → Option NodeId) (f : Node → Node)
    (hf : ∀ n, link (f n) = link n) :
    ((t.modify c f).get? x).bind link = (t.get? x).bind link := by
  rw [get?_modify]
  by_cases hx : x = c
  · cases t.get? x <;> simp [hx, hf]
  · simp [hx]

theorem link_modify_of_const (link : Node → Option NodeId) (f : Node → Node)
    (hf : ∀ n, link (f n) = link (f (.ofData .document))) (hc : c < t.size) :
    ((t.modify c f).get? x).bind link =
      if x = c then link (f (.ofData .document)) else (t.get? x).bind link := by
  rw [get?_modify]
  by_cases hx : x = c
  · obtain ⟨node, hnode⟩ := exists_get? hc
    simp [hx, hnode, hf node]
  · simp [hx]

namespace LinkedBy

theorem lt_of_mem (h : t.LinkedBy kids) (hc : c ∈ kids p) : c < t.size :=
  lt_size_of_link ((h.parent p c).mpr hc)

theorem lt_of_mem_kids (h : t.LinkedBy kids) (hc : c ∈ kids p) : p < t.size := by
  cases hk : kids p with
  | nil => simp [hk] at hc
  | cons first rest => exact lt_size_of_link ((h.first p).trans (by rw [hk]; rfl))

/-- Where a child stands among its siblings. -/
theorem exists_split (h : t.LinkedBy kids) (hp : t.parent? c = some p) :
    ∃ l r, kids p = l ++ c :: r ∧ t.prevSibling? c = l.getLast? ∧ t.nextSibling? c = r.head? := by
  obtain ⟨l, r, hk⟩ := List.append_of_mem ((h.parent p c).mp hp)
  exact ⟨l, r, hk, h.prev p l c r hk, h.next p l c r hk⟩

/-- The other children of a node's parent. -/
theorem sibling_lt (h : t.LinkedBy kids) {l r : List NodeId} (hk : kids p = l ++ c :: r)
    (hx : x ∈ l ++ r) : x < t.size ∧ x ≠ c := by
  have hnodup := h.nodup p
  rw [hk, List.nodup_middle, List.nodup_cons] at hnodup
  have hmem : x ∈ kids p := by
    rw [hk]
    exact List.perm_middle.symm.subset (List.mem_cons_of_mem c hx)
  refine ⟨h.lt_of_mem hmem, ?_⟩
  rintro rfl
  exact hnodup.1 hx

theorem prev_lt (h : t.LinkedBy kids) (hx : t.prevSibling? c = some x) : x < t.size ∧ x ≠ c := by
  cases hp : t.parent? c with
  | none => simp [(h.single c hp).1] at hx
  | some p =>
    obtain ⟨l, r, hk, hl, -⟩ := h.exists_split hp
    exact h.sibling_lt hk (List.mem_append_left r (List.mem_of_getLast? (hl ▸ hx)))

theorem next_lt (h : t.LinkedBy kids) (hx : t.nextSibling? c = some x) : x < t.size ∧ x ≠ c := by
  cases hp : t.parent? c with
  | none => simp [(h.single c hp).2] at hx
  | some p =>
    obtain ⟨l, r, hk, -, hr⟩ := h.exists_split hp
    exact h.sibling_lt hk (List.mem_append_right l (List.mem_of_head? (hr ▸ hx)))

end LinkedBy

/-! ## Detaching -/

/-- The links after a node has been taken from its parent and siblings. -/
structure Detached (t : Tree) (c p : NodeId) (t' : Tree) : Prop where
  size : t'.size = t.size
  parent : ∀ x, t'.parent? x = if x = c then none else t.parent? x
  prev : ∀ x, t'.prevSibling? x =
    if x = c then none else if t.nextSibling? c = some x then t.prevSibling? c else t.prevSibling? x
  next : ∀ x, t'.nextSibling? x =
    if x = c then none else if t.prevSibling? c = some x then t.nextSibling? c else t.nextSibling? x
  first : ∀ x, t'.firstChild? x =
    if x = p ∧ t.prevSibling? c = none then t.nextSibling? c else t.firstChild? x
  last : ∀ x, t'.lastChild? x =
    if x = p ∧ t.nextSibling? c = none then t.prevSibling? c else t.lastChild? x

theorem detached_detach (h : t.LinkedBy kids) (hp : t.parent? c = some p) :
    t.Detached c p (t.detach c) := by
  have hc : c < t.size := lt_size_of_link hp
  have hpl : p < t.size := h.lt_of_mem_kids ((h.parent p c).mp hp)
  obtain ⟨node, hnode⟩ := exists_get? hc
  have hprev := fun x => h.prev_lt (c := c) (x := x)
  have hnext := fun x => h.next_lt (c := c) (x := x)
  have hparent : node.parent = some p := by simpa [parent?, hnode] using hp
  simp only [prevSibling?, nextSibling?, hnode, Option.bind_some] at hprev hnext
  constructor
  · rw [detach, hnode]
    simp only [hparent]
    cases node.prevSibling <;> cases node.nextSibling <;> simp
  all_goals
    intro x
    rw [detach, hnode]
    simp only [hparent, prevSibling?, nextSibling?, hnode, Option.bind_some]
    cases hl : node.prevSibling <;> cases hr : node.nextSibling <;>
      simp only [hl, hr, Option.some.injEq, forall_eq', reduceCtorEq] at hprev hnext <;>
      simp [parent?, firstChild?, lastChild?, link_modify_of_eq, link_modify_of_const, hc, hpl,
        hprev, hnext] <;>
      grind

theorem LinkedBy.not_mem_of_ne (h : t.LinkedBy kids) (hp : t.parent? c = some p) (hq : q ≠ p) :
    c ∉ kids q := by
  intro hmem
  rw [(h.parent q c).mpr hmem] at hp
  exact hq (Option.some.inj hp)

theorem LinkedBy.not_mem_of_parent?_eq_none (h : t.LinkedBy kids) (hc : t.parent? c = none) :
    c ∉ kids q := by
  intro hmem
  simp [(h.parent q c).mpr hmem] at hc

theorem erase_split {l r : List NodeId} (h : (l ++ c :: r).Nodup) :
    (l ++ c :: r).erase c = l ++ r := by
  have hl : c ∉ l := fun hmem => (List.nodup_append.mp h).2.2 c hmem c (by simp) rfl
  rw [List.erase_append_right _ hl, List.erase_cons_head]

/-- A member of two joined lists stands in the first or in the second. -/
theorem split_append {l r u v : List NodeId} (h : l ++ r = u ++ x :: v) :
    (∃ m, l = u ++ x :: m ∧ v = m ++ r) ∨ ∃ m, r = m ++ x :: v ∧ u = l ++ m := by
  rcases List.append_eq_append_iff.mp h with ⟨m, rfl, rfl⟩ | ⟨m, rfl, hm⟩
  · exact Or.inr ⟨m, rfl, rfl⟩
  · cases m with
    | nil => exact Or.inr ⟨[], by simpa using hm.symm, by simp⟩
    | cons first m =>
      rw [List.cons_append, List.cons.injEq] at hm
      exact Or.inl ⟨m, by rw [hm.1], hm.2⟩

theorem getLast?_ne_of_nodup {u m : List NodeId} {first : NodeId}
    (h : (u ++ x :: first :: m).Nodup) : (u ++ x :: first :: m).getLast? ≠ some x := by
  intro hlast
  have hmem : x ∈ first :: m := by
    apply List.mem_of_getLast?
    simpa [List.getLast?_append, List.getLast?_cons] using hlast
  exact (List.nodup_cons.mp (List.nodup_append.mp h).2.1).1 hmem

theorem LinkedBy.erase_eq {l r : List NodeId} (h : t.LinkedBy kids) (hk : kids p = l ++ c :: r) :
    (kids p).erase c = l ++ r := by
  have hnodup := h.nodup p
  rw [hk] at hnodup ⊢
  exact erase_split hnodup

theorem LinkedBy.erase_eq_of_ne (h : t.LinkedBy kids) (hp : t.parent? c = some p) (hq : q ≠ p) :
    (kids q).erase c = kids q :=
  List.erase_of_not_mem (h.not_mem_of_ne hp hq)

/-- A sibling of `c` is nowhere else a child. -/
theorem LinkedBy.not_mem_siblings {l r : List NodeId} (h : t.LinkedBy kids)
    (hk : kids p = l ++ c :: r) (hq : q ≠ p) (hx : x ∈ kids q) : x ∉ l ∧ x ∉ r := by
  have hxp := h.not_mem_of_ne ((h.parent q x).mpr hx) (Ne.symm hq)
  rw [hk] at hxp
  exact ⟨fun hxl => hxp (by simp [hxl]), fun hxr => hxp (by simp [hxr])⟩

theorem LinkedBy.disjoint_siblings {l r : List NodeId} (h : t.LinkedBy kids)
    (hk : kids p = l ++ c :: r) (hxl : x ∈ l) : x ∉ r := by
  have hnodup := h.nodup p
  rw [hk] at hnodup
  exact fun hxr => (List.nodup_append.mp hnodup).2.2 x hxl x (by simp [hxr]) rfl

namespace Detached

variable {t' : Tree} {u v : List NodeId}

theorem firstChild?_eq (h : t.LinkedBy kids) (hp : t.parent? c = some p) (hd : t.Detached c p t') :
    t'.firstChild? q = ((kids q).erase c).head? := by
  obtain ⟨l, r, hk, hl, hr⟩ := h.exists_split hp
  rw [hd.first q, hl, hr, h.first q]
  by_cases hq : q = p
  · subst hq
    rw [h.erase_eq hk, hk]
    cases l <;> simp [List.getLast?_cons]
  · simp [hq, h.erase_eq_of_ne hp hq]

theorem lastChild?_eq (h : t.LinkedBy kids) (hp : t.parent? c = some p) (hd : t.Detached c p t') :
    t'.lastChild? q = ((kids q).erase c).getLast? := by
  obtain ⟨l, r, hk, hl, hr⟩ := h.exists_split hp
  rw [hd.last q, hl, hr, h.last q]
  by_cases hq : q = p
  · subst hq
    rw [h.erase_eq hk, hk]
    cases r <;> simp [List.getLast?_cons]
  · simp [hq, h.erase_eq_of_ne hp hq]

theorem nextSibling?_eq (h : t.LinkedBy kids) (hp : t.parent? c = some p)
    (hd : t.Detached c p t') (hq : (kids q).erase c = u ++ x :: v) :
    t'.nextSibling? x = v.head? := by
  obtain ⟨l, r, hk, hl, hr⟩ := h.exists_split hp
  have hxc : x ≠ c := ((h.nodup q).mem_erase_iff.mp (by simp [hq])).1
  rw [hd.next x, if_neg hxc, hl, hr]
  by_cases hqp : q = p
  · subst hqp
    rw [h.erase_eq hk] at hq
    rcases split_append hq with ⟨m, rfl, rfl⟩ | ⟨m, rfl, rfl⟩
    · rw [h.next q u x (m ++ c :: r) (by simp [hk])]
      cases m with
      | nil => simp
      | cons first m =>
        have hnodup := h.nodup q
        rw [hk] at hnodup
        rw [if_neg (getLast?_ne_of_nodup (List.nodup_append.mp hnodup).1)]
        rfl
    · have hx : l.getLast? ≠ some x := fun hlast =>
        h.disjoint_siblings hk (List.mem_of_getLast? hlast) (by simp)
      rw [if_neg hx, h.next q (l ++ c :: m) x v (by simp [hk])]
  · rw [h.erase_eq_of_ne hp hqp] at hq
    have hx : l.getLast? ≠ some x := fun hlast =>
      (h.not_mem_siblings hk hqp (by simp [hq])).1 (List.mem_of_getLast? hlast)
    rw [if_neg hx, h.next q u x v hq]

theorem prevSibling?_eq (h : t.LinkedBy kids) (hp : t.parent? c = some p)
    (hd : t.Detached c p t') (hq : (kids q).erase c = u ++ x :: v) :
    t'.prevSibling? x = u.getLast? := by
  obtain ⟨l, r, hk, hl, hr⟩ := h.exists_split hp
  have hxc : x ≠ c := ((h.nodup q).mem_erase_iff.mp (by simp [hq])).1
  rw [hd.prev x, if_neg hxc, hl, hr]
  by_cases hqp : q = p
  · subst hqp
    rw [h.erase_eq hk] at hq
    rcases split_append hq with ⟨m, rfl, rfl⟩ | ⟨m, rfl, rfl⟩
    · have hx : r.head? ≠ some x := fun hhead =>
        h.disjoint_siblings hk (by simp) (List.mem_of_head? hhead)
      rw [if_neg hx, h.prev q u x (m ++ c :: r) (by simp [hk])]
    · rw [h.prev q (l ++ c :: m) x v (by simp [hk])]
      cases m with
      | nil => simp
      | cons first m =>
        have hx : (first :: m ++ x :: v).head? ≠ some x := by
          rw [List.cons_append, List.head?_cons, ne_eq, Option.some.injEq]
          rintro rfl
          have hnodup := h.nodup q
          simp [hk, List.nodup_append, List.nodup_cons] at hnodup
        rw [if_neg hx]
        simp [List.getLast?_append, List.getLast?_cons]
  · rw [h.erase_eq_of_ne hp hqp] at hq
    have hx : r.head? ≠ some x := fun hhead =>
      (h.not_mem_siblings hk hqp (by simp [hq])).2 (List.mem_of_head? hhead)
    rw [if_neg hx, h.prev q u x v hq]

theorem single (h : t.LinkedBy kids) (hp : t.parent? c = some p) (hd : t.Detached c p t')
    (hx : t'.parent? x = none) : t'.prevSibling? x = none ∧ t'.nextSibling? x = none := by
  obtain ⟨l, r, hk, hl, hr⟩ := h.exists_split hp
  rw [hd.parent x] at hx
  rw [hd.prev x, hd.next x]
  by_cases hxc : x = c
  · simp [hxc]
  · simp only [hxc, ↓reduceIte] at hx ⊢
    have hxp : x ∉ kids p := fun hmem => by simp [(h.parent p x).mpr hmem] at hx
    rw [hk] at hxp
    have hxl : l.getLast? ≠ some x := fun hlast => hxp (by simp [List.mem_of_getLast? hlast])
    have hxr : r.head? ≠ some x := fun hhead => hxp (by simp [List.mem_of_head? hhead])
    rw [hl, hr, if_neg hxl, if_neg hxr]
    exact h.single x hx

/-- Detaching a node takes it out of its list. -/
theorem linkedBy (h : t.LinkedBy kids) (hp : t.parent? c = some p) (hd : t.Detached c p t') :
    t'.LinkedBy fun q => (kids q).erase c where
  first _ := hd.firstChild?_eq h hp
  last _ := hd.lastChild?_eq h hp
  parent q x := by
    rw [hd.parent x, (h.nodup q).mem_erase_iff]
    by_cases hx : x = c <;> simp [hx, h.parent]
  nodup q := (h.nodup q).erase c
  next _ _ _ _ hq := hd.nextSibling?_eq h hp hq
  prev _ _ _ _ hq := hd.prevSibling?_eq h hp hq
  single _ hx := hd.single h hp hx

end Detached

theorem detach_eq_self (hp : t.parent? c = none) : t.detach c = t := by
  rw [detach]
  split
  · rfl
  · rename_i node hnode
    have hparent : node.parent = none := by simpa [parent?, hnode] using hp
    rw [hparent]

@[simp] theorem size_detach : (t.detach c).size = t.size := by
  rw [detach]
  repeat' split
  all_goals simp

theorem LinkedBy.parent?_detach (h : t.LinkedBy kids) :
    (t.detach c).parent? x = if x = c then none else t.parent? x := by
  cases hp : t.parent? c with
  | some p => exact (detached_detach h hp).parent x
  | none =>
    rw [detach_eq_self hp]
    by_cases hx : x = c <;> simp [hx, hp]

theorem LinkedBy.detach (h : t.LinkedBy kids) :
    (t.detach c).LinkedBy fun q => (kids q).erase c := by
  cases hp : t.parent? c with
  | some p => exact (detached_detach h hp).linkedBy h hp
  | none =>
    have hkids : (fun q => (kids q).erase c) = kids := by
      funext q
      exact List.erase_of_not_mem (h.not_mem_of_parent?_eq_none hp)
    rw [detach_eq_self hp, hkids]
    exact h

/-! ## Appending -/

/-- The second half of appending: hang a node that has no parent behind the children of `p`. -/
def hang (t : Tree) (p c : NodeId) : Tree :=
  let last := t.lastChild? p
  let t := t.modify c fun n => { n with parent := some p, prevSibling := last }
  let t := match last with
    | some last => t.modify last fun n => { n with nextSibling := some c }
    | none => t.modify p fun n => { n with firstChild := some c }
  t.modify p fun n => { n with lastChild := some c }

theorem append_eq (hp : p < t.size) (hc : c < t.size) : t.append p c = (t.detach c).hang p c := by
  rw [append, if_neg (not_or.mpr ⟨Nat.not_le.mpr hp, Nat.not_le.mpr hc⟩)]
  rfl

/-- The links after a node has been hung behind the children of `p`. -/
structure Hung (t : Tree) (p c : NodeId) (t' : Tree) : Prop where
  size : t'.size = t.size
  parent : ∀ x, t'.parent? x = if x = c then some p else t.parent? x
  prev : ∀ x, t'.prevSibling? x = if x = c then t.lastChild? p else t.prevSibling? x
  next : ∀ x, t'.nextSibling? x = if t.lastChild? p = some x then some c else t.nextSibling? x
  first : ∀ x, t'.firstChild? x =
    if x = p ∧ t.lastChild? p = none then some c else t.firstChild? x
  last : ∀ x, t'.lastChild? x = if x = p then some c else t.lastChild? x

theorem hung_hang (hlast : ∀ x, t.lastChild? p = some x → x < t.size) (hp : p < t.size)
    (hc : c < t.size) : t.Hung p c (t.hang p c) := by
  generalize hl : t.lastChild? p = last at hlast
  constructor
  · cases last <;> simp [hang, hl]
  all_goals
    intro x
    rw [hang, hl]
    cases last <;> simp only [Option.some.injEq, forall_eq', reduceCtorEq] at hlast <;>
      simp [parent?, prevSibling?, nextSibling?, firstChild?, lastChild?, link_modify_of_eq,
        link_modify_of_const, hc, hp, hlast] <;>
      grind

/-- A member of a list and one element behind it stands in the list or is that element. -/
theorem split_concat {l u v : List NodeId} (h : l ++ [c] = u ++ x :: v) :
    (∃ m, l = u ++ x :: m ∧ v = m ++ [c]) ∨ (u = l ∧ x = c ∧ v = []) := by
  rcases split_append h with hl | ⟨m, hm, rfl⟩
  · exact Or.inl hl
  · cases m with
    | nil =>
      rw [List.nil_append, List.cons.injEq] at hm
      exact Or.inr ⟨by simp, hm.1.symm, hm.2.symm⟩
    | cons first m => simp at hm

namespace Hung

variable {t' : Tree} {u v : List NodeId}

theorem parent?_eq_some_iff (h : t.LinkedBy kids) (hc : t.parent? c = none)
    (hh : t.Hung p c t') :
    t'.parent? x = some q ↔ x ∈ if q = p then kids q ++ [c] else kids q := by
  have hfree := h.not_mem_of_parent?_eq_none (q := q) hc
  rw [hh.parent x]
  by_cases hx : x = c
  · subst hx
    by_cases hq : q = p
    · simp [hq]
    · simp [hq, hfree, Ne.symm hq]
  · by_cases hq : q = p <;> simp [hx, hq, h.parent]

theorem nodup (h : t.LinkedBy kids) (hc : t.parent? c = none) :
    (if q = p then kids q ++ [c] else kids q).Nodup := by
  by_cases hq : q = p
  · rw [if_pos hq, List.nodup_append]
    refine ⟨h.nodup q, by simp, ?_⟩
    intro x hx y hy heq
    rw [heq, List.mem_singleton.mp hy] at hx
    exact h.not_mem_of_parent?_eq_none hc hx
  · rw [if_neg hq]
    exact h.nodup q

theorem nextSibling?_eq (h : t.LinkedBy kids) (hc : t.parent? c = none) (hh : t.Hung p c t')
    (hq : (if q = p then kids q ++ [c] else kids q) = u ++ x :: v) :
    t'.nextSibling? x = v.head? := by
  rw [hh.next x, h.last p]
  by_cases hqp : q = p
  · subst hqp
    rw [if_pos rfl] at hq
    rcases split_concat hq with ⟨m, hm, rfl⟩ | ⟨-, rfl, rfl⟩
    · rw [h.next q u x m hm]
      cases m with
      | nil => simp [hm]
      | cons first m =>
        have hnodup := h.nodup q
        rw [hm] at hnodup ⊢
        rw [if_neg (getLast?_ne_of_nodup hnodup)]
        rfl
    · have hx : (kids q).getLast? ≠ some x := fun hlast =>
        h.not_mem_of_parent?_eq_none hc (List.mem_of_getLast? hlast)
      rw [if_neg hx, (h.single x hc).2]
      rfl
  · rw [if_neg hqp] at hq
    have hx : (kids p).getLast? ≠ some x := by
      intro hlast
      have hxp := (h.parent p x).mpr (List.mem_of_getLast? hlast)
      exact h.not_mem_of_ne hxp hqp (by simp [hq])
    rw [if_neg hx, h.next q u x v hq]

theorem prevSibling?_eq (h : t.LinkedBy kids) (hc : t.parent? c = none) (hh : t.Hung p c t')
    (hq : (if q = p then kids q ++ [c] else kids q) = u ++ x :: v) :
    t'.prevSibling? x = u.getLast? := by
  have hne : x ∈ kids q → x ≠ c := fun hx heq => h.not_mem_of_parent?_eq_none hc (heq ▸ hx)
  rw [hh.prev x, h.last p]
  by_cases hqp : q = p
  · subst hqp
    rw [if_pos rfl] at hq
    rcases split_concat hq with ⟨m, hm, rfl⟩ | ⟨rfl, rfl, rfl⟩
    · rw [if_neg (hne (by simp [hm])), h.prev q u x m hm]
    · rw [if_pos rfl]
  · rw [if_neg hqp] at hq
    rw [if_neg (hne (by simp [hq])), h.prev q u x v hq]

theorem single (h : t.LinkedBy kids) (hh : t.Hung p c t') (hx : t'.parent? x = none) :
    t'.prevSibling? x = none ∧ t'.nextSibling? x = none := by
  rw [hh.parent x] at hx
  rw [hh.prev x, hh.next x]
  by_cases hxc : x = c
  · simp [hxc] at hx
  · simp only [hxc, ↓reduceIte] at hx ⊢
    have hne : (kids p).getLast? ≠ some x := fun hlast => by
      simp [(h.parent p x).mpr (List.mem_of_getLast? hlast)] at hx
    rw [h.last p, if_neg hne]
    exact h.single x hx

/-- Hanging a node behind the children of `p` puts it at the end of their list. -/
theorem linkedBy (h : t.LinkedBy kids) (hc : t.parent? c = none) (hh : t.Hung p c t') :
    t'.LinkedBy fun q => if q = p then kids q ++ [c] else kids q where
  first q := by
    rw [hh.first q, h.first q, h.last p]
    by_cases hq : q = p
    · subst hq
      cases kids q <;> simp [List.getLast?_cons]
    · simp [hq]
  last q := by
    rw [hh.last q, h.last q]
    by_cases hq : q = p <;> simp [hq]
  parent _ _ := hh.parent?_eq_some_iff h hc
  nodup _ := nodup h hc
  next _ _ _ _ hq := hh.nextSibling?_eq h hc hq
  prev _ _ _ _ hq := hh.prevSibling?_eq h hc hq
  single _ hx := hh.single h hx

end Hung

@[simp] theorem size_append : (t.append p c).size = t.size := by
  rw [append]
  split
  · rfl
  · cases hlast : (t.detach c).lastChild? p <;> simp [hlast]

theorem LinkedBy.hung_append (h : t.LinkedBy kids) (hp : p < t.size) (hc : c < t.size) :
    (t.detach c).Hung p c (t.append p c) := by
  rw [append_eq hp hc]
  refine hung_hang ?_ (by simpa using hp) (by simpa using hc)
  intro x hx
  rw [h.detach.last p] at hx
  exact h.detach.lt_of_mem (List.mem_of_getLast? hx)

theorem LinkedBy.append (h : t.LinkedBy kids) (hp : p < t.size) (hc : c < t.size) :
    (t.append p c).LinkedBy fun q =>
      if q = p then (kids q).erase c ++ [c] else (kids q).erase c :=
  (h.hung_append hp hc).linkedBy h.detach (by simp [h.parent?_detach])

theorem LinkedBy.parent?_append (h : t.LinkedBy kids) (hp : p < t.size) (hc : c < t.size) :
    (t.append p c).parent? x = if x = c then some p else t.parent? x := by
  rw [(h.hung_append hp hc).parent x, h.parent?_detach]
  by_cases hx : x = c <;> simp [hx]

/-! ## New nodes and changed contents -/

theorem LinkedBy.push (h : t.LinkedBy kids) (data : NodeData) :
    (t.push data).1.LinkedBy kids := by
  have hnew : t.get? t.size = none := get?_eq_none_iff.mpr (Nat.le_refl _)
  have hlink : ∀ (link : Node → Option NodeId) x, link (.ofData data) = none →
      ((t.push data).1.get? x).bind link = (t.get? x).bind link := by
    intro link x hl
    rw [get?_push]
    by_cases hx : x = t.size
    · simp [hx, hl, hnew]
    · simp [hx]
  constructor
  · exact fun p => (hlink _ p rfl).trans (h.first p)
  · exact fun p => (hlink _ p rfl).trans (h.last p)
  · intro p c
    rw [← h.parent p c]
    exact Eq.congr_left (hlink _ c rfl)
  · exact h.nodup
  · exact fun p l c r hk => (hlink _ c rfl).trans (h.next p l c r hk)
  · exact fun p l c r hk => (hlink _ c rfl).trans (h.prev p l c r hk)
  · intro c hc
    have hpair := h.single c ((hlink _ c rfl).symm.trans hc)
    exact ⟨(hlink _ c rfl).trans hpair.1, (hlink _ c rfl).trans hpair.2⟩

/-- A change that keeps every link of the nodes it is made on. -/
structure KeepsLinks (f : Node → Node) : Prop where
  parent : ∀ n, (f n).parent = n.parent
  first : ∀ n, (f n).firstChild = n.firstChild
  last : ∀ n, (f n).lastChild = n.lastChild
  prev : ∀ n, (f n).prevSibling = n.prevSibling
  next : ∀ n, (f n).nextSibling = n.nextSibling

theorem LinkedBy.modify (h : t.LinkedBy kids) {f : Node → Node} (hf : KeepsLinks f) :
    (t.modify c f).LinkedBy kids := by
  constructor
  · exact fun p => (link_modify_of_eq _ f hf.first).trans (h.first p)
  · exact fun p => (link_modify_of_eq _ f hf.last).trans (h.last p)
  · intro p x
    rw [← h.parent p x]
    exact Eq.congr_left (link_modify_of_eq _ f hf.parent)
  · exact h.nodup
  · exact fun p l x r hk => (link_modify_of_eq _ f hf.next).trans (h.next p l x r hk)
  · exact fun p l x r hk => (link_modify_of_eq _ f hf.prev).trans (h.prev p l x r hk)
  · intro x hx
    have hpair := h.single x ((link_modify_of_eq _ f hf.parent).symm.trans hx)
    exact ⟨(link_modify_of_eq _ f hf.prev).trans hpair.1,
      (link_modify_of_eq _ f hf.next).trans hpair.2⟩

theorem linkedBy_empty : Tree.empty.LinkedBy fun _ => [] := by
  have hlink : ∀ (link : Node → Option NodeId) x, link (.ofData .document) = none →
      (Tree.empty.get? x).bind link = none := by
    intro link x hl
    cases x <;> simp [get?, empty, hl]
  constructor
  · exact fun p => hlink _ p rfl
  · exact fun p => hlink _ p rfl
  · intro p c
    simp only [List.not_mem_nil, iff_false]
    intro hp
    cases (hlink Node.parent c rfl).symm.trans hp
  · exact fun _ => List.nodup_nil
  · intro p l c r hk
    simp at hk
  · intro p l c r hk
    simp at hk
  · exact fun c _ => ⟨hlink _ c rfl, hlink _ c rfl⟩

end Topiary.Tree
