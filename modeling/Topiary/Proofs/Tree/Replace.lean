import Topiary.Proofs.Tree.Consistency
import Topiary.Proofs.Tree.Growth

/-!
Replacing what is below a node. Taking the children of a node away, or putting one text in their
place, changes one list of children and nothing else.
-/

namespace Topiary.Tree

variable {t t' : Tree} {p c x : NodeId} {content : String} {count : Nat}

/-! ## Taking children away -/

theorem Linked.children_detachFirst (h : t.Linked) (count : Nat) :
    (t.detachFirst c count).children x =
      if x = c then (t.children x).drop count else t.children x := by
  induction count generalizing t with
  | zero => rw [Tree.detachFirst, List.drop_zero, ite_self]
  | succ count ih =>
    rw [Tree.detachFirst]
    have hfirst := LinkedBy.first h c
    cases hk : t.children c with
    | nil =>
      rw [hk, List.head?_nil] at hfirst
      rw [hfirst]
      by_cases hx : x = c
      · rw [if_pos hx, hx, hk, List.drop_nil]
      · rw [if_neg hx]
    | cons k rest =>
      rw [hk, List.head?_cons] at hfirst
      rw [hfirst]
      simp only
      have hparent : t.parent? k = some c := h.mem_children.mp (by simp [hk])
      rw [ih h.detach, h.children_detach]
      by_cases hx : x = c
      · rw [if_pos hx, if_pos hx, hx, hk, List.erase_cons_head, List.drop_succ_cons]
      · have hnot : k ∉ t.children x := LinkedBy.not_mem_of_ne h hparent hx
        rw [if_neg hx, if_neg hx, List.erase_of_not_mem hnot]

theorem data?_detachFirst : (t.detachFirst c count).data? x = t.data? x := by
  induction count generalizing t with
  | zero => rfl
  | succ count ih =>
    rw [detachFirst]
    split
    · rfl
    · rw [ih, data?_detach]

theorem size_detachFirst : (t.detachFirst c count).size = t.size := by
  induction count generalizing t with
  | zero => rfl
  | succ count ih =>
    rw [detachFirst]
    split
    · rfl
    · rw [ih, size_detach]

theorem removeChildren_of_nil (ht : t.Linked) (h : t.children c = []) :
    t.removeChildren c = t := by
  have hfirst : t.firstChild? c = none := by
    rw [ht.first c, h]
    rfl
  rw [removeChildren]
  cases t.size with
  | zero => rfl
  | succ n => rw [detachFirst, hfirst]

theorem size_removeChildren : (t.removeChildren c).size = t.size :=
  size_detachFirst

theorem data?_removeChildren : (t.removeChildren c).data? x = t.data? x :=
  data?_detachFirst

theorem Rooted.removeChildren (ht : t.Rooted) : (t.removeChildren c).Rooted :=
  ht.detachFirst _

/-- Every child of the node goes, and no other list of children changes. -/
theorem Linked.children_removeChildren (h : t.Linked) :
    (t.removeChildren c).children x = if x = c then [] else t.children x := by
  have hlength : (t.children x).length ≤ t.size :=
    length_le_size h.nodup_children fun k hk => (h.lt_of_mem_children hk).1
  rw [removeChildren, h.children_detachFirst, List.drop_of_length_le hlength]

/-! ## One text in place of the children -/

/-- Setting the text of a node that is no text itself takes its children away and hangs a new text
below it, unless there is nothing to hang. -/
theorem setTextContent_of_not_text (htext : ∀ old, t.data? c ≠ some (.text old)) :
    t.setTextContent c content =
      if content.isEmpty then t.removeChildren c
      else ((t.removeChildren c).push (.text content)).1.append c t.size := by
  rw [setTextContent, ← data?]
  split
  · rename_i old hold
    exact absurd hold (htext old)
  · rw [← size_removeChildren (c := c)]
    rfl

theorem data?_setTextContent (htext : ∀ old, t.data? c ≠ some (.text old))
    (hcontent : content.isEmpty = false) :
    (t.setTextContent c content).data? x =
      if x = t.size then some (.text content) else t.data? x := by
  rw [setTextContent_of_not_text htext, if_neg (by simp [hcontent]), data?_append, data?_push,
    size_removeChildren, data?_removeChildren]

theorem Linked.children_setTextContent (h : t.Linked) (hc : c < t.size)
    (htext : ∀ old, t.data? c ≠ some (.text old)) (hcontent : content.isEmpty = false) :
    (t.setTextContent c content).children x = if x = c then [t.size] else t.children x := by
  have hbare : (t.removeChildren c).Linked := h.detachFirst _
  have hsize : (t.removeChildren c).size = t.size := size_removeChildren
  have hnew : t.size < ((t.removeChildren c).push (.text content)).1.size := by
    rw [size_push, hsize]
    exact Nat.lt_succ_self _
  have hfree : ((t.removeChildren c).push (.text content)).1.parent? t.size = none := by
    rw [parent?_push, parent?, get?_eq_none_iff.mpr (Nat.le_of_eq hsize)]
    rfl
  rw [setTextContent_of_not_text htext, if_neg (by simp [hcontent]),
    (hbare.push _).children_append_of_free (Nat.lt_trans hc hnew) hnew hfree, hbare.children_push,
    h.children_removeChildren]
  by_cases hx : x = c <;> simp [hx]

/-- The second tree is the first with one new text in place of the children of `c`. -/
structure Replaced (t : Tree) (c : NodeId) (content : String) (t' : Tree) : Prop where
  rooted : t'.Rooted
  size : t'.size = t.size + 1
  data : ∀ x < t.size, t'.data? x = t.data? x
  text : t'.data? t.size = some (.text content)
  children : ∀ x, t'.children x = if x = c then [t.size] else t.children x

theorem not_text_of_isElement (hc : t.isElement c = true) (old : String) :
    t.data? c ≠ some (.text old) := by
  intro hold
  obtain ⟨e, he⟩ := Option.isSome_iff_exists.mp hc
  rw [element?_eq, hold] at he
  cases he

theorem setTextContent_of_isElement (hc : t.isElement c = true)
    (hcontent : content.isEmpty = false) : t.setTextContent c content =
      ((t.removeChildren c).push (.text content)).1.append c t.size := by
  rw [setTextContent_of_not_text (not_text_of_isElement hc), if_neg (by simp [hcontent])]

theorem Rooted.replaced_setTextContent (ht : t.Rooted) (hc : t.isElement c = true)
    (hcontent : content.isEmpty = false) : t.Replaced c content (t.setTextContent c content) := by
  have hlt : c < t.size := lt_size_of_isElement hc
  have htext := not_text_of_isElement hc
  constructor
  · exact ht.setTextContent content
  · rw [setTextContent_of_isElement hc hcontent, size_append, size_push, size_removeChildren]
  · intro x hx
    rw [data?_setTextContent htext hcontent, if_neg (Nat.ne_of_lt hx)]
  · rw [data?_setTextContent htext hcontent, if_pos rfl]
  · exact fun x => ht.linked.children_setTextContent hlt htext hcontent

/-- Taking the children away before the text is set makes no difference. -/
theorem Rooted.setTextContent_removeChildren (ht : t.Rooted) (hc : t.isElement c = true)
    (hcontent : content.isEmpty = false) :
    (t.removeChildren c).setTextContent c content = t.setTextContent c content := by
  have hc' : (t.removeChildren c).isElement c = true :=
    (isElement_eq data?_removeChildren).trans hc
  have hnone : (t.removeChildren c).children c = [] := by
    rw [ht.linked.children_removeChildren, if_pos rfl]
  rw [setTextContent_of_isElement hc hcontent, setTextContent_of_isElement hc' hcontent,
    removeChildren_of_nil ht.removeChildren.linked hnone, size_removeChildren]

end Topiary.Tree
