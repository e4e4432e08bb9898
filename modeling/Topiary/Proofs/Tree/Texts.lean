import Topiary.Proofs.Tree.Consistency
import Topiary.Proofs.Tree.Replace
import Topiary.Proofs.Tree.Traversal

/-!
Setting and reading texts. What is set as the text of a node is read back as its text, except from a
comment: its own text stays, and the new text is hung below it, where it is not read.
-/

namespace Topiary.Tree

variable {t : Tree} {x k : NodeId} {content : String}

theorem ownText_of_text (h : t.data? x = some (.text content)) : t.ownText x = content := by
  rw [ownText, ← data?, h]

/-- The text of a node whose contents are no text of its own. -/
theorem textContent_of_not_text (htext : ∀ old, t.data? x ≠ some (.text old))
    (hcomment : ∀ old, t.data? x ≠ some (.comment old)) :
    t.textContent x = String.join ((t.descendants x).map t.ownText) := by
  rw [textContent, ← data?]
  split
  · rename_i old hold
    exact absurd hold (htext old)
  · rename_i old hold
    exact absurd hold (hcomment old)
  · rfl

/-! ## Walks below nodes with at most one child -/

theorem Linked.descendants_of_nil (h : t.Linked) (hk : t.children x = []) :
    t.descendants x = [] := by
  rw [descendants, h.first x, hk, List.head?_nil]
  cases t.size <;> rfl

/-- Behind a child without siblings the walk has nowhere to go. -/
theorem Linked.following?_eq_none (h : t.Linked) (hk : t.children x = [k])
    (hleaf : t.children k = []) : t.following? x k = none := by
  have hparent : t.parent? k = some x := h.mem_children.mp (by simp [hk])
  have hnext : t.nextSibling? k = none := h.next x [] k [] hk
  have hne : k ≠ x := by
    rintro rfl
    simp [hk] at hleaf
  obtain ⟨node, hnode, hup⟩ := Option.bind_eq_some_iff.mp hparent
  rw [nextSibling?, hnode, Option.bind_some] at hnext
  rw [following?, h.first k, hleaf, List.head?_nil]
  simp only
  rw [climb, if_neg hne, hnode]
  simp only [hnext, hup]
  cases t.size with
  | zero => rfl
  | succ n => rw [climb, if_pos rfl]

theorem Linked.descendants_of_leaf (h : t.Linked) (hk : t.children x = [k])
    (hleaf : t.children k = []) : t.descendants x = [k] := by
  have hlt : k < t.size := (h.lt_of_mem_children (p := x) (by simp [hk])).1
  obtain ⟨node, hnode⟩ := exists_get? hlt
  obtain ⟨n, hn⟩ := Nat.exists_eq_succ_of_ne_zero (Nat.ne_zero_of_lt hlt)
  rw [descendants, h.first x, hk, List.head?_cons, hn, walk, hnode]
  simp only [h.following?_eq_none hk hleaf]
  cases n <;> rfl

/-! ## Setting -/

theorem textContent_setTextContent_of_text {old : String} (h : t.data? x = some (.text old)) :
    (t.setTextContent x content).textContent x = content := by
  have hset : t.setTextContent x content =
      t.modify x fun n => { n with data := .text content } := by
    rw [setTextContent, ← data?, h]
  have hdata : (t.setTextContent x content).data? x = some (.text content) := by
    obtain ⟨node, hnode, -⟩ := Option.map_eq_some_iff.mp h
    rw [hset, data?, get?_modify, if_pos rfl, hnode]
    rfl
  rw [textContent, ← data?, hdata]

/-- Setting the text of a node that is no text leaves the node itself as it was. -/
theorem data?_setTextContent_self (hx : x < t.size) (htext : ∀ old, t.data? x ≠ some (.text old)) :
    (t.setTextContent x content).data? x = t.data? x := by
  cases hcontent : content.isEmpty with
  | true => rw [setTextContent_of_not_text htext, if_pos hcontent, data?_removeChildren]
  | false => rw [data?_setTextContent htext hcontent, if_neg (Nat.ne_of_lt hx)]

/-- A comment keeps its own text. -/
theorem textContent_setTextContent_of_comment {old : String} (hx : x < t.size)
    (h : t.data? x = some (.comment old)) : (t.setTextContent x content).textContent x = old := by
  rw [textContent, ← data?, data?_setTextContent_self hx (by simp [h]), h]

/-- The texts below a node whose text has been set make up the text that was set. -/
theorem Linked.texts_setTextContent (h : t.Linked) (hx : x < t.size)
    (htext : ∀ old, t.data? x ≠ some (.text old)) :
    String.join (((t.setTextContent x content).descendants x).map
      (t.setTextContent x content).ownText) = content := by
  have hset : (t.setTextContent x content).Linked := h.setTextContent content
  cases hcontent : content.isEmpty with
  | true =>
    have hnone : (t.setTextContent x content).children x = [] := by
      rw [setTextContent_of_not_text htext, if_pos hcontent, h.children_removeChildren, if_pos rfl]
    rw [hset.descendants_of_nil hnone, String.isEmpty_iff.mp hcontent]
    rfl
  | false =>
    have hkids : (t.setTextContent x content).children x = [t.size] := by
      rw [h.children_setTextContent hx htext hcontent, if_pos rfl]
    have hleaf : (t.setTextContent x content).children t.size = [] := by
      rw [h.children_setTextContent hx htext hcontent, if_neg (Nat.ne_of_gt hx),
        h.children_eq_nil (Nat.le_refl _)]
    have hdata : (t.setTextContent x content).data? t.size = some (.text content) := by
      rw [data?_setTextContent htext hcontent, if_pos rfl]
    rw [hset.descendants_of_leaf hkids hleaf]
    simp [ownText_of_text hdata]

theorem Linked.textContent_setTextContent (h : t.Linked) (hx : x < t.size)
    (hcomment : ∀ old, t.data? x ≠ some (.comment old)) :
    (t.setTextContent x content).textContent x = content := by
  by_cases htext : ∃ old, t.data? x = some (.text old)
  · obtain ⟨old, hold⟩ := htext
    exact textContent_setTextContent_of_text hold
  · have hnot : ∀ old, t.data? x ≠ some (.text old) := not_exists.mp htext
    have hdata : (t.setTextContent x content).data? x = t.data? x :=
      data?_setTextContent_self hx hnot
    rw [textContent_of_not_text (by simpa only [hdata] using hnot)
      (by simpa only [hdata] using hcomment)]
    exact h.texts_setTextContent hx hnot

/-- In a consistent tree, what is set as the text of a node is read back as its text, unless the
node is a comment with another text: a comment reads as it did before. -/
theorem textContent_setTextContent_iff (h : t.Consistent) (hx : x < t.size) :
    (t.setTextContent x content).textContent x = content ↔
      ∀ old, t.data? x = some (.comment old) → old = content := by
  by_cases hcomment : ∃ old, t.data? x = some (.comment old)
  · obtain ⟨old, hold⟩ := hcomment
    rw [textContent_setTextContent_of_comment hx hold]
    constructor
    · rintro rfl other hother
      rw [hold] at hother
      injection hother with hsame
      injection hsame with hsame
      exact hsame.symm
    · exact fun hall => hall old hold
  · have hnot : ∀ old, t.data? x ≠ some (.comment old) := not_exists.mp hcomment
    exact ⟨fun _ old hold => absurd hold (hnot old), fun _ =>
      h.linked.textContent_setTextContent hx hnot⟩

/-- An element with a text and an empty element below it, and a comment. -/
def notedTree : Tree :=
  ofMutations [.createElement "p", .createText "a", .createElement "b", .createComment "c",
    .append root 1, .append 1 2, .append 1 3, .append root 4]

theorem textContent_setTextContent_iff_notedTree :
    notedTree.Consistent ∧ 1 < notedTree.size ∧
      ((notedTree.setTextContent 1 "d").textContent 1 = "d" ↔
        ∀ old, notedTree.data? 1 = some (.comment old) → old = "d") :=
  have hconsistent : notedTree.Consistent := consistent_ofMutations _
  ⟨hconsistent, by decide, textContent_setTextContent_iff hconsistent (by decide)⟩

theorem ends_notedTree (y : NodeId) : notedTree.Ends y := by
  have hroot : notedTree.Ends 0 := .top (by decide)
  have hp : notedTree.Ends 1 := .child (p := 0) (by decide) hroot
  rcases y with _ | _ | _ | _ | _ | n
  · exact hroot
  · exact hp
  · exact .child (p := 1) (by decide) hp
  · exact .child (p := 1) (by decide) hp
  · exact .child (p := 0) (by decide) hroot
  · have hsize : notedTree.size = 5 := by decide
    refine .top ?_
    rw [parent?, get?_eq_none_iff.mpr (by omega)]
    rfl

/-- A comment does not read as the text that it was set to. -/
theorem not_textContent_setTextContent_of_comment :
    ¬ ∀ (t : Tree) (x : NodeId) (content : String), t.Consistent → (∀ y, t.Ends y) →
      x < t.size → (t.setTextContent x content).textContent x = content := by
  intro hall
  have hread := hall notedTree 4 "d" (consistent_ofMutations _) ends_notedTree (by decide)
  have hkept : (notedTree.setTextContent 4 "d").textContent 4 = "c" :=
    textContent_setTextContent_of_comment (by decide) (by decide)
  rw [hkept] at hread
  exact absurd hread (by decide)

end Topiary.Tree
