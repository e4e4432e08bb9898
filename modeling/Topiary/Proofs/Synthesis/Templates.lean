import Mathlib.Tactic.SplitIfs
import Topiary.Proofs.Tree.Replace
import Topiary.Synthesis.Materialize

/-!
Templates and their copies. A template is a new element that hangs nowhere; the copies that are
attached to the parents are elements like it, each marked with its place among its fellows.
-/

namespace Topiary.Tree

variable {t t' : Tree} {c x : NodeId} {e : Element}

theorem data?_modifyElement_self (f : Element → Element) (h : t.data? c = some (.element e)) :
    (t.modifyElement c f).data? c = some (.element (f e)) := by
  rw [data?] at h ⊢
  obtain ⟨node, hnode, hdata⟩ := Option.map_eq_some_iff.mp h
  rw [Tree.modifyElement, get?_modify, if_pos rfl, hnode, Option.map_some, Option.map_some, hdata]

theorem data?_modifyElement_of_ne (f : Element → Element) (h : x ≠ c) :
    (t.modifyElement c f).data? x = t.data? x :=
  data?_modifyElement f fun hx => absurd hx h

theorem isElement_modifyElement (f : Element → Element) :
    (t.modifyElement c f).isElement x = t.isElement x := by
  rw [isElement, isElement, element?_modifyElement]
  split
  · cases t.element? x <;> rfl
  · rfl

theorem Leaf.modifyElement (h : t.Leaf c e) (ht : t.Linked) (f : Element → Element) :
    (t.modifyElement c f).Leaf c (f e) where
  data := data?_modifyElement_self f h.data
  childless := by
    intro k hk
    rw [ht.children_modifyElement] at hk
    rw [isElement_modifyElement, ht.children_modifyElement]
    exact h.childless k hk

theorem Leaf.held_modifyElement (h : t.Leaf c e) (ht : t.Linked) (f : Element → Element) :
    (t.modifyElement c f).held c = t.held c := by
  rw [held, held, ht.children_modifyElement]
  refine List.map_congr_left fun k hk => data?_modifyElement f fun _ => ?_
  simpa [Tree.isElement] using (h.childless k hk).1

theorem size_foldl_modifyElement {α : Type} (change : α → Element → Element) (l : List α) :
    (l.foldl (fun t a => t.modifyElement c (change a)) t).size = t.size := by
  induction l generalizing t with
  | nil => rfl
  | cons a l ih => exact ih.trans (size_modifyElement _)

theorem Intact.modifyElement (h : t.Intact t') (ht' : t'.Linked) (hc : t.size ≤ c)
    (f : Element → Element) : t.Intact (t'.modifyElement c f) where
  size_le := by rw [size_modifyElement]; exact h.size_le
  data x hx := by
    have hne : x ≠ c := Nat.ne_of_lt (Nat.lt_of_lt_of_le hx hc)
    rw [data?_modifyElement_of_ne f hne, h.data x hx]
  parent x hx := by rw [parent?_modifyElement, h.parent x hx]
  children x hx := by rw [ht'.children_modifyElement, h.children x hx]

end Topiary.Tree

namespace Topiary.Synthesis

open Topiary.Tree

variable {t t' : Tree} {e : Element} {template p : NodeId} {parents : List NodeId} {count : Nat}
  {payload : Payload}

/-- The element that a blueprint describes, before it has classes and attributes. -/
def Blueprint.named (b : Blueprint) : Element :=
  match b.id with
  | some id => (Element.ofTag b.tag).setAttribute "id" id
  | none => Element.ofTag b.tag

/-- The element that a blueprint describes. -/
def Blueprint.element (b : Blueprint) : Element :=
  b.attributes.entries.foldl (fun e a => e.setAttribute a.name a.value)
    (b.classes.names.foldl Element.addClass b.named)

theorem correlation_foldl {α : Type} {change : Element → α → Element}
    (hchange : ∀ e a, (change e a).correlation = e.correlation) (l : List α) (e : Element) :
    (l.foldl change e).correlation = e.correlation := by
  induction l generalizing e with
  | nil => rfl
  | cons a l ih => rw [List.foldl_cons, ih, hchange]

theorem Blueprint.correlation_element (b : Blueprint) : b.element.correlation = none := by
  have hattribute : ∀ (e : Element) (a : Attribute),
      (e.setAttribute a.name a.value).correlation = e.correlation := fun _ _ => rfl
  have hclass : ∀ (e : Element) name, (e.addClass name).correlation = e.correlation :=
    fun _ _ => rfl
  rw [element, correlation_foldl hattribute, correlation_foldl hclass, named]
  cases b.id <;> rfl

/-- The second tree is the first with a new element at its end, which hangs nowhere and has no
element below it. -/
structure Template (t t' : Tree) (e : Element) : Prop where
  rooted : t'.Rooted
  intact : t.Intact t'
  free : t'.parent? t.size = none
  leaf : t'.Leaf t.size e

namespace Template

theorem modifyElement (h : Template t t' e) (f : Element → Element) :
    Template t (t'.modifyElement t.size f) (f e) where
  rooted := h.rooted.modifyElement f
  intact := h.intact.modifyElement h.rooted.linked (Nat.le_refl _) f
  free := (parent?_modifyElement f).trans h.free
  leaf := h.leaf.modifyElement h.rooted.linked f

theorem foldl {α : Type} (change : α → Element → Element) (l : List α) (h : Template t t' e)
    (hbare : t'.children t.size = []) :
    Template t (l.foldl (fun t' a => t'.modifyElement t.size (change a)) t')
      (l.foldl (fun e a => change a e) e) ∧
      (l.foldl (fun t' a => t'.modifyElement t.size (change a)) t').children t.size = [] := by
  induction l generalizing t' e with
  | nil => exact ⟨h, hbare⟩
  | cons a l ih =>
    refine ih (h.modifyElement (change a)) ?_
    rw [h.rooted.linked.children_modifyElement, hbare]

theorem createElement (ht : t.Rooted) (tag : String) :
    Template t (t.createElement tag).1 (Element.ofTag tag) ∧
      (t.createElement tag).1.children t.size = [] := by
  have hbare : (t.createElement tag).1.children t.size = [] :=
    (ht.linked.children_push _).trans (ht.linked.children_eq_nil (Nat.le_refl _))
  refine ⟨⟨ht.push _, .push ht.linked _, ?_, ?_, ?_⟩, hbare⟩
  · rw [Tree.createElement, parent?_push, parent?, get?_eq_none_iff.mpr (Nat.le_refl _)]
    rfl
  · rw [Tree.createElement, data?_push, if_pos rfl]
  · rw [hbare]
    simp

/-- Building a blueprint makes a template of the element it describes. -/
theorem build (ht : t.Rooted) (b : Blueprint) : (b.build t).2 = t.size ∧
    Template t (b.build t).1 b.element ∧ (b.build t).1.children t.size = [] := by
  obtain ⟨hmade, hbare⟩ := createElement ht b.tag
  have hnamed : Template t (match b.id with
        | some id => (t.createElement b.tag).1.setId t.size id
        | none => (t.createElement b.tag).1) b.named ∧
      (match b.id with
        | some id => (t.createElement b.tag).1.setId t.size id
        | none => (t.createElement b.tag).1).children t.size = [] := by
    rw [Blueprint.named]
    cases b.id with
    | none => exact ⟨hmade, hbare⟩
    | some id =>
      exact ⟨hmade.modifyElement _, (hmade.rooted.linked.children_modifyElement _).trans hbare⟩
  obtain ⟨hclassed, hbare'⟩ :=
    hnamed.1.foldl (fun name e => e.addClass name) b.classes.names hnamed.2
  exact ⟨rfl, hclassed.foldl (fun (a : Attribute) e => e.setAttribute a.name a.value)
    b.attributes.entries hbare'⟩

theorem size_build (t : Tree) (b : Blueprint) : (b.build t).1.size = t.size + 1 := by
  have hnamed : (match b.id with
      | some id => (t.createElement b.tag).1.setId t.size id
      | none => (t.createElement b.tag).1).size = t.size + 1 := by
    cases b.id with
    | none => exact size_push _
    | some id => exact (size_modifyElement _).trans (size_push _)
  refine (size_foldl_modifyElement
    (fun (a : Attribute) e => e.setAttribute a.name a.value) _).trans ?_
  exact (size_foldl_modifyElement (fun name e => e.addClass name) _).trans hnamed

/-- A new node that is no element goes below a template. -/
theorem hang (h : Template t t' e) (hbare : t'.children t.size = []) {data : NodeData}
    (hdata : elementOf data = none) :
    Template t ((t'.push data).1.append t.size t'.size) e := by
  have hpush := h.rooted.push data
  have hfree : (t'.push data).1.parent? t'.size = none := by
    rw [parent?_push, parent?, get?_eq_none_iff.mpr (Nat.le_refl _)]
    rfl
  have hlt : t.size < (t'.push data).1.size := by
    rw [size_push]
    exact Nat.lt_succ_of_lt h.leaf.lt_size
  have hlast : t'.size < (t'.push data).1.size := by
    rw [size_push]
    exact Nat.lt_succ_self _
  have hintact : t.Intact (t'.push data).1 := h.intact.trans (.push h.rooted.linked _)
  refine ⟨hpush.append (Nat.ne_of_gt h.rooted.size_pos),
    hintact.append hpush.linked (Nat.le_refl _) h.intact.size_le hfree, ?_, ?_, ?_⟩
  · rw [hpush.linked.parent?_append hlt hlast, if_neg (Nat.ne_of_lt h.leaf.lt_size), parent?_push,
      h.free]
  · rw [data?_append, data?_push, if_neg (Nat.ne_of_lt h.leaf.lt_size)]
    exact h.leaf.data
  · have hnot : ((t'.push data).1.append t.size t'.size).isElement t'.size = false := by
      rw [isElement_eq data?_append, isElement, element?_eq, data?_push, if_pos rfl]
      simp [hdata]
    have hkids : ((t'.push data).1.append t.size t'.size).children t.size = [t'.size] := by
      rw [hpush.linked.children_append_of_free hlt hlast hfree, if_pos rfl,
        h.rooted.linked.children_push, hbare]
      rfl
    have hchildless : ((t'.push data).1.append t.size t'.size).children t'.size = [] := by
      have hne : t'.size ≠ t.size := Nat.ne_of_gt h.leaf.lt_size
      rw [hpush.linked.children_append_of_free hlt hlast hfree, if_neg hne,
        h.rooted.linked.children_push, h.rooted.linked.children_eq_nil (Nat.le_refl _)]
    rw [hkids]
    simp [hnot, hchildless]

theorem setTextContent (h : Template t t' e) (hbare : t'.children t.size = []) (content : String) :
    Template t (t'.setTextContent t.size content) e := by
  have hdata : (t'.get? t.size).map Node.data = some (.element e) := h.leaf.data
  rw [Tree.setTextContent, hdata]
  simp only [removeChildren_of_nil h.rooted.linked hbare]
  split
  · exact h
  · exact h.hang hbare rfl

end Template

end Topiary.Synthesis
