import Topiary.Proofs.Query.Growing
import Topiary.Proofs.Synthesis.Attach

/-!
New elements among their siblings. Where every parent gets one copy only, the copy stands behind all
elements that the parent had; as long as copies go below such parents or below nodes without
elements of their own, no new element has another element behind it.
-/

namespace Topiary.Synthesis

open Topiary.Tree Topiary.Query

variable {t t' t1 t2 : Tree} {e : Element} {count : Nat} {parents context : List NodeId}
  {fresh : NodeId → List NodeId} {p x y : NodeId}

namespace Walk

/-- A new connected node is a copy or hangs below one. -/
theorem Attached.connected_new (h : Attached t t' e count parents fresh) (ht : t.Rooted)
    (hx : t'.Connected x) (hnew : t.size ≤ x) :
    (∃ p, p < t.size ∧ x ∈ fresh p) ∨ ∃ p m, m ∈ fresh p ∧ x ∈ t'.children m := by
  obtain ⟨l, hl⟩ := hx
  induction hl with
  | root => exact absurd ht.size_pos (Nat.not_lt_of_le hnew)
  | @child x p l hp _ ih =>
    have hkid := h.grown.rooted.linked.mem_children.mpr hp
    by_cases hold : p < t.size
    · rw [h.grown.children p hold] at hkid
      rcases List.mem_append.mp hkid with hkid | hkid
      · exact absurd (ht.linked.lt_of_mem_children hkid).1 (Nat.not_lt_of_le hnew)
      · exact Or.inl ⟨p, hold, hkid⟩
    · rcases ih (Nat.le_of_not_lt hold) with ⟨q, -, hq⟩ | ⟨q, m, hm, hpm⟩
      · exact Or.inr ⟨q, p, hq, hkid⟩
      · obtain ⟨e', hleaf⟩ := h.exists_leaf hm
        rw [(hleaf.childless p hpm).2] at hkid
        simp at hkid

theorem Attached.exists_fresh (h : Attached t t' e count parents fresh) (ht : t.Rooted)
    (hx : t'.Connected x) (helement : t'.isElement x = true) (hnew : t.size ≤ x) :
    ∃ p ∈ parents, p < t.size ∧ x ∈ fresh p := by
  rcases h.connected_new ht hx hnew with ⟨p, hlt, hp⟩ | ⟨p, m, hm, hkid⟩
  · refine ⟨p, ?_, hlt, hp⟩
    by_contra hnot
    rw [h.others p hnot] at hp
    simp at hp
  · obtain ⟨e', hleaf⟩ := h.exists_leaf hm
    rw [(hleaf.childless x hkid).1] at helement
    simp at helement

/-- The one copy below a node stands behind the elements that the node had. -/
theorem Attached.related_fresh (h : Attached t t' e 1 parents fresh) (ht : t.Rooted)
    (hp : p ∈ parents) (hlt : p < t.size) (hx : x ∈ fresh p) :
    related t' .nextSibling x = (t.elementChildren p).reverse := by
  obtain ⟨m, hm⟩ := List.length_eq_one_iff.mp (h.length p hp)
  obtain rfl : x = m := by simpa [hm] using hx
  have hkids : t'.children p = t.children p ++ x :: [] := by rw [h.grown.children p hlt, hm]
  rw [related, LinkedBy.prevSiblings_eq h.grown.rooted.linked hkids, List.filter_reverse,
    Tree.elementChildren]
  congr 1
  exact List.filter_congr fun k hk =>
    isElement_eq (h.grown.data k (ht.linked.lt_of_mem_children hk).1)

/-- Every element that is new since the first tree has before it the elements that one of the
parents had, or none. -/
structure Sprouted (t : Tree) (parents : List NodeId) (t' : Tree) : Prop where
  grown : ∃ fresh, t.Grown fresh t'
  before : ∀ x, t'.Connected x → t'.isElement x = true → t.size ≤ x →
    related t' .nextSibling x = [] ∨
      ∃ p ∈ parents, related t' .nextSibling x = (t.elementChildren p).reverse

theorem Sprouted.refl (ht : t.Rooted) (parents : List NodeId) : Sprouted t parents t where
  grown := ⟨_, (Intact.refl t).grown ht⟩
  before _ hx _ hnew := absurd (ht.lt_size_of_connected hx) (Nat.not_lt_of_le hnew)

theorem Sprouted.attach (h : Sprouted t parents t1) (ht1 : t1.Rooted)
    (hattached : Attached t1 t2 e 1 context fresh)
    (hcontext : ∀ p ∈ context, t1.elementChildren p = [] ∨
      ∃ q ∈ parents, t1.elementChildren p = t.elementChildren q) : Sprouted t parents t2 where
  grown := by
    obtain ⟨more, hmore⟩ := h.grown
    exact ⟨_, hmore.trans hattached.grown⟩
  before := by
    intro x hx helement hnew
    by_cases hold : x < t1.size
    · have hx1 := (hattached.grown.connected_iff ht1 hold).mp hx
      rw [isElement_eq (hattached.grown.data x hold)] at helement
      rw [related_of_grown hattached.grown ht1 hx1]
      exact h.before x hx1 helement hnew
    · obtain ⟨p, hp, hlt, hfresh⟩ :=
        hattached.exists_fresh ht1 hx helement (Nat.le_of_not_lt hold)
      rw [hattached.related_fresh ht1 hp hlt hfresh]
      rcases hcontext p hp with hnone | ⟨q, hq, hsame⟩
      · exact Or.inl (by rw [hnone]; rfl)
      · exact Or.inr ⟨q, hq, by rw [hsame]⟩

/-- No element has a new one before it. -/
theorem Sprouted.lt_size (h : Sprouted t parents t') (ht : t.Rooted) (hx : t'.Connected x)
    (helement : t'.isElement x = true) (hy : y ∈ related t' .nextSibling x) : y < t.size := by
  obtain ⟨fresh, hgrown⟩ := h.grown
  by_cases hold : x < t.size
  · have hx' := (hgrown.connected_iff ht hold).mp hx
    rw [related_of_grown hgrown ht hx'] at hy
    exact ht.lt_size_of_connected (connected_of_mem_related ht hx' hy)
  · rcases h.before x hx helement (Nat.le_of_not_lt hold) with hnone | ⟨p, -, hsame⟩
    · rw [hnone] at hy
      simp at hy
    · rw [hsame, List.mem_reverse] at hy
      exact (ht.linked.lt_of_mem_children (List.mem_of_mem_filter hy)).1

end Walk

end Topiary.Synthesis
