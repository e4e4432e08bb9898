import Topiary.Proofs.Query.Meaning
import Topiary.Proofs.Query.Positions

/-!
Matches in growing trees. New nodes behind the children of old ones change nothing around an old
node, save how many siblings follow it.
-/

namespace Topiary.Query

open Topiary.Tree Topiary.Selector

variable {t t' : Tree} {fresh : NodeId → List NodeId} {s : Complex} {c : Compound Filter}
  {x y p m : NodeId} {i : Nat} {combinator : Combinator}

theorem takeWhile_congr {α : Type} {f g : α → Bool} {l : List α} (h : ∀ a ∈ l, f a = g a) :
    l.takeWhile f = l.takeWhile g := by
  induction l with
  | nil => rfl
  | cons a l ih =>
    rw [List.takeWhile_cons, List.takeWhile_cons, h a (by simp), ih fun b hb => h b (by simp [hb])]

/-- Nothing changes beside an old node, nor about its parent. -/
theorem related_of_grown_beside (h : t.Grown fresh t') (ht : t.Rooted) (hx : x < t.size)
    (hnear : combinator ≠ .descendant) : related t' combinator x = related t combinator x := by
  have helement : ∀ y < t.size, t'.isElement y = t.isElement y := fun y hy =>
    isElement_eq (h.data y hy)
  have hsiblings : t'.prevSiblings x = t.prevSiblings x := by
    cases hp : t.parent? x with
    | none =>
      rw [prevSiblings_eq_nil ht hp, prevSiblings_eq_nil h.rooted ((h.parent x hx).trans hp)]
    | some p => exact h.prevSiblings ht hp
  have hlt : ∀ y ∈ t.prevSiblings x, y < t.size := by
    intro y hy
    obtain ⟨p, -, hpy⟩ := parent?_of_mem_prevSiblings ht hy
    exact (ht.linked.lt_of_parent? hpy).1
  cases combinator with
  | child =>
    simp only [related, parentElement?, h.parent x hx]
    cases hp : t.parent? x with
    | none => rfl
    | some p =>
      have := helement p (ht.linked.lt_of_parent? hp).2
      simp [Option.filter, this]
  | descendant => exact absurd rfl hnear
  | nextAdjacent =>
    simp only [related, Tree.prevElement?, hsiblings]
    rw [List.find?_congr fun y hy => helement y (hlt y hy)]
  | nextSibling =>
    simp only [related, hsiblings]
    exact List.filter_congr fun y hy => helement y (hlt y hy)

/-- An old node is related to the same nodes as before. -/
theorem related_of_grown (h : t.Grown fresh t') (ht : t.Rooted) (hx : t.Connected x) :
    related t' combinator x = related t combinator x := by
  by_cases hup : combinator = .descendant
  · subst hup
    simp only [related, h.ancestors ht hx]
    exact takeWhile_congr fun y hy => isElement_eq
      (h.data y (ht.lt_size_of_connected (ht.connected_of_mem_ancestors hx hy)))
  · exact related_of_grown_beside h ht (ht.lt_size_of_connected hx) hup

theorem parentElement_of_grown (h : t.Grown fresh t') (ht : t.Rooted) (hx : x < t.size) :
    ParentElement t' y x ↔ ParentElement t y x := by
  rw [ParentElement, ParentElement, h.parent x hx, and_congr_right_iff]
  intro hp
  rw [isElement_eq (h.data y (ht.linked.lt_of_parent? hp).2)]

theorem elementsAbove_of_grown (h : t.Grown fresh t') (ht : t.Rooted) (hx : x < t.size) :
    ElementsAbove t' y x ↔ ElementsAbove t y x := by
  constructor <;> intro habove
  · induction habove with
    | single hp => exact .single ((parentElement_of_grown h ht hx).mp hp)
    | tail _ hp ih =>
      have hp' := (parentElement_of_grown h ht hx).mp hp
      exact .tail (ih (ht.linked.lt_of_parent? hp'.1).2) hp'
  · induction habove with
    | single hp => exact .single ((parentElement_of_grown h ht hx).mpr hp)
    | tail _ hp ih =>
      exact .tail (ih (ht.linked.lt_of_parent? hp.1).2) ((parentElement_of_grown h ht hx).mpr hp)

/-- The same without the order, for nodes that hang nowhere as well: the walk along their parents
may be a circle, which a larger tree goes round more often. -/
theorem mem_related_of_grown (h : t.Grown fresh t') (ht : t.Rooted) (hx : x < t.size) :
    y ∈ related t' combinator x ↔ y ∈ related t combinator x := by
  by_cases hup : combinator = .descendant
  · subst hup
    rw [related, related, mem_takeWhile_ancestors h.rooted.linked,
      mem_takeWhile_ancestors ht.linked, elementsAbove_of_grown h ht hx]
  · rw [related_of_grown_beside h ht hx hup]

/-- Where the compounds hold as before around a node, so does a match. -/
theorem matchesFrom_of_grown (h : t.Grown fresh t') (ht : t.Rooted) (around : NodeId → Prop)
    (hold : ∀ x, around x → x < t.size)
    (hclosed : ∀ combinator ∈ s.combinators, ∀ x, around x → ∀ y ∈ related t combinator x, around y)
    (hholds : ∀ c ∈ s.compounds, ∀ x, around x → compoundHolds t' c x = compoundHolds t c x)
    (hx : around x) : matchesFrom t' s i x = matchesFrom t s i x := by
  induction i generalizing x with
  | zero =>
    rw [matchesFrom, matchesFrom]
    cases hc : s.compounds[0]? with
    | none => rfl
    | some c => exact hholds c (List.mem_of_getElem? hc) x hx
  | succ i ih =>
    rw [matchesFrom, matchesFrom]
    cases hc : s.compounds[i + 1]? with
    | none => rfl
    | some c =>
      cases hcombinator : s.combinators[i]? with
      | none => rfl
      | some combinator =>
        have hmem := List.mem_of_getElem? hcombinator
        have hrelated : ∀ y, y ∈ related t' combinator x ↔ y ∈ related t combinator x :=
          fun y => mem_related_of_grown h ht (hold x hx)
        simp only [hholds c (List.mem_of_getElem? hc) x hx]
        congr 1
        rw [Bool.eq_iff_iff, List.any_eq_true, List.any_eq_true]
        constructor
        · rintro ⟨y, hy, hmatch⟩
          have hy' := (hrelated y).mp hy
          exact ⟨y, hy', by rwa [ih (hclosed combinator hmem x hx y hy')] at hmatch⟩
        · rintro ⟨y, hy, hmatch⟩
          exact ⟨y, (hrelated y).mpr hy, by rwa [ih (hclosed combinator hmem x hx y hy)]⟩

/-- A node that passes a compound passes it in another tree too, if it does so with every test. -/
theorem compoundHolds_mono (helement : t'.element? x = t.element? x)
    (htests : ∀ filter ∈ c.tests, filter.holds t x = true → filter.holds t' x = true)
    (h : compoundHolds t c x = true) : compoundHolds t' c x = true := by
  unfold compoundHolds Compound.holds at h ⊢
  rw [helement]
  cases he : t.element? x with
  | none => simp [he] at h
  | some e =>
    simp only [he, Bool.and_eq_true, List.all_eq_true] at h ⊢
    exact ⟨h.1, fun filter hfilter => htests filter hfilter (h.2 filter hfilter)⟩

theorem compoundHolds_congr (helement : t'.element? x = t.element? x)
    (htests : ∀ filter ∈ c.tests, filter.holds t' x = filter.holds t x) :
    compoundHolds t' c x = compoundHolds t c x := by
  rw [Bool.eq_iff_iff]
  constructor
  · apply compoundHolds_mono helement.symm
    intro filter hfilter hpass
    exact (htests filter hfilter).symm.trans hpass
  · apply compoundHolds_mono helement
    intro filter hfilter hpass
    exact (htests filter hfilter).trans hpass

/-! ## Places among siblings -/

/-- A node keeps its place as long as its parent gets no new children. -/
theorem placeOf_of_grown (h : t.Grown fresh t') (ht : t.Rooted) (hx : x < t.size)
    (hfresh : ∀ p, t.parent? x = some p → fresh p = []) (fromEnd : Bool) :
    placeOf t' x false fromEnd = placeOf t x false fromEnd := by
  rw [placeOf, placeOf, h.parent x hx]
  cases hp : t.parent? x with
  | none => rfl
  | some p =>
    have hkids : t'.elementChildren p = t.elementChildren p := by
      rw [h.elementChildren ht (ht.linked.lt_of_parent? hp).2, hfresh p hp]
      simp
    simp [hkids]

/-- From the end an element has the place behind all that follow it. -/
theorem placeOf_of_split {l r : List NodeId} (hp : t.parent? m = some p)
    (hkids : t.elementChildren p = l ++ m :: r) (hnot : m ∉ l) :
    (placeOf t m false true).1 = r.length + 1 := by
  have hpeers : peers t false m = l ++ m :: r := by
    rw [peers_eq_elementChildren hp, hkids]
  rw [placeOf_of_peers hpeers hnot, if_pos rfl]

/-- New siblings only add to what follows an old element. -/
theorem placeOf_le_of_grown (h : t.Grown fresh t') (ht : t.Rooted) (hx : t.isElement x = true) :
    (placeOf t x false true).1 ≤ (placeOf t' x false true).1 := by
  have hlt := lt_size_of_isElement hx
  cases hp : t.parent? x with
  | none => rw [placeOf, placeOf, h.parent x hlt, hp]
  | some p =>
    have hkid : x ∈ t.elementChildren p := (mem_elementChildren ht).mpr ⟨hp, hx⟩
    obtain ⟨l, r, hkids⟩ := List.append_of_mem hkid
    have hnodup : (t.elementChildren p).Nodup := ht.linked.nodup_children.filter _
    rw [hkids] at hnodup
    have hnot : x ∉ l := fun hmem =>
      (List.nodup_append.mp hnodup).2.2 x hmem x List.mem_cons_self rfl
    have hkids' : t'.elementChildren p = l ++ x :: (r ++ (fresh p).filter t'.isElement) := by
      rw [h.elementChildren ht (ht.linked.lt_of_parent? hp).2, hkids, List.append_assoc,
        List.cons_append]
    rw [placeOf_of_split hp hkids hnot,
      placeOf_of_split ((h.parent x hlt).trans hp) hkids' hnot, List.length_append]
    omega

/-- Among the nodes of a list there is one with no other of them above it. -/
theorem exists_topmost (ht : t.Rooted) {l : List NodeId} (hconn : ∀ x ∈ l, t.Connected x)
    (hx : x ∈ l) : ∃ y ∈ l, ∀ a ∈ t.ancestors y, a ∉ l := by
  induction hn : (t.ancestors x).length using Nat.strongRecOn generalizing x with
  | ind n ih =>
    by_cases htop : ∀ a ∈ t.ancestors x, a ∉ l
    · exact ⟨x, hx, htop⟩
    · obtain ⟨a, ha, hal⟩ : ∃ a ∈ t.ancestors x, a ∈ l := by
        by_contra hnone
        exact htop fun a ha hal => hnone ⟨a, ha, hal⟩
      obtain ⟨u, v, hsplit, hv⟩ := (ht.lineage_ancestors (hconn x hx)).of_mem ha
      have hlength : (t.ancestors a).length < n := by
        rw [hv.ancestors_eq ht, ← hn, hsplit]
        simp only [List.length_append, List.length_cons]
        omega
      exact ih _ hlength hal rfl

end Topiary.Query
