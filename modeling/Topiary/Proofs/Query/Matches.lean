import Topiary.Proofs.Query.Drafts
import Topiary.Proofs.Tree.Order
import Topiary.Query.Match

/-!
Matches and their beginnings. Around every connected element that matches a selector there are
connected elements that match its beginnings.
-/

namespace Topiary.Query

open Topiary.Selector

variable {t t' : Tree} {s s' : Complex} {l : SelectorList} {x y : NodeId} {i j : Nat}
  {combinator : Combinator}

theorem isElement_of_compoundHolds {c : Compound Filter} (h : compoundHolds t c x = true) :
    t.isElement x = true := by
  unfold compoundHolds Compound.holds at h
  split at h
  · simp at h
  · rename_i e he
    simp [Tree.isElement, he]

theorem Compound.Weaker.holds {τ : Type} {c c' : Compound τ} {test : Tree → NodeId → τ → Bool}
    (hweaker : c.Weaker c') (h : c'.holds test t x = true) : c.holds test t x = true := by
  unfold Compound.holds at h ⊢
  split at h
  · simp at h
  · rename_i e he
    simp only [Bool.and_eq_true, List.all_eq_true] at h ⊢
    refine ⟨?_, fun single hsingle => h.2 single (hweaker.tests hsingle)⟩
    cases htag : c.tag with
    | none => rfl
    | some tag =>
      have hsame := h.1
      rw [hweaker.tag tag htag] at hsame
      exact hsame

/-! ## One level of a match -/

theorem matchesFrom_zero : matchesFrom t s 0 x = true ↔
    ∃ c, s.compounds[0]? = some c ∧ compoundHolds t c x = true := by
  rw [matchesFrom]
  cases s.compounds[0]? <;> simp

theorem matchesFrom_succ : matchesFrom t s (i + 1) x = true ↔
    ∃ c combinator, s.compounds[i + 1]? = some c ∧ s.combinators[i]? = some combinator ∧
      compoundHolds t c x = true ∧
      ∃ y ∈ related t combinator x, matchesFrom t s i y = true := by
  rw [matchesFrom]
  cases s.compounds[i + 1]? <;> cases s.combinators[i]? <;> simp

theorem exists_compound_of_matchesFrom (h : matchesFrom t s i x = true) :
    ∃ c, s.compounds[i]? = some c ∧ compoundHolds t c x = true := by
  cases i with
  | zero => exact matchesFrom_zero.mp h
  | succ i =>
    obtain ⟨c, combinator, hc, -, hholds, -⟩ := matchesFrom_succ.mp h
    exact ⟨c, hc, hholds⟩

theorem isElement_of_matchesFrom (h : matchesFrom t s i x = true) : t.isElement x = true := by
  obtain ⟨c, -, hholds⟩ := exists_compound_of_matchesFrom h
  exact isElement_of_compoundHolds hholds

/-- A beginning of a selector asks no more of an element than the selector does. -/
theorem Complex.Truncates.matchesFrom (h : s.Truncates s') (hs : s.Balanced)
    (hi : i < s.compounds.length) (hx : matchesFrom t s' i x = true) :
    matchesFrom t s i x = true := by
  induction i generalizing x with
  | zero =>
    obtain ⟨c', hc', hholds⟩ := matchesFrom_zero.mp hx
    obtain ⟨d, hd, hweaker⟩ := h.compounds 0 _ (List.getElem?_eq_getElem hi)
    obtain rfl := Option.some.inj (hc'.symm.trans hd)
    exact matchesFrom_zero.mpr ⟨_, List.getElem?_eq_getElem hi, hweaker.holds hholds⟩
  | succ i ih =>
    obtain ⟨c', combinator, hc', hcombinator, hholds, y, hy, hmatch⟩ := matchesFrom_succ.mp hx
    obtain ⟨d, hd, hweaker⟩ := h.compounds (i + 1) _ (List.getElem?_eq_getElem hi)
    obtain rfl := Option.some.inj (hc'.symm.trans hd)
    have hlt : i < s.combinators.length := by
      rw [Complex.Balanced] at hs
      omega
    have hsame : s.combinators[i]? = some combinator := by
      obtain ⟨more, hmore⟩ := h.combinators
      rw [← hmore, List.getElem?_append_left hlt] at hcombinator
      exact hcombinator
    exact matchesFrom_succ.mpr ⟨_, combinator, List.getElem?_eq_getElem hi, hsame,
      hweaker.holds hholds, y, hy, ih (Nat.lt_of_succ_lt hi) hmatch⟩

/-! ## Related elements -/

theorem mem_takeWhile_isElement {l : List NodeId} (hy : y ∈ l.takeWhile t.isElement) :
    y ∈ l ∧ t.isElement y = true :=
  ⟨(List.takeWhile_sublist _).subset hy, List.all_eq_true.mp List.all_takeWhile y hy⟩

theorem mem_parentElement : y ∈ (parentElement? t x).toList ↔
    t.parent? x = some y ∧ t.isElement y = true := by
  simp [parentElement?, Option.filter_eq_some_iff]

theorem prevElement?_mem (h : t.prevElement? x = some y) :
    y ∈ t.prevSiblings x ∧ t.isElement y = true :=
  ⟨List.mem_of_find?_eq_some h, List.find?_some h⟩

theorem prevSiblings_eq_nil (ht : t.Rooted) (hx : t.parent? x = none) : t.prevSiblings x = [] := by
  rw [Tree.prevSiblings, (ht.linked.single x hx).1]
  cases t.size <;> rfl

theorem parent?_of_mem_prevSiblings (ht : t.Rooted) (hy : y ∈ t.prevSiblings x) :
    ∃ p, t.parent? x = some p ∧ t.parent? y = some p := by
  cases hx : t.parent? x with
  | none =>
    rw [prevSiblings_eq_nil ht hx] at hy
    simp at hy
  | some p =>
    obtain ⟨u, v, hk, hprev⟩ := ht.linked.exists_siblings hx
    rw [hprev, List.mem_reverse] at hy
    exact ⟨p, rfl, ht.linked.mem_children.mp (by rw [hk]; simp [hy])⟩

/-- What a combinator relates to a connected element is connected. -/
theorem connected_of_mem_related (ht : t.Rooted) (hx : t.Connected x)
    (hy : y ∈ related t combinator x) : t.Connected y := by
  have hsibling : y ∈ t.prevSiblings x → t.Connected y := by
    intro hmem
    obtain ⟨p, hpx, hpy⟩ := parent?_of_mem_prevSiblings ht hmem
    exact ((ht.connected_iff hpx).mp hx).child hpy
  cases combinator with
  | child => exact (ht.connected_iff (mem_parentElement.mp hy).1).mp hx
  | descendant => exact ht.connected_of_mem_ancestors hx (mem_takeWhile_isElement hy).1
  | nextAdjacent => exact hsibling (prevElement?_mem (by simpa [related] using hy)).1
  | nextSibling => exact hsibling (List.mem_filter.mp hy).1

theorem isElement_of_mem_related (hy : y ∈ related t combinator x) : t.isElement y = true := by
  cases combinator with
  | child => exact (mem_parentElement.mp hy).2
  | descendant => exact (mem_takeWhile_isElement hy).2
  | nextAdjacent => exact (prevElement?_mem (by simpa [related] using hy)).2
  | nextSibling => exact (List.mem_filter.mp hy).2

/-- A combinator between an element and one above it. -/
def IsDownward : Combinator → Prop
  | .child | .descendant => True
  | .nextAdjacent | .nextSibling => False

theorem mem_ancestors_of_mem_related (ht : t.Rooted) (hx : t.Connected x)
    (hdown : IsDownward combinator) (hy : y ∈ related t combinator x) : y ∈ t.ancestors x := by
  cases combinator with
  | child => exact ht.mem_ancestors_of_parent? hx (mem_parentElement.mp hy).1
  | descendant => exact (mem_takeWhile_isElement hy).1
  | nextAdjacent => exact hdown.elim
  | nextSibling => exact hdown.elim

theorem related_nextAdjacent :
    related t .nextAdjacent x = (related t .nextSibling x).head?.toList := by
  rw [related, related, List.head?_filter, Tree.prevElement?]

theorem mem_nextSibling_of_mem_nextAdjacent (hy : y ∈ related t .nextAdjacent x) :
    y ∈ related t .nextSibling x := by
  rw [related_nextAdjacent, Option.mem_toList] at hy
  exact List.mem_of_head? hy

theorem mem_related_of_parent? (ht : t.Rooted) (hx : t.Connected x) (hp : t.parent? x = some y)
    (hy : t.isElement y = true) (hdown : IsDownward combinator) : y ∈ related t combinator x := by
  cases combinator with
  | child => exact mem_parentElement.mpr ⟨hp, hy⟩
  | descendant =>
    rw [related, ht.ancestors_eq hx, hp]
    simp [hy]
  | nextAdjacent => exact hdown.elim
  | nextSibling => exact hdown.elim

theorem mem_elementChildren (ht : t.Rooted) :
    x ∈ t.elementChildren y ↔ t.parent? x = some y ∧ t.isElement x = true := by
  rw [Tree.elementChildren, List.mem_filter, ht.linked.mem_children]

/-- An element that a downward combinator relates to another has elements below it. -/
theorem elementChildren_ne_nil_of_mem_related (ht : t.Rooted) (hx : t.Connected x)
    (helement : t.isElement x = true) (hdown : IsDownward combinator)
    (hy : y ∈ related t combinator x) : t.elementChildren y ≠ [] := by
  cases combinator with
  | child =>
    exact List.ne_nil_of_mem
      ((mem_elementChildren ht).mpr ⟨(mem_parentElement.mp hy).1, helement⟩)
  | descendant =>
    rw [related] at hy
    have hl := ht.lineage_ancestors hx
    generalize t.ancestors x = l at hl hy
    induction hl with
    | root => simp at hy
    | @child x p l hp hl ih =>
      by_cases hparent : t.isElement p = true
      · rw [List.takeWhile_cons_of_pos hparent] at hy
        rcases List.mem_cons.mp hy with rfl | hy
        · exact List.ne_nil_of_mem ((mem_elementChildren ht).mpr ⟨hp, helement⟩)
        · exact ih ⟨l, hl⟩ hparent hy
      · rw [List.takeWhile_cons_of_neg hparent] at hy
        simp at hy
  | nextAdjacent => exact hdown.elim
  | nextSibling => exact hdown.elim

/-- Around a match there are matches of all that stands before its compound. -/
theorem exists_matchesFrom_of_le (ht : t.Rooted) (hx : t.Connected x)
    (h : matchesFrom t s j x = true) (hle : i ≤ j) :
    ∃ y, t.Connected y ∧ matchesFrom t s i y = true := by
  induction j generalizing x with
  | zero =>
    obtain rfl : i = 0 := Nat.le_zero.mp hle
    exact ⟨x, hx, h⟩
  | succ j ih =>
    rcases Nat.lt_or_eq_of_le hle with hlt | rfl
    · obtain ⟨c, combinator, -, -, -, y, hy, hmatch⟩ := matchesFrom_succ.mp h
      exact ih (connected_of_mem_related ht hx hy) hmatch (Nat.le_of_lt_succ hlt)
    · exact ⟨x, hx, h⟩

/-! ## Queries -/

theorem query_of_parse {text : String} (hl : SelectorList.parse text = .ok l) (t : Tree) :
    t.query text = .ok (l.select t) := by
  rw [Tree.query, hl]
  rfl

theorem query_eq_ok {text : String} {tokens : List Token} {found : List NodeId}
    (htokens : tokenize text = .ok tokens) :
    t.query text = .ok found ↔ ∃ l, SelectorList.ofTokens tokens = .ok l ∧ l.select t = found := by
  have hparse : SelectorList.parse text = SelectorList.ofTokens tokens := by
    rw [SelectorList.parse, htokens]
  rw [Tree.query, hparse]
  cases SelectorList.ofTokens tokens <;> simp [Except.map]

theorem ne_root_of_isElement (ht : t.Rooted) (hx : t.isElement x = true) : x ≠ Tree.root := by
  rintro rfl
  simp [Tree.isElement, ht.element?_root] at hx

theorem mem_select (ht : t.Rooted) : x ∈ l.select t ↔ t.Connected x ∧ l.matches t x = true := by
  rw [SelectorList.select, List.mem_filter, ht.mem_descendants_iff]
  constructor
  · exact fun h => ⟨h.1.2, h.2⟩
  · rintro ⟨hconn, hmatch⟩
    refine ⟨⟨ne_root_of_isElement ht ?_, hconn⟩, hmatch⟩
    rw [SelectorList.matches, Bool.and_eq_true] at hmatch
    exact hmatch.1

theorem mem_select_single (ht : t.Rooted) : x ∈ SelectorList.select ⟨[s]⟩ t ↔
    t.Connected x ∧ matchesFrom t s (s.compounds.length - 1) x = true := by
  rw [mem_select ht]
  simp only [SelectorList.matches, List.any_cons, List.any_nil, Bool.or_false, Bool.and_eq_true]
  exact ⟨fun h => ⟨h.1, h.2.2⟩, fun h => ⟨h.1, isElement_of_matchesFrom h.2, h.2⟩⟩

/-- Where a selector matches something, so does every beginning of it. -/
theorem Complex.Truncates.select_ne_nil (h : s.Truncates s') (hs : s.Balanced) (ht : t.Rooted)
    (hne : SelectorList.select ⟨[s']⟩ t ≠ []) : SelectorList.select ⟨[s]⟩ t ≠ [] := by
  obtain ⟨x, hx⟩ := List.exists_mem_of_ne_nil _ hne
  obtain ⟨hconn, hmatch⟩ := (mem_select_single ht).mp hx
  have hpos : 0 < s.compounds.length := by
    rw [Complex.Balanced] at hs
    omega
  have hle : s.compounds.length - 1 ≤ s'.compounds.length - 1 := by
    obtain ⟨c', hc', -⟩ := h.compounds _ _
      (List.getElem?_eq_getElem (Nat.sub_one_lt_of_lt hpos))
    obtain ⟨hlt, -⟩ := List.getElem?_eq_some_iff.mp hc'
    exact Nat.le_sub_one_of_lt hlt
  obtain ⟨y, hy, hmatch'⟩ := exists_matchesFrom_of_le ht hconn hmatch hle
  have hmem : y ∈ SelectorList.select ⟨[s]⟩ t := (mem_select_single ht).mpr
    ⟨hy, h.matchesFrom hs (Nat.sub_one_lt_of_lt hpos) hmatch'⟩
  exact List.ne_nil_of_mem hmem

end Topiary.Query
