import Mathlib
import Topiary.Proofs.Query.Matches
import Topiary.Proofs.Tree.Growth
import Topiary.Proofs.Tree.Precedence

/-!
The meaning of selectors. A selector picks an element if elements can be named for all its
compounds, the last of them this element, so that each satisfies its compound and neighbours stand
to each other as the combinator between them says. The matcher, which goes from right to left and
tries one candidate after another, finds exactly the connected elements that are picked, and a query
lists them in document order.
-/

namespace Topiary.Query

open Topiary.Tree Topiary.Selector

variable {t : Tree} {s : Complex} {x y p : NodeId} {i : Nat} {combinator : Combinator}
  {l : List NodeId} {above : NodeId → NodeId → Prop} {pick : Nat → NodeId}

/-! ## Combinators -/

/-- The first node is the parent of the second and an element. -/
def ParentElement (t : Tree) (y x : NodeId) : Prop :=
  t.parent? x = some y ∧ t.isElement y = true

/-- The first node is an element above the second, with nothing but elements between them. -/
def ElementsAbove (t : Tree) : NodeId → NodeId → Prop :=
  Relation.TransGen (ParentElement t)

/-- The first node is an element anywhere above the second. -/
def AncestorElement (t : Tree) (y x : NodeId) : Prop :=
  y ∈ t.ancestors x ∧ t.isElement y = true

/-- How the node on the left of a combinator stands to the one on its right, where `above` says what
it means to be an ancestor. -/
def Stands (t : Tree) (above : NodeId → NodeId → Prop) : Combinator → NodeId → NodeId → Prop
  | .child, y, x => ParentElement t y x
  | .descendant, y, x => above y x
  | .nextAdjacent, y, x => ∃ p before between behind,
      t.children p = before ++ y :: (between ++ x :: behind) ∧ t.isElement y = true ∧
        ∀ k ∈ between, t.isElement k = false
  | .nextSibling, y, x => ∃ p before between behind,
      t.children p = before ++ y :: (between ++ x :: behind) ∧ t.isElement y = true

theorem follow_parent_succ (ht : t.Linked) (count : Nat) (x : NodeId) :
    t.follow Node.parent (count + 1) (t.parent? x) = match t.parent? x with
      | none => []
      | some p => p :: t.follow Node.parent count (t.parent? p) := by
  cases hp : t.parent? x with
  | none => rfl
  | some p =>
    obtain ⟨node, hnode⟩ := exists_get? (ht.lt_of_parent? hp).2
    have hparent : t.parent? p = node.parent := by rw [Tree.parent?, hnode, Option.bind_some]
    simp only [follow, hnode, hparent]

/-- There is a way up through elements only that comes to none of them twice. -/
theorem ElementsAbove.exists_path (h : ElementsAbove t y x) :
    ∃ l, List.IsChain (fun c p => ParentElement t p c) (x :: l) ∧ l.Nodup ∧
      l.getLast? = some y := by
  induction h with
  | single hyx => exact ⟨[y], by simpa using hyx, List.nodup_singleton y, rfl⟩
  | @tail z x _ hzx ih =>
    obtain ⟨l, hchain, hnodup, hlast⟩ := ih
    by_cases hz : z ∈ l
    · -- the way from the second visit on is shorter
      obtain ⟨u, v, rfl⟩ := List.append_of_mem hz
      refine ⟨z :: v, List.isChain_cons_cons.mpr ⟨hzx, ?_⟩, (List.nodup_append.mp hnodup).2.1, ?_⟩
      · rw [← List.cons_append] at hchain
        exact hchain.right_of_append
      · rwa [List.getLast?_append_cons] at hlast
    · refine ⟨z :: l, List.isChain_cons_cons.mpr ⟨hzx, hchain⟩,
        List.nodup_cons.mpr ⟨hz, hnodup⟩, ?_⟩
      rw [List.getLast?_cons, hlast]
      rfl

theorem prefix_of_path (ht : t.Linked) {count : Nat}
    (hl : List.IsChain (fun c p => ParentElement t p c) (x :: l)) (hcount : l.length ≤ count) :
    l <+: (t.follow Node.parent count (t.parent? x)).takeWhile t.isElement := by
  induction l generalizing x count with
  | nil => exact List.nil_prefix
  | cons p l ih =>
    obtain ⟨⟨hp, helement⟩, hrest⟩ := List.isChain_cons_cons.mp hl
    cases count with
    | zero => simp at hcount
    | succ count =>
      rw [follow_parent_succ ht, hp]
      simp only
      rw [List.takeWhile_cons_of_pos helement]
      exact List.cons_prefix_cons.mpr ⟨rfl, ih hrest (Nat.le_of_succ_le_succ hcount)⟩

theorem elementsAbove_of_mem_takeWhile (ht : t.Linked) {count : Nat}
    (hy : y ∈ (t.follow Node.parent count (t.parent? x)).takeWhile t.isElement) :
    ElementsAbove t y x := by
  induction count generalizing x with
  | zero => simp [follow] at hy
  | succ count ih =>
    rw [follow_parent_succ ht] at hy
    cases hp : t.parent? x with
    | none => simp [hp] at hy
    | some p =>
      rw [hp] at hy
      simp only at hy
      by_cases helement : t.isElement p = true
      · rw [List.takeWhile_cons_of_pos helement] at hy
        rcases List.mem_cons.mp hy with rfl | hy
        · exact .single ⟨hp, helement⟩
        · exact .tail (ih hy) ⟨hp, helement⟩
      · rw [List.takeWhile_cons_of_neg helement] at hy
        simp at hy

/-- The bounded way up passes every element that stands above a node with nothing but elements
between them, even if the parents of the node go round in a circle. -/
theorem mem_takeWhile_ancestors (ht : t.Linked) :
    y ∈ (t.ancestors x).takeWhile t.isElement ↔ ElementsAbove t y x := by
  refine ⟨elementsAbove_of_mem_takeWhile ht, fun h => ?_⟩
  obtain ⟨l, hchain, hnodup, hlast⟩ := h.exists_path
  have hlt : ∀ z ∈ l, z < t.size := by
    intro z hz
    have hpassed := (prefix_of_path ht hchain (Nat.le_refl _)).subset hz
    exact lt_size_of_isElement (mem_takeWhile_isElement hpassed).2
  exact (prefix_of_path ht hchain (length_le_size hnodup hlt)).subset (List.mem_of_getLast? hlast)

theorem mem_takeWhile_iff (ht : t.Rooted) (hl : t.Lineage x l) :
    y ∈ l.takeWhile t.isElement ↔ ElementsAbove t y x := by
  rw [← hl.ancestors_eq ht, mem_takeWhile_ancestors ht.linked]

/-- Where only elements and the document node have children, nothing but elements stands between a
node and an element above it. -/
theorem mem_takeWhile_iff_ancestor (ht : t.Rooted)
    (hbare : ∀ p, p ≠ root → t.isElement p = false → t.children p = []) (hl : t.Lineage x l) :
    y ∈ l.takeWhile t.isElement ↔ y ∈ l ∧ t.isElement y = true := by
  refine ⟨mem_takeWhile_isElement, ?_⟩
  rintro ⟨hy, helement⟩
  induction hl with
  | root => simp at hy
  | @child x p l hp hl ih =>
    by_cases hparent : t.isElement p = true
    · rw [List.takeWhile_cons_of_pos hparent]
      exact List.mem_cons.mpr ((List.mem_cons.mp hy).imp_right ih)
    · -- a parent that is no element is the document node, and nothing is above that
      have hroot : p = root := by
        by_contra hne
        have hmem := ht.linked.mem_children.mpr hp
        rw [hbare p hne (Bool.not_eq_true _ ▸ hparent)] at hmem
        simp at hmem
      subst hroot
      obtain rfl := hl.unique ht .root
      rw [List.mem_singleton.mp hy] at helement
      exact absurd helement hparent

theorem mem_nextSibling_iff (ht : t.Rooted) :
    y ∈ related t .nextSibling x ↔ Stands t above .nextSibling y x := by
  rw [related, List.mem_filter]
  constructor
  · rintro ⟨hy, helement⟩
    obtain ⟨p, hp, -⟩ := parent?_of_mem_prevSiblings ht hy
    obtain ⟨before, behind, hkids, hprev⟩ := ht.linked.exists_siblings hp
    rw [hprev, List.mem_reverse] at hy
    obtain ⟨u, v, rfl⟩ := List.append_of_mem hy
    exact ⟨p, u, v, behind, by rw [hkids, List.append_assoc, List.cons_append], helement⟩
  · rintro ⟨p, before, between, behind, hkids, helement⟩
    refine ⟨?_, helement⟩
    rw [LinkedBy.prevSiblings_eq ht.linked (l := before ++ y :: between) (r := behind)
      (by rw [hkids, List.append_assoc, List.cons_append])]
    simp

theorem mem_nextAdjacent_iff (ht : t.Rooted) :
    y ∈ related t .nextAdjacent x ↔ Stands t above .nextAdjacent y x := by
  rw [related, Option.mem_toList]
  constructor
  · intro hy
    obtain ⟨p, hp, -⟩ := parent?_of_mem_prevSiblings ht (prevElement?_mem hy).1
    obtain ⟨before, behind, hkids, hprev⟩ := ht.linked.exists_siblings hp
    rw [prevElement?, hprev, List.find?_eq_some_iff_append] at hy
    obtain ⟨helement, near, far, hsplit, hnear⟩ := hy
    have hbefore : before = far.reverse ++ y :: near.reverse := by
      rw [← List.reverse_reverse before, hsplit]
      simp
    refine ⟨p, far.reverse, near.reverse, behind, ?_, helement, fun k hk => ?_⟩
    · rw [hkids, hbefore, List.append_assoc, List.cons_append]
    · simpa using hnear k (List.mem_reverse.mp hk)
  · rintro ⟨p, before, between, behind, hkids, helement, hbetween⟩
    rw [prevElement?, LinkedBy.prevSiblings_eq ht.linked (l := before ++ y :: between)
      (r := behind) (by rw [hkids, List.append_assoc, List.cons_append]),
      List.find?_eq_some_iff_append]
    refine ⟨helement, between.reverse, before.reverse, by simp, fun k hk => ?_⟩
    rw [hbetween k (List.mem_reverse.mp hk)]
    rfl

/-- The candidates that the matcher tries are those that stand as the combinator says. -/
theorem mem_related_iff (ht : t.Rooted)
    (habove : ∀ x y, t.Connected x → (y ∈ (t.ancestors x).takeWhile t.isElement ↔ above y x))
    (hx : t.Connected x) : y ∈ related t combinator x ↔ Stands t above combinator y x := by
  cases combinator with
  | child => exact mem_parentElement
  | descendant => exact habove x y hx
  | nextAdjacent => exact mem_nextAdjacent_iff ht
  | nextSibling => exact mem_nextSibling_iff ht

/-! ## Compounds -/

/-- Nodes that satisfy the compounds of a selector up to the place `last`, each standing to the next
one as the combinator between them says. -/
structure Complex.Picks (t : Tree) (above : NodeId → NodeId → Prop) (s : Complex)
    (pick : Nat → NodeId) (last : Nat) : Prop where
  compound : ∀ i ≤ last, ∃ c, s.compounds[i]? = some c ∧ compoundHolds t c (pick i) = true
  combinator : ∀ i < last, ∃ combinator, s.combinators[i]? = some combinator ∧
    Stands t above combinator (pick i) (pick (i + 1))

/-- One more compound to the right. -/
theorem Complex.Picks.extend (h : s.Picks t above pick i) {c : Compound Filter}
    (hc : s.compounds[i + 1]? = some c) (hcombinator : s.combinators[i]? = some combinator)
    (hholds : compoundHolds t c x = true) (hstands : Stands t above combinator (pick i) x) :
    s.Picks t above (Function.update pick (i + 1) x) (i + 1) := by
  have hold : ∀ j ≤ i, Function.update pick (i + 1) x j = pick j := fun j hj =>
    Function.update_of_ne (Nat.ne_of_lt (Nat.lt_succ_of_le hj)) _ _
  constructor
  · intro j hj
    rcases Nat.lt_or_eq_of_le hj with hlt | rfl
    · rw [hold j (Nat.le_of_lt_succ hlt)]
      exact h.compound j (Nat.le_of_lt_succ hlt)
    · rw [Function.update_self]
      exact ⟨c, hc, hholds⟩
  · intro j hj
    rcases Nat.lt_or_eq_of_le (Nat.le_of_lt_succ hj) with hlt | rfl
    · rw [hold j (Nat.le_of_lt hlt), hold (j + 1) hlt]
      exact h.combinator j hlt
    · rw [hold j (Nat.le_refl j), Function.update_self]
      exact ⟨combinator, hcombinator, hstands⟩

theorem Complex.Picks.shorten (h : s.Picks t above pick (i + 1)) : s.Picks t above pick i :=
  ⟨fun j hj => h.compound j (Nat.le_succ_of_le hj),
    fun j hj => h.combinator j (Nat.lt_succ_of_lt hj)⟩

/-- Going from right to left loses no choice of elements. -/
theorem matchesFrom_iff_picks (ht : t.Rooted)
    (habove : ∀ x y, t.Connected x → (y ∈ (t.ancestors x).takeWhile t.isElement ↔ above y x))
    (hx : t.Connected x) :
    matchesFrom t s i x = true ↔ ∃ pick, s.Picks t above pick i ∧ pick i = x := by
  induction i generalizing x with
  | zero =>
    rw [matchesFrom_zero]
    constructor
    · rintro ⟨c, hc, hholds⟩
      refine ⟨fun _ => x, ⟨fun j hj => ?_, fun j hj => absurd hj (Nat.not_lt_zero j)⟩, rfl⟩
      obtain rfl := Nat.le_zero.mp hj
      exact ⟨c, hc, hholds⟩
    · rintro ⟨pick, hpicks, rfl⟩
      exact hpicks.compound 0 (Nat.le_refl 0)
  | succ i ih =>
    rw [matchesFrom_succ]
    constructor
    · rintro ⟨c, combinator, hc, hcombinator, hholds, y, hy, hmatch⟩
      obtain ⟨pick, hpicks, rfl⟩ := (ih (connected_of_mem_related ht hx hy)).mp hmatch
      exact ⟨_, hpicks.extend hc hcombinator hholds ((mem_related_iff ht habove hx).mp hy),
        Function.update_self _ _ _⟩
    · rintro ⟨pick, hpicks, rfl⟩
      obtain ⟨c, hc, hholds⟩ := hpicks.compound (i + 1) (Nat.le_refl _)
      obtain ⟨combinator, hcombinator, hstands⟩ := hpicks.combinator i (Nat.lt_succ_self i)
      have hy := (mem_related_iff ht habove hx).mpr hstands
      exact ⟨c, combinator, hc, hcombinator, hholds, pick i, hy,
        (ih (connected_of_mem_related ht hx hy)).mpr ⟨pick, hpicks.shorten, rfl⟩⟩

/-! ## Queries -/

/-- One of the selectors picks the node for its last compound. -/
def SelectorList.Picks (t : Tree) (above : NodeId → NodeId → Prop) (l : SelectorList)
    (x : NodeId) : Prop :=
  ∃ s ∈ l.selectors, ∃ pick, s.Picks t above pick s.combinators.length ∧
    pick s.combinators.length = x

theorem mem_select_iff_picks {l : SelectorList} (ht : t.Rooted)
    (habove : ∀ x y, t.Connected x → (y ∈ (t.ancestors x).takeWhile t.isElement ↔ above y x))
    (hl : ∀ s ∈ l.selectors, s.Balanced) :
    x ∈ l.select t ↔ t.Connected x ∧ l.Picks t above x := by
  rw [mem_select ht, and_congr_right_iff]
  intro hx
  have hlast : ∀ s ∈ l.selectors, s.compounds.length - 1 = s.combinators.length := by
    intro s hs
    rw [hl s hs, Nat.add_sub_cancel]
  rw [SelectorList.matches, Bool.and_eq_true, List.any_eq_true]
  constructor
  · rintro ⟨-, s, hs, hmatch⟩
    rw [hlast s hs, matchesFrom_iff_picks ht habove hx] at hmatch
    exact ⟨s, hs, hmatch⟩
  · rintro ⟨s, hs, hpicks⟩
    have hmatch := (matchesFrom_iff_picks ht habove hx).mpr hpicks
    refine ⟨isElement_of_matchesFrom hmatch, s, hs, ?_⟩
    rw [hlast s hs]
    exact hmatch

/-- A query lists the connected elements that a selector of the list picks, strictly in document
order. Where only elements and the document node have children, every element above another one
counts as its ancestor. -/
theorem query_lists_picked {l : SelectorList} {text : String} (ht : t.Reachable)
    (hl : SelectorList.parse text = .ok l) :
    (∀ s ∈ l.selectors, s.compounds.length = s.combinators.length + 1) ∧
      ∃ found, t.query text = .ok found ∧ found.Pairwise t.Precedes ∧ found.Nodup ∧
        (∀ x, x ∈ found ↔ t.isConnected x = true ∧ l.Picks t (ElementsAbove t) x) ∧
        ((∀ p, p ≠ root → t.isElement p = false → t.children p = []) →
          ∀ x, x ∈ found ↔ t.isConnected x = true ∧ l.Picks t (AncestorElement t) x) := by
  have hroot := ht.rooted
  have hbalanced : ∀ s ∈ l.selectors, s.Balanced := fun s hs => SelectorList.balanced_of_parse hl hs
  have hordered : (l.select t).Pairwise t.Precedes := hroot.pairwise_descendants.filter _
  refine ⟨hbalanced, l.select t, query_of_parse hl t, hordered,
    nodup_of_pairwise_precedes hordered, fun x => ?_, fun hbare x => ?_⟩
  · rw [hroot.isConnected_iff]
    exact mem_select_iff_picks hroot
      (fun _ _ hx => mem_takeWhile_iff hroot (hroot.lineage_ancestors hx)) hbalanced
  · rw [hroot.isConnected_iff]
    exact mem_select_iff_picks hroot
      (fun _ _ hx => mem_takeWhile_iff_ancestor hroot hbare (hroot.lineage_ancestors hx)) hbalanced

theorem query_lists_picked_skeleton :
    ∃ l, Document.skeleton.tree.Reachable ∧
      SelectorList.parse "html head + body, head" = .ok l ∧
      Document.skeleton.tree.query "html head + body, head" = .ok [2, 3] ∧
      Document.skeleton.tree.Precedes 2 3 ∧
      ∀ x, x ∈ [2, 3] ↔ Document.skeleton.tree.isConnected x = true ∧
        l.Picks Document.skeleton.tree (ElementsAbove Document.skeleton.tree) x := by
  have hl : SelectorList.parse "html head + body, head" =
      .ok ⟨[⟨[⟨some "html", false, []⟩, ⟨some "head", false, []⟩, ⟨some "body", false, []⟩],
        [.descendant, .nextAdjacent]⟩, ⟨[⟨some "head", false, []⟩], []⟩]⟩ := by cbv
  have hquery : Document.skeleton.tree.query "html head + body, head" = .ok [2, 3] := by cbv
  obtain ⟨-, found, hfound, hordered, -, hiff, -⟩ := query_lists_picked reachable_skeleton hl
  obtain rfl := Except.ok.inj (hfound.symm.trans hquery)
  exact ⟨_, reachable_skeleton, hl, hquery, by simpa using hordered, hiff⟩

/-- A `p` below a text below a `div`. -/
def interruptedTree : Tree :=
  ofMutations [.createElement "div", .createText "a", .createElement "p",
    .append root 1, .append 1 2, .append 2 3]

theorem reachable_interruptedTree : interruptedTree.Reachable :=
  ⟨_, by simp [Mutation.SparesRoot, root], rfl⟩

/-- A blank does not reach across a node that is no element. -/
theorem not_query_lists_picked_of_text :
    ¬ ∀ (t : Tree) (text : String) (l : SelectorList) (found : List NodeId), t.Reachable →
      SelectorList.parse text = .ok l → t.query text = .ok found →
      ∀ x, x ∈ found ↔ t.isConnected x = true ∧ l.Picks t (AncestorElement t) x := by
  intro hall
  have hl : SelectorList.parse "div p" =
      .ok ⟨[⟨[⟨some "div", false, []⟩, ⟨some "p", false, []⟩], [.descendant]⟩]⟩ := by cbv
  have hquery : interruptedTree.query "div p" = .ok [] := by cbv
  have hdiv : compoundHolds interruptedTree ⟨some "div", false, []⟩ 1 = true := by cbv
  have hp : compoundHolds interruptedTree ⟨some "p", false, []⟩ 3 = true := by cbv
  have hstart : Complex.Picks interruptedTree (AncestorElement interruptedTree)
      ⟨[⟨some "div", false, []⟩, ⟨some "p", false, []⟩], [.descendant]⟩ (fun _ => 1) 0 := by
    refine ⟨fun i hi => ?_, fun i hi => absurd hi (Nat.not_lt_zero i)⟩
    obtain rfl := Nat.le_zero.mp hi
    exact ⟨_, rfl, hdiv⟩
  have habove : AncestorElement interruptedTree 1 3 := ⟨by decide, by decide⟩
  have hpicks := hstart.extend rfl rfl hp habove
  have hfound := (hall interruptedTree "div p" _ [] reachable_interruptedTree hl hquery 3).mpr
    ⟨by decide, _, List.mem_singleton_self _, _, hpicks, Function.update_self _ _ _⟩
  simp at hfound

end Topiary.Query
