import Topiary.Proofs.Query.Growing

/-!
Matches that last. A selector without pseudo-classes asks for tags and attributes and for how
elements stand to each other, and none of this changes for an element when new nodes are appended
behind the children of old ones. So every old element, connected or not, matches as before.
-/

namespace Topiary.Selector

/-- Whether a token is a pseudo-class or a pseudo-element. -/
def Kind.isPseudo : Kind → Bool
  | .pseudoClass _ | .pseudoElement _ | .emptyCall _ | .quotedCall _ _ | .call _ _
  | .equationCall _ => true
  | _ => false

end Topiary.Selector

namespace Topiary.Query

open Topiary.Tree Topiary.Selector

variable {t t' : Tree} {fresh : NodeId → List NodeId} {tokens : List Token} {token : Token}
  {l : SelectorList} {s : Complex} {c : Compound Filter} {filter : Filter} {test : Test}
  {x : NodeId} {i : Nat} {text : String}

/-- The test looks at attributes of the element alone. -/
def Test.IsAttributive : Test → Prop
  | .id _ | .className _ | .attrPresence _ | .attrValue _ _ _ => True
  | _ => False

theorem Test.IsAttributive.holds_eq (h : test.IsAttributive)
    (helement : t'.element? x = t.element? x) : test.holds t' x = test.holds t x := by
  cases test with
  | id name => simp only [Test.holds, Tree.attribute?, helement]
  | className name => simp only [Test.holds, helement]
  | attrPresence name => simp only [Test.holds, Tree.attribute?, helement]
  | attrValue name relation value => simp only [Test.holds, Tree.attribute?, helement]
  | _ => exact h.elim

/-- The compound asks for a tag and attributes alone. -/
def Compound.IsAttributive (c : Compound Filter) : Prop :=
  ∀ filter ∈ c.tests, ∃ test, filter = .test test ∧ test.IsAttributive

theorem Compound.IsAttributive.compoundHolds_eq (h : c.IsAttributive)
    (helement : t'.element? x = t.element? x) : compoundHolds t' c x = compoundHolds t c x := by
  refine compoundHolds_congr helement fun filter hfilter => ?_
  obtain ⟨test, rfl, htest⟩ := h filter hfilter
  exact htest.holds_eq helement

/-- All that a list asks of an element by itself is a tag and attributes. -/
def SelectorList.IsAttributive (l : SelectorList) : Prop :=
  ∀ s ∈ l.selectors, ∀ c ∈ s.compounds, c.IsAttributive

/-! ## From tokens -/

theorem exists_attributive_of_filterOf (hplain : token.kind.isPseudo = false)
    (h : filterOf token = .ok filter) : ∃ test, filter = .test test ∧ test.IsAttributive := by
  obtain ⟨kind, source⟩ := token
  cases kind with
  | id name => exact ⟨.id name, (Except.ok.inj h).symm, trivial⟩
  | className name => exact ⟨.className name, (Except.ok.inj h).symm, trivial⟩
  | attrPresence name => exact ⟨.attrPresence name, (Except.ok.inj h).symm, trivial⟩
  | attrValue name relation value =>
    exact ⟨.attrValue name relation value, (Except.ok.inj h).symm, trivial⟩
  | pseudoClass _ => simp [Kind.isPseudo] at hplain
  | pseudoElement _ => simp [Kind.isPseudo] at hplain
  | emptyCall _ => simp [Kind.isPseudo] at hplain
  | quotedCall _ _ => simp [Kind.isPseudo] at hplain
  | call _ _ => simp [Kind.isPseudo] at hplain
  | equationCall _ => simp [Kind.isPseudo] at hplain
  | _ => cases h

/-- A text without pseudo-classes compiles to a list that asks for tags and attributes. -/
theorem SelectorList.isAttributive_of_ofTokens
    (hplain : ∀ token ∈ tokens, token.kind.isPseudo = false)
    (h : SelectorList.ofTokens tokens = .ok l) : l.IsAttributive := by
  intro s hs c hc filter hfilter
  obtain ⟨token, htoken, hfound⟩ := SelectorList.writtenBy_ofTokens h hs hc filter hfilter
  exact exists_attributive_of_filterOf (hplain token htoken) hfound

/-! ## Growth -/

namespace SelectorList.IsAttributive

theorem matchesFrom_eq (h : l.IsAttributive) (hs : s ∈ l.selectors) (hgrown : t.Grown fresh t')
    (ht : t.Rooted) (hx : x < t.size) : matchesFrom t' s i x = matchesFrom t s i x := by
  refine matchesFrom_of_grown hgrown ht (· < t.size) (fun _ hy => hy) ?_ ?_ hx
  · intro combinator _ x _ y hy
    exact lt_size_of_isElement (isElement_of_mem_related hy)
  · intro c hc x hx
    exact (h s hs c hc).compoundHolds_eq (element?_congr (hgrown.data x hx))

/-- Every element that was there matches as before. -/
theorem matches_eq (h : l.IsAttributive) (hgrown : t.Grown fresh t') (ht : t.Rooted)
    (hx : x < t.size) : l.matches t' x = l.matches t x := by
  have hany : l.selectors.any (fun s => matchesFrom t' s (s.compounds.length - 1) x) =
      l.selectors.any (fun s => matchesFrom t s (s.compounds.length - 1) x) := by
    rw [Bool.eq_iff_iff, List.any_eq_true, List.any_eq_true]
    refine exists_congr fun s => and_congr_right fun hs => ?_
    rw [h.matchesFrom_eq hs hgrown ht hx]
  rw [SelectorList.matches, SelectorList.matches, isElement_eq (hgrown.data x hx), hany]

/-- Of the elements that were there, a query finds those that it found before. -/
theorem mem_select_iff (h : l.IsAttributive) (hgrown : t.Grown fresh t') (ht : t.Rooted)
    (hx : x < t.size) : x ∈ l.select t' ↔ x ∈ l.select t := by
  rw [mem_select hgrown.rooted, mem_select ht, hgrown.connected_iff ht hx,
    h.matches_eq hgrown ht hx]

end SelectorList.IsAttributive

end Topiary.Query
