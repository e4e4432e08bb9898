import Topiary.Proofs.Synthesis.Fulfilment
import Topiary.Proofs.Synthesis.Sprouts

/-!
Joints between siblings. Whatever the joint, copies go below the nodes of the context, where nothing
is ever put behind them. So a compound behind a `+` or `~` that has to be built can only be
satisfied next to elements that the parents of the copies had already, and not at all behind
another compound that was built.
-/

namespace Topiary.Synthesis

open Topiary.Tree Topiary.Selector Topiary.Query

variable {limits : Limits} {payload : Payload} {s : Sequence} {text : String} {g head : Group}
  {links : List (Token × Group)} {link : Token × Group} {t t' : Tree} {b b' : Binder}
  {report : Report} {w w' w1 w2 : Walk} {j k : Nat} {full : Query.Complex} {x y e m : NodeId}
  {token : Token} {fresh : NodeId → List NodeId} {combinator : Combinator}
  {found : List NodeId} {blueprint : Blueprint} {mark : Option Correlation}

/-! ## Plain groups -/

theorem Blueprint.multiplier_add (h : IsPlain token.kind) (b : Blueprint) :
    (b.add token).multiplier = b.multiplier := by
  obtain ⟨kind, source⟩ := token
  cases kind with
  | id name => rfl
  | className name => rfl
  | attrValue name relation value =>
    cases relation with
    | equals => rfl
    | _ => exact h.elim
  | _ => exact h.elim

theorem Blueprint.multiplier_foldl {rest : List Token} (h : ∀ token ∈ rest, IsPlain token.kind)
    (b : Blueprint) : (rest.foldl Blueprint.add b).multiplier = b.multiplier := by
  induction rest generalizing b with
  | nil => rfl
  | cons token rest ih =>
    rw [List.foldl_cons, ih fun a ha => h a (by simp [ha])]
    exact Blueprint.multiplier_add (h token (by simp)) b

/-- A group without a repeat directive asks for one copy. -/
theorem OfTag.multiplier_eq (h : OfTag IsPlain g) (hb : Blueprint.ofGroup g = .ok blueprint) :
    (Walk.multiplier limits blueprint.multiplier).1 = 1 := by
  obtain ⟨name, source, rest, htokens, hrest⟩ := h
  rw [Blueprint.ofGroup, htokens] at hb
  obtain rfl := Except.ok.inj hb
  rw [Blueprint.multiplier_foldl hrest]
  rfl

/-- An old node matches the selector as before, wherever new nodes go. -/
def Steady (full : Query.Complex) : Prop :=
  ∀ {t t' : Tree} {fresh : NodeId → List NodeId} {x : NodeId} {j : Nat}, t.Rooted →
    t.Grown fresh t' → t.Connected x → matchesFrom t' full j x = matchesFrom t full j x

theorem steady_of_plain (h : ∀ c ∈ full.compounds, ∃ g, OfTag IsPlain g ∧ compoundOf g = c) :
    Steady full := by
  intro t t' fresh x j ht hgrown hx
  refine matchesFrom_of_grown hgrown ht t.Connected (fun x hx => ht.lt_size_of_connected hx)
    (fun combinator _ x hx y hy => connected_of_mem_related ht hx hy) (fun c hc x hx => ?_) hx
  obtain ⟨g, hg, rfl⟩ := h c hc
  have hlt := ht.lt_size_of_connected hx
  exact (hg.mono fun _ => IsPlain.isBuildable).compoundHolds_eq
    (element?_congr (hgrown.data x hlt)) (Or.inl hg)

theorem Steady.outlasts (h : Steady full) : Outlasts full :=
  fun ht hgrown hx _ => h ht hgrown hx

/-- Where a copy below one of the nodes stands to some of them as a joint asks. -/
def Hosts (t : Tree) (found : List NodeId) : Combinator → Prop
  | .child | .descendant => True
  | .nextAdjacent => ∃ p ∈ found, ∃ y ∈ found, (t.elementChildren p).getLast? = some y
  | .nextSibling => ∃ p ∈ found, ∃ y ∈ found, y ∈ t.elementChildren p

namespace Walk

/-! ## Up to the first compound without matches -/

/-- So far the walk has built nothing, and it has all matches in its context. -/
structure Looking (t : Tree) (full : Query.Complex) (j : Nat) (w : Walk) : Prop where
  sound : w.Sound
  tree : w.tree = t
  finds : w.Finds full j

theorem Looking.joint (h : w.Looking t (complexOf head links) j) (hchain : IsChain s head links)
    (hs : Sequence.parse text = .ok s) (hj : links[j]? = some link)
    (hjoint : w.step limits .absent (s.upTo (2 * j + 1)) (.combinator link.1) = .ok w1) :
    w1.Looking t (complexOf head links) j := by
  obtain ⟨hsound, htree, hfinds⟩ := h.finds.joint hchain hs h.sound hj hjoint
  exact ⟨hsound, htree.trans h.tree, hfinds⟩

theorem Looking.round {own : Payload} (h : w.Looking t (complexOf head links) j)
    (hchain : IsChain s head links) (hs : Sequence.parse text = .ok s) (hj : links[j]? = some link)
    (hsome : ∃ x, t.Connected x ∧ matchesFrom t (complexOf head links) (j + 1) x = true)
    (hjoint : w.step limits .absent (s.upTo (2 * j + 1)) (.combinator link.1) = .ok w1)
    (hcompound : w1.step limits own (s.upTo (2 * (j + 1))) (.compound link.2) = .ok w2) :
    w2.Looking t (complexOf head links) (j + 1) := by
  have h1 := h.joint hchain hs hj hjoint
  rcases compound_ok hchain hs h1.sound (List.getElem?_eq_some_iff.mp hj).1 hcompound with
    ⟨htree, -, hfinds⟩ | ⟨hnot, -⟩
  · exact ⟨(h1.sound.step hcompound).1, htree.trans h1.tree, hfinds⟩
  · obtain ⟨x, hx, hmatch⟩ := hsome
    rw [h1.tree] at hnot
    rw [hnot x hx] at hmatch
    simp at hmatch

/-- Where a compound has no matches, the walk builds it below all matches of what is before it. -/
theorem Looking.built {own : Payload} (h : w.Looking t (complexOf head links) j)
    (hchain : IsChain s head links) (hs : Sequence.parse text = .ok s) (hj : links[j]? = some link)
    (hnone : ∀ x, t.Connected x → matchesFrom t (complexOf head links) (j + 1) x = false)
    (hjoint : w.step limits .absent (s.upTo (2 * j + 1)) (.combinator link.1) = .ok w1)
    (hcompound : w1.step limits own (s.upTo (2 * (j + 1))) (.compound link.2) = .ok w2) :
    w1.Looking t (complexOf head links) j ∧
      ∃ blueprint mark fresh, Built limits link.2 w1 w2 blueprint mark fresh := by
  have h1 := h.joint hchain hs hj hjoint
  rcases compound_ok hchain hs h1.sound (List.getElem?_eq_some_iff.mp hj).1 hcompound with
    ⟨htree, hne, hfinds⟩ | ⟨-, hbuilt⟩
  · obtain ⟨x, hx⟩ := List.exists_mem_of_ne_nil _ hne
    obtain ⟨hconn, hmatch⟩ := (hfinds x).mp hx
    rw [htree, h1.tree] at hconn hmatch
    rw [hnone x hconn] at hmatch
    simp at hmatch
  · exact ⟨h1, hbuilt⟩

/-- The walk looks until it builds the first compound without matches; what is true then and
preserved by every later round is true at the end. -/
theorem materialize_gap {P : Nat → Walk → Prop} (ht : t.Rooted) (hchain : IsChain s head links)
    (hs : Sequence.parse text = .ok s) (hk : links[k]? = some link)
    (hsome : t.Connected x ∧ matchesFrom t (complexOf head links) k x = true)
    (hnone : ∀ x, t.Connected x → matchesFrom t (complexOf head links) (k + 1) x = false)
    (hgap : ∀ w w' blueprint mark fresh, w.Looking t (complexOf head links) k →
      Built limits link.2 w w' blueprint mark fresh → P (k + 1) w')
    (hround : ∀ j link own w w1 w2, k < j → links[j]? = some link → P j w →
      w.step limits .absent (s.upTo (2 * j + 1)) (.combinator link.1) = .ok w1 →
      w1.step limits own (s.upTo (2 * (j + 1))) (.compound link.2) = .ok w2 → P (j + 1) w2)
    (h : materialize limits s payload t b = (.ok report, t', b')) :
    ∃ w, w.tree = t' ∧ P links.length w := by
  have hrounds := materialize_rounds
    (P := fun j w => (j ≤ k → w.Looking t (complexOf head links) j) ∧ (k < j → P j w)) ht hchain hs
    (fun w hw htree _ hfinds =>
      ⟨fun _ => ⟨hw, htree, hfinds⟩, fun hlt => absurd hlt (Nat.not_lt_zero k)⟩) ?_ h
  · obtain ⟨w, htree, -, hP⟩ := hrounds
    exact ⟨w, htree, hP (List.getElem?_eq_some_iff.mp hk).1⟩
  · intro j link' own w w1 w2 hj hw hjoint hcompound
    refine ⟨fun hle => ?_, fun hlt => ?_⟩
    · exact (hw.1 (Nat.le_of_succ_le hle)).round hchain hs hj
        (exists_matchesFrom_of_le ht hsome.1 hsome.2 hle) hjoint hcompound
    · rcases Nat.lt_or_eq_of_le (Nat.le_of_lt_succ hlt) with hlt | rfl
      · exact hround j link' own w w1 w2 hlt hj (hw.2 hlt) hjoint hcompound
      · obtain rfl := Option.some.inj (hk.symm.trans hj)
        obtain ⟨hlooking, blueprint, mark, fresh, hbuilt⟩ :=
          (hw.1 (Nat.le_refl k)).built hchain hs hj hnone hjoint hcompound
        exact hgap w1 w2 blueprint mark fresh hlooking hbuilt

/-! ## Past the first compound without matches -/

/-- Everything that matches up to a compound is in the context, is new and has no elements below. -/
structure Past (t : Tree) (parents : List NodeId) (full : Query.Complex) (j : Nat) (w : Walk) :
    Prop where
  sound : w.Sound
  sprouted : Sprouted t parents w.tree
  leaves : ∀ x ∈ w.context, w.tree.elementChildren x = []
  young : ∀ x ∈ w.context, t.size ≤ x
  matched : ∀ x, w.tree.Connected x → matchesFrom w.tree full j x = true → x ∈ w.context

theorem Built.past (hbuilt : Built limits g w w' blueprint mark fresh) (hw : w.Sound)
    (hsteady : Steady full) (hplain : OfTag IsPlain g) (hsprouted : Sprouted t found w.tree)
    (hcontext : ∀ p ∈ w.context, w.tree.elementChildren p = [] ∨
      ∃ q ∈ found, w.tree.elementChildren p = t.elementChildren q)
    (hnone : ∀ x, w.tree.Connected x → matchesFrom w.tree full j x = false) :
    w'.Past t found full j := by
  have hattached := hbuilt.attached
  rw [hplain.multiplier_eq hbuilt.described] at hattached
  have hgrown := hattached.grown
  have hsize : t.size ≤ w.tree.size := by
    obtain ⟨more, hmore⟩ := hsprouted.grown
    exact hmore.size_le
  refine ⟨hbuilt.sound hw, hsprouted.attach hw.rooted hattached hcontext, ?_, ?_, ?_⟩
  · intro x hx
    rw [hbuilt.context, List.mem_flatMap] at hx
    obtain ⟨p, -, hp⟩ := hx
    obtain ⟨e, hleaf⟩ := hattached.exists_leaf hp
    exact hleaf.elementChildren
  · intro x hx
    rw [hbuilt.context, List.mem_flatMap] at hx
    obtain ⟨p, -, hp⟩ := hx
    exact Nat.le_trans hsize (hgrown.new p x hp)
  · intro x hx hmatch
    have hnew : w.tree.size ≤ x := by
      by_contra hold
      have hx' := (hgrown.connected_iff hw.rooted (Nat.lt_of_not_le hold)).mp hx
      rw [hsteady hw.rooted hgrown hx', hnone x hx'] at hmatch
      simp at hmatch
    obtain ⟨p, hp, -, hfresh⟩ :=
      hattached.exists_fresh hw.rooted hx (isElement_of_matchesFrom hmatch) hnew
    rw [hbuilt.context]
    exact List.mem_flatMap.mpr ⟨p, hp, hfresh⟩

/-- Nothing matches one compound further: new elements have nothing below or behind them. -/
theorem Past.matchesFrom_eq_false (h : w.Past t found full j) (ht : t.Rooted)
    (hx : w.tree.Connected x) : matchesFrom w.tree full (j + 1) x = false := by
  by_contra hmatch
  rw [Bool.not_eq_false] at hmatch
  have helement := isElement_of_matchesFrom hmatch
  obtain ⟨c, combinator, -, -, -, y, hy, hmatch⟩ := matchesFrom_succ.mp hmatch
  have hmem := h.matched y (connected_of_mem_related h.sound.rooted hx hy) hmatch
  have hsibling : y ∉ related w.tree .nextSibling x := fun hy =>
    Nat.not_lt_of_le (h.young y hmem) (h.sprouted.lt_size ht hx helement hy)
  have hbelow : ¬ IsDownward combinator := fun hdown =>
    elementChildren_ne_nil_of_mem_related h.sound.rooted hx helement hdown hy (h.leaves y hmem)
  cases combinator with
  | child => exact hbelow trivial
  | descendant => exact hbelow trivial
  | nextAdjacent => exact hsibling (mem_nextSibling_of_mem_nextAdjacent hy)
  | nextSibling => exact hsibling hy

theorem Past.round {own : Payload} (h : w.Past t found (complexOf head links) j) (ht : t.Rooted)
    (hsteady : Steady (complexOf head links)) (hplain : OfTag IsPlain link.2)
    (hchain : IsChain s head links) (hs : Sequence.parse text = .ok s) (hj : links[j]? = some link)
    (hjoint : w.step limits .absent (s.upTo (2 * j + 1)) (.combinator link.1) = .ok w1)
    (hcompound : w1.step limits own (s.upTo (2 * (j + 1))) (.compound link.2) = .ok w2) :
    w2.Past t found (complexOf head links) (j + 1) := by
  have hsound := (h.sound.step hjoint).1
  have h1 : w1.Past t found (complexOf head links) j := by
    obtain ⟨htree, ⟨-, hcontext⟩ | ⟨-, hfinds⟩⟩ := joint_ok hchain hs h.sound hj hjoint
    · exact ⟨hsound, by rw [htree]; exact h.sprouted, by rw [htree, hcontext]; exact h.leaves,
        by rw [hcontext]; exact h.young, by rw [htree, hcontext]; exact h.matched⟩
    · have hsub : ∀ x ∈ w1.context, x ∈ w.context := fun x hx => by
        obtain ⟨hconn, hmatch⟩ := (hfinds x).mp hx
        rw [htree] at hconn hmatch
        exact h.matched x hconn hmatch
      refine ⟨hsound, by rw [htree]; exact h.sprouted, fun x hx => ?_,
        fun x hx => h.young x (hsub x hx), fun x hx hmatch => (hfinds x).mpr ⟨hx, hmatch⟩⟩
      rw [htree]
      exact h.leaves x (hsub x hx)
  rcases compound_ok hchain hs hsound (List.getElem?_eq_some_iff.mp hj).1 hcompound with
    ⟨htree, hne, hfinds⟩ | ⟨hnone, blueprint, mark, fresh, hbuilt⟩
  · obtain ⟨x, hx⟩ := List.exists_mem_of_ne_nil _ hne
    obtain ⟨hconn, hmatch⟩ := (hfinds x).mp hx
    rw [htree] at hconn hmatch
    rw [h1.matchesFrom_eq_false ht hconn] at hmatch
    simp at hmatch
  · exact hbuilt.past hsound hsteady hplain h1.sprouted (fun p hp => Or.inl (h1.leaves p hp)) hnone

/-! ## What the joints have to be -/

section Reading

variable (ht : t.Rooted) (hsteady : Steady full) (hsprouted : Sprouted t found t')
  (hnone : ∀ x, t.Connected x → matchesFrom t full (k + 1) x = false)

include ht hsteady hsprouted hnone

/-- Only new nodes match beyond the first compound without matches. -/
theorem size_le_of_matchesFrom (hk : k < j) (hx : t'.Connected x)
    (hmatch : matchesFrom t' full j x = true) : t.size ≤ x := by
  obtain ⟨fresh, hgrown⟩ := hsprouted.grown
  by_contra hold
  have hx' := (hgrown.connected_iff ht (Nat.lt_of_not_le hold)).mp hx
  rw [hsteady ht hgrown hx'] at hmatch
  obtain ⟨y, hy, hmatch⟩ := exists_matchesFrom_of_le ht hx' hmatch hk
  rw [hnone y hy] at hmatch
  simp at hmatch

theorem isDownward_of_matchesFrom (hk : k < j)
    (hcombinator : full.combinators[j]? = some combinator) (hx : t'.Connected x)
    (hmatch : matchesFrom t' full (j + 1) x = true) : IsDownward combinator := by
  have helement := isElement_of_matchesFrom hmatch
  obtain ⟨c, other, -, hother, -, y, hy, hmatch⟩ := matchesFrom_succ.mp hmatch
  obtain rfl := Option.some.inj (hother.symm.trans hcombinator)
  have hrooted : t'.Rooted := by
    obtain ⟨fresh, hgrown⟩ := hsprouted.grown
    exact hgrown.rooted
  have hnew := size_le_of_matchesFrom ht hsteady hsprouted hnone hk
    (connected_of_mem_related hrooted hx hy) hmatch
  have hsibling : y ∉ related t' .nextSibling x := fun hy =>
    Nat.not_lt_of_le hnew (hsprouted.lt_size ht hx helement hy)
  cases other with
  | child => trivial
  | descendant => trivial
  | nextAdjacent => exact absurd (mem_nextSibling_of_mem_nextAdjacent hy) hsibling
  | nextSibling => exact absurd hy hsibling

theorem hosts_of_matchesFrom
    (hfound : ∀ x, x ∈ found ↔ t.Connected x ∧ matchesFrom t full k x = true)
    (hcombinator : full.combinators[k]? = some combinator) (hx : t'.Connected x)
    (hmatch : matchesFrom t' full (k + 1) x = true) : Hosts t found combinator := by
  have hnew := size_le_of_matchesFrom ht hsteady hsprouted hnone (Nat.lt_succ_self k) hx hmatch
  have helement := isElement_of_matchesFrom hmatch
  obtain ⟨c, other, -, hother, -, y, hy, hmatch⟩ := matchesFrom_succ.mp hmatch
  obtain rfl := Option.some.inj (hother.symm.trans hcombinator)
  obtain ⟨fresh, hgrown⟩ := hsprouted.grown
  -- what stands before the new node are the elements that its parent had
  have hbefore : y ∈ related t' .nextSibling x → ∃ p ∈ found, y ∈ found ∧
      related t' .nextSibling x = (t.elementChildren p).reverse := by
    intro hy
    rcases hsprouted.before x hx helement hnew with hnil | ⟨p, hp, hsame⟩
    · rw [hnil] at hy
      simp at hy
    · have hlt := hsprouted.lt_size ht hx helement hy
      have hconn := (hgrown.connected_iff ht hlt).mp (connected_of_mem_related hgrown.rooted hx hy)
      rw [hsteady ht hgrown hconn] at hmatch
      exact ⟨p, hp, (hfound y).mpr ⟨hconn, hmatch⟩, hsame⟩
  cases other with
  | child => trivial
  | descendant => trivial
  | nextAdjacent =>
    obtain ⟨p, hp, hyfound, hsame⟩ := hbefore (mem_nextSibling_of_mem_nextAdjacent hy)
    rw [related_nextAdjacent, hsame, List.head?_reverse, Option.mem_toList] at hy
    exact ⟨p, hp, y, hyfound, hy⟩
  | nextSibling =>
    obtain ⟨p, hp, hyfound, hsame⟩ := hbefore hy
    rw [hsame, List.mem_reverse] at hy
    exact ⟨p, hp, y, hyfound, hy⟩

end Reading

/-- A copy that stands to the matches as the joint asks is a match itself. -/
theorem Looking.fulfils (h : w.Looking t full k) (hne : w.context ≠ [])
    (hbuilt : Built limits g w w' blueprint mark fresh) (hsteady : Steady full)
    (hg : Workable g) (hplain : OfTag IsPlain g)
    (hcompound : full.compounds[k + 1]? = some (compoundOf g))
    (hcombinator : full.combinators[k]? = some combinator)
    (hsub : ∀ x ∈ found, x ∈ w.context) (hosts : Hosts w.tree found combinator) :
    w'.Fulfils full (k + 1) := by
  have hattached := hbuilt.attached
  rw [hplain.multiplier_eq hbuilt.described] at hattached
  have hrooted := h.sound.rooted
  have hsibling : ∀ p ∈ w.context, ∀ y ∈ w.context,
      (∀ m, related w'.tree .nextSibling m = (w.tree.elementChildren p).reverse →
        y ∈ related w'.tree combinator m) → w'.Fulfils full (k + 1) := by
    intro p hp y hy hrelated
    obtain ⟨m, hm, hholds⟩ := hbuilt.exists_holds h.sound hg hp
    have hbefore := hattached.related_fresh hrooted hp
      (hrooted.lt_size_of_connected (h.sound.context p hp).1) hm
    have hmatch : matchesFrom w'.tree full k y = true := by
      rw [hsteady hrooted hattached.grown (h.sound.context y hy).1]
      exact ((h.finds y).mp hy).2
    exact hbuilt.fulfils h.sound hp hm (matchesFrom_succ.mpr
      ⟨_, combinator, hcompound, hcombinator, hholds, y, hrelated m hbefore, hmatch⟩)
  cases combinator with
  | child =>
    exact (h.finds.fulfils h.sound hne).built hsteady.outlasts hbuilt hg hcompound hcombinator
      trivial
  | descendant =>
    exact (h.finds.fulfils h.sound hne).built hsteady.outlasts hbuilt hg hcompound hcombinator
      trivial
  | nextAdjacent =>
    obtain ⟨p, hp, y, hy, hlast⟩ := hosts
    refine hsibling p (hsub p hp) y (hsub y hy) fun m hm => ?_
    rw [related_nextAdjacent, hm, List.head?_reverse, hlast]
    simp
  | nextSibling =>
    obtain ⟨p, hp, y, hy, hkid⟩ := hosts
    refine hsibling p (hsub p hp) y (hsub y hy) fun m hm => ?_
    rw [hm]
    exact List.mem_reverse.mpr hkid

end Walk

/-! ## Whole chains -/

theorem exists_gap {n : Nat} (hfirst : ∃ x, t.Connected x ∧ matchesFrom t full 0 x = true)
    (hlast : ¬ ∃ x, t.Connected x ∧ matchesFrom t full n x = true) :
    ∃ k < n, (∃ x, t.Connected x ∧ matchesFrom t full k x = true) ∧
      ∀ x, t.Connected x → matchesFrom t full (k + 1) x = false := by
  induction n with
  | zero => exact absurd hfirst hlast
  | succ n ih =>
    by_cases hn : ∃ x, t.Connected x ∧ matchesFrom t full n x = true
    · refine ⟨n, Nat.lt_succ_self n, hn, fun x hx => ?_⟩
      rw [← Bool.not_eq_true]
      exact fun hmatch => hlast ⟨x, hx, hmatch⟩
    · obtain ⟨k, hk, hgap⟩ := ih hn
      exact ⟨k, Nat.lt_succ_of_lt hk, hgap⟩

/-- A chain of groups without repeat directives, each of which some element satisfies. -/
structure IsPlainChain (s : Sequence) (head : Group) (links : List (Token × Group)) : Prop where
  chain : IsChain s head links
  plain : ∀ g ∈ head :: links.map Prod.snd, OfTag IsPlain g
  workable : ∀ g ∈ head :: links.map Prod.snd, Workable g

namespace IsPlainChain

theorem of_groups (hs : Sequence.parse text = .ok s) (hitems : s.items = chainItems head links)
    (hjoints : ∀ link ∈ links, ∃ combinator, combinatorOf? link.1.kind = some combinator)
    (hgroups : ∀ g ∈ head :: links.map Prod.snd, OfTag IsPlain g ∧ Satisfiable g) :
    IsPlainChain s head links := by
  have hbuildable : ∀ g ∈ head :: links.map Prod.snd, OfTag IsBuildable g := fun g hg =>
    (hgroups g hg).1.mono fun _ => IsPlain.isBuildable
  exact ⟨isChain_of_groups hitems hjoints hbuildable, fun g hg => (hgroups g hg).1, fun g hg =>
    (hgroups g hg).2.workable (hbuildable g hg) hs (mem_items_of_chain hitems hg)⟩

variable (hc : IsPlainChain s head links) (hs : Sequence.parse text = .ok s) (ht : t.Rooted)
  (h : materialize limits s payload t b = (.ok report, t', b'))

theorem mem_groups (hj : links[j]? = some link) : link.2 ∈ head :: links.map Prod.snd :=
  List.mem_cons_of_mem _ (List.mem_map_of_mem (List.mem_of_getElem? hj))

include hc

theorem steady : Steady (complexOf head links) :=
  steady_of_plain fun c hmem => by
    obtain ⟨g, hg, hsame⟩ := exists_group_of_mem_compounds hmem
    exact ⟨g, hc.plain g hg, hsame⟩

include hs ht h

/-- A walk that succeeds has found its first compound. -/
theorem exists_first : ∃ x, t.Connected x ∧ matchesFrom t (complexOf head links) 0 x = true := by
  obtain ⟨w, -, hfirst⟩ := Walk.materialize_rounds
    (P := fun _ _ => ∃ x, t.Connected x ∧ matchesFrom t (complexOf head links) 0 x = true) ht
    hc.chain hs (fun w _ htree hne hfinds => by
      obtain ⟨x, hx⟩ := List.exists_mem_of_ne_nil _ hne
      rw [← htree]
      exact ⟨x, (hfinds x).mp hx⟩) (fun _ _ _ _ _ _ _ hfirst _ _ => hfirst) h
  exact hfirst

variable (hk : links[k]? = some link)
  (hsome : t.Connected x ∧ matchesFrom t (complexOf head links) k x = true)
  (hnone : ∀ x, t.Connected x → matchesFrom t (complexOf head links) (k + 1) x = false)
  (hfound : ∀ x, x ∈ found ↔ t.Connected x ∧ matchesFrom t (complexOf head links) k x = true)

include hk hsome hnone hfound

theorem past : ∃ w : Walk, w.tree = t' ∧ w.Past t found (complexOf head links) links.length := by
  refine Walk.materialize_gap (P := fun j w => w.Past t found (complexOf head links) j) ht hc.chain
    hs hk hsome hnone ?_ ?_ h
  · intro w w' blueprint mark fresh hlooking hbuilt
    obtain ⟨hsound, rfl, hfinds⟩ := hlooking
    refine hbuilt.past hsound hc.steady (hc.plain link.2 (mem_groups hk)) (.refl ht found) ?_ hnone
    exact fun p hp => Or.inr ⟨p, (hfound p).mpr ((hfinds p).mp hp), rfl⟩
  · intro j link own w w1 w2 _ hj hw hjoint hcompound
    exact hw.round ht hc.steady (hc.plain link.2 (mem_groups hj)) hc.chain hs hj hjoint hcompound

/-- If something matches in the end, the joints are as they have to be. -/
theorem hosts_and_downward (hx : t'.Connected y)
    (hmatch : matchesFrom t' (complexOf head links) links.length y = true) :
    Hosts t found (jointOf link.1) ∧
      ∀ later ∈ links.drop (k + 1), IsDownward (jointOf later.1) := by
  obtain ⟨w, rfl, hpast⟩ := hc.past hs ht h hk hsome hnone hfound
  constructor
  · obtain ⟨z, hz, hmatch⟩ := exists_matchesFrom_of_le hpast.sound.rooted hx hmatch
      (List.getElem?_eq_some_iff.mp hk).1
    exact Walk.hosts_of_matchesFrom ht hc.steady hpast.sprouted hnone hfound
      (by simp [complexOf, hk]) hz hmatch
  · intro later hlater
    obtain ⟨i, hi⟩ := List.getElem?_of_mem hlater
    rw [List.getElem?_drop] at hi
    obtain ⟨z, hz, hmatch⟩ := exists_matchesFrom_of_le hpast.sound.rooted hx hmatch
      (List.getElem?_eq_some_iff.mp hi).1
    exact Walk.isDownward_of_matchesFrom ht hc.steady hpast.sprouted hnone
      (Nat.lt_of_lt_of_le (Nat.lt_succ_self k) (Nat.le_add_right _ i)) (by simp [complexOf, hi]) hz
      hmatch

/-- If the joints are as they have to be, something matches in the end. -/
theorem fulfils (hosts : Hosts t found (jointOf link.1))
    (hdown : ∀ later ∈ links.drop (k + 1), IsDownward (jointOf later.1)) :
    ∃ w : Walk, w.tree = t' ∧ w.Fulfils (complexOf head links) links.length := by
  refine Walk.materialize_gap (P := fun j w => w.Fulfils (complexOf head links) j) ht hc.chain
    hs hk hsome hnone ?_ ?_ h
  · intro w w' blueprint mark fresh hlooking hbuilt
    have hmem : link.2 ∈ head :: links.map Prod.snd := mem_groups hk
    obtain ⟨hsound, rfl, hfinds⟩ := hlooking
    refine Walk.Looking.fulfils ⟨hsound, rfl, hfinds⟩ (List.ne_nil_of_mem ((hfinds x).mpr hsome))
      hbuilt hc.steady (hc.workable link.2 hmem) (hc.plain link.2 hmem) (by simp [complexOf, hk])
      (by simp [complexOf, hk]) (fun z hz => (hfinds z).mpr ((hfound z).mp hz)) hosts
  · intro j link' own w w1 w2 hlt hj hw hjoint hcompound
    have hlater : link' ∈ links.drop (k + 1) := by
      refine List.mem_of_getElem? (i := j - (k + 1)) ?_
      rw [List.getElem?_drop, Nat.add_sub_cancel' hlt]
      exact hj
    exact hw.round (Steady.outlasts hc.steady) hc.chain hs hj
      (hc.workable link'.2 (mem_groups hj)) (hdown link' hlater) hjoint hcompound

end IsPlainChain

/-- A chain of groups without repeat directives matches something after it was made true exactly if
the joint in front of the first compound without matches has hosts among the matches of what is
before it, and all later joints are downward. -/
theorem materialize_fulfils_iff (ht : t.Reachable) (hs : Sequence.parse text = .ok s)
    (hitems : s.items = chainItems head links)
    (hjoints : ∀ link ∈ links, ∃ combinator, combinatorOf? link.1.kind = some combinator)
    (hgroups : ∀ g ∈ head :: links.map Prod.snd, OfTag IsPlain g ∧ Satisfiable g)
    (h : materialize limits s payload t b = (.ok report, t', b')) :
    (∃ x xs, t'.query text = .ok (x :: xs)) ↔
      ∀ k link found, links[k]? = some link → t.query (s.upTo (2 * k)) = .ok found → found ≠ [] →
        t.query (s.upTo (2 * (k + 1))) = .ok [] → Hosts t found (jointOf link.1) ∧
          ∀ later ∈ links.drop (k + 1), IsDownward (jointOf later.1) := by
  have hc := IsPlainChain.of_groups hs hitems hjoints hgroups
  constructor
  · intro hquery k link found hk hfound hne hnil
    have hlt := (List.getElem?_eq_some_iff.mp hk).1
    have hiff := hc.chain.mem_of_query hs (Nat.le_of_lt hlt) ht.rooted hfound
    have hnone := (hc.chain.query_eq_nil_iff hs (Nat.succ_le_of_lt hlt) ht.rooted).mp hnil
    obtain ⟨x, hx⟩ := List.exists_mem_of_ne_nil _ hne
    have hrooted : t'.Rooted := by
      obtain ⟨w, rfl, hpast⟩ := hc.past hs ht.rooted h hk ((hiff x).mp hx) hnone hiff
      exact hpast.sound.rooted
    obtain ⟨y, hy, hmatch⟩ := (hc.chain.exists_query_text_iff hs hrooted).mp hquery
    exact hc.hosts_and_downward hs ht.rooted h hk ((hiff x).mp hx) hnone hiff hy hmatch
  · intro hall
    by_cases hfull : ∃ x xs, t.query text = .ok (x :: xs)
    · obtain ⟨x, xs, hquery⟩ := hfull
      have hmet := query_upTo_ne_nil ht.rooted hs hc.chain.ne_separator hquery
        (List.cons_ne_nil x xs)
      obtain ⟨steps, hrun, -⟩ := materialize_of_met limits payload b fun j g _ => hmet j
      obtain rfl : t = t' := congrArg (fun r => r.2.1) (hrun.symm.trans h)
      exact ⟨x, xs, hquery⟩
    · obtain ⟨k, hlt, ⟨x, hx⟩, hnone⟩ := exists_gap (hc.exists_first hs ht.rooted h)
        ((hc.chain.exists_query_text_iff hs ht.rooted).not.mp hfull)
      have hk := List.getElem?_eq_getElem hlt
      obtain ⟨found, hfound, hiff⟩ := hc.chain.query_compound hs (Nat.le_of_lt hlt) ht.rooted
      have hnil := (hc.chain.query_eq_nil_iff hs (Nat.succ_le_of_lt hlt) ht.rooted).mpr hnone
      obtain ⟨hosts, hdown⟩ :=
        hall k _ found hk hfound (List.ne_nil_of_mem ((hiff x).mpr hx)) hnil
      obtain ⟨w, rfl, hw⟩ := hc.fulfils hs ht.rooted h hk hx hnone hiff hosts hdown
      obtain ⟨y, hy, hmatch, -⟩ := hw.topmost
      exact (hc.chain.exists_query_text_iff hs hw.sound.rooted).mpr
        ⟨y, (hw.sound.context y hy).1, hmatch⟩

/-- The head of `body + head`, and what is joined to it. -/
def bodyGroup : Group := ⟨[⟨.tag "body", "body"⟩]⟩

def headLinks : List (Token × Group) := [(⟨.nextAdjacent, " + "⟩, ⟨[⟨.tag "head", "head"⟩]⟩)]

theorem parse_bodyHead :
    Sequence.parse "body + head" = .ok ⟨chainItems bodyGroup headLinks⟩ := by cbv

theorem plain_bodyHead : ∀ g ∈ bodyGroup :: headLinks.map Prod.snd,
    OfTag IsPlain g ∧ Satisfiable g := by
  have hbody : Document.skeleton.tree.query "body" = .ok [3] := by cbv
  have hhead : Document.skeleton.tree.query "head" = .ok [2] := by cbv
  intro g hg
  rcases List.mem_cons.mp hg with rfl | hg
  · exact ⟨⟨_, _, _, rfl, by simp⟩, _, _, _, reachable_skeleton, hbody⟩
  · rw [List.mem_singleton.mp hg]
    exact ⟨⟨_, _, _, rfl, by simp⟩, _, _, _, reachable_skeleton, hhead⟩

theorem joints_bodyHead : ∀ link ∈ headLinks,
    combinatorOf? link.1.kind = some .nextAdjacent := by
  decide

theorem materialize_bodyHead : ∃ report t' b',
    materialize ⟨1000⟩ ⟨chainItems bodyGroup headLinks⟩ .absent Document.skeleton.tree .empty =
        (.ok report, t', b') ∧
      t'.query "body + head" = .ok [] := by
  have hfirst : Walk.step ⟨1000⟩ .absent "body" (.compound bodyGroup)
      ⟨Document.skeleton.tree, .empty, [], .empty⟩ = .ok ⟨Document.skeleton.tree, .empty, [3],
        ⟨[⟨"body", .matched 1⟩], 0, [], none, false⟩⟩ := by cbv
  have hjoint : Document.skeleton.tree.query "body + " =
      .error (.danglingCombinator .nextAdjacent) := by cbv
  have hlast : ∀ report : Report, (Walk.step ⟨1000⟩ .absent "body + head"
      (.compound ⟨[⟨.tag "head", "head"⟩]⟩) ⟨Document.skeleton.tree, .empty, [3], report⟩).map
        (fun w => w.tree.query "body + head") = .ok (.ok []) := by
    intro report
    cbv
  obtain ⟨report, hsecond⟩ : ∃ report, Walk.step ⟨1000⟩ .absent "body + "
      (.combinator ⟨.nextAdjacent, " + "⟩) ⟨Document.skeleton.tree, .empty, [3],
        ⟨[⟨"body", .matched 1⟩], 0, [], none, false⟩⟩ =
      .ok ⟨Document.skeleton.tree, .empty, [3], report⟩ := ⟨_, Walk.step_of_error hjoint⟩
  have hrest := hlast report
  cases hthird : Walk.step ⟨1000⟩ .absent "body + head" (.compound ⟨[⟨.tag "head", "head"⟩]⟩)
    ⟨Document.skeleton.tree, .empty, [3], report⟩ with
  | error cause => simp [hthird, Except.map] at hrest
  | ok w =>
    have hnil : w.tree.query "body + head" = .ok [] := by simpa [hthird, Except.map] using hrest
    have hrun : Walk.run ⟨1000⟩ .absent ⟨chainItems bodyGroup headLinks⟩ 0
        ⟨Document.skeleton.tree, .empty, [], .empty⟩ (chainItems bodyGroup headLinks) =
        (w, none) := by
      have hzero : (⟨chainItems bodyGroup headLinks⟩ : Sequence).upTo 0 = "body" := by cbv
      have hone : (⟨chainItems bodyGroup headLinks⟩ : Sequence).upTo (0 + 1) = "body + " := by cbv
      have htwo : (⟨chainItems bodyGroup headLinks⟩ : Sequence).upTo (0 + 1 + 1) =
          "body + head" := by cbv
      have hitems : chainItems bodyGroup headLinks = [.compound bodyGroup,
        .combinator ⟨.nextAdjacent, " + "⟩, .compound ⟨[⟨.tag "head", "head"⟩]⟩] := rfl
      nth_rewrite 2 [hitems]
      simp only [Walk.run, hzero, hone, htwo, List.isEmpty_cons, List.isEmpty_nil, ite_self, hfirst,
        hsecond, hthird]
    exact ⟨w.report, w.tree, w.binder, by rw [materialize, hrun], hnil⟩

/-- A chain with a joint between siblings may match nothing after it was made true. -/
theorem not_materialize_fulfils_of_sibling :
    ¬ ∀ (limits : Limits) (payload : Payload) (text : String) (s : Sequence) (head : Group)
      (links : List (Token × Group)) (t t' : Tree) (b b' : Binder) (report : Report),
      t.Reachable → Sequence.parse text = .ok s → s.items = chainItems head links →
      (∀ link ∈ links, ∃ combinator, combinatorOf? link.1.kind = some combinator) →
      (∃ link ∈ links, ¬ IsDownward (jointOf link.1)) →
      (∀ g ∈ head :: links.map Prod.snd, OfTag IsPlain g ∧ Satisfiable g) →
      materialize limits s payload t b = (.ok report, t', b') →
      ∃ x xs, t'.query text = .ok (x :: xs) := by
  intro hall
  obtain ⟨report, t', b', hrun, hnil⟩ := materialize_bodyHead
  obtain ⟨x, xs, hquery⟩ := hall _ _ _ _ _ _ _ _ _ _ _ reachable_skeleton parse_bodyHead rfl
    (fun link hlink => ⟨_, joints_bodyHead link hlink⟩) ⟨_, List.mem_cons_self, id⟩ plain_bodyHead
    hrun
  rw [hnil] at hquery
  simp at hquery

theorem materialize_fulfils_iff_skeleton : ∃ report t' b',
    materialize ⟨1000⟩ ⟨chainItems bodyGroup headLinks⟩ .absent Document.skeleton.tree .empty =
        (.ok report, t', b') ∧
      ((∃ x xs, t'.query "body + head" = .ok (x :: xs)) ↔
        ∀ k link found, headLinks[k]? = some link →
          Document.skeleton.tree.query
            ((⟨chainItems bodyGroup headLinks⟩ : Sequence).upTo (2 * k)) = .ok found →
          found ≠ [] →
          Document.skeleton.tree.query
            ((⟨chainItems bodyGroup headLinks⟩ : Sequence).upTo (2 * (k + 1))) = .ok [] →
          Hosts Document.skeleton.tree found (jointOf link.1) ∧
            ∀ later ∈ headLinks.drop (k + 1), IsDownward (jointOf later.1)) := by
  obtain ⟨report, t', b', hrun, -⟩ := materialize_bodyHead
  exact ⟨report, t', b', hrun, materialize_fulfils_iff reachable_skeleton parse_bodyHead rfl
    (fun link hlink => ⟨_, joints_bodyHead link hlink⟩) plain_bodyHead hrun⟩

end Topiary.Synthesis
