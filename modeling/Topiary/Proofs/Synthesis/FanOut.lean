import Topiary.Proofs.Synthesis.Siblings
import Topiary.Proofs.Synthesis.Skips

/-!
Chains that fan out. From the first compound without matches on, every round attaches the copies of
its compound to each of the copies that the round before has made. A node counts how many new ones
there are from it upwards: a match lies as deep as the compounds behind the gap, and nothing lies
deeper than the rounds that are over, so nothing matches before its round, and then the copies do.
-/

namespace Topiary.Tree

variable {t t' : Tree} {x y p : NodeId} {size : Nat} {fresh : NodeId → List NodeId}

/-- How many of a node and those above it are new since the tree had a certain size. -/
def depthSince (t : Tree) (size : Nat) (x : NodeId) : Nat :=
  (x :: t.ancestors x).countP fun y => decide (size ≤ y)

theorem Grown.depthSince_eq (h : t.Grown fresh t') (ht : t.Rooted) (hx : t.Connected x) :
    t'.depthSince size x = t.depthSince size x := by
  rw [depthSince, depthSince, h.ancestors ht hx]

/-- Above an old node all is old. -/
theorem Grown.depthSince_eq_zero (h : t.Grown fresh t') (ht : t.Rooted) (hx : t'.Connected x)
    (hlt : x < t.size) : t'.depthSince t.size x = 0 := by
  have hconn := (h.connected_iff ht hlt).mp hx
  rw [h.depthSince_eq ht hconn, depthSince, List.countP_eq_zero]
  intro y hy
  have hold : y < t.size := by
    rcases List.mem_cons.mp hy with rfl | hy
    · exact hlt
    · exact ht.lt_size_of_connected (ht.connected_of_mem_ancestors hconn hy)
  simpa using hold

theorem Rooted.depthSince_child (h : t.Rooted) (hx : t.Connected x) (hp : t.parent? x = some p)
    (hnew : size ≤ x) : t.depthSince size x = t.depthSince size p + 1 := by
  rw [depthSince, h.ancestors_eq hx, hp, List.countP_cons_of_pos (by simpa using hnew)]
  rfl

/-- A new node lies deeper than all nodes above it. -/
theorem Rooted.depthSince_lt (h : t.Rooted) (hx : t.Connected x) (hy : y ∈ t.ancestors x)
    (hnew : size ≤ x) : t.depthSince size y < t.depthSince size x := by
  obtain ⟨u, v, hsplit, hv⟩ := (h.lineage_ancestors hx).of_mem hy
  have hcount : t.depthSince size x =
      (u ++ y :: v).countP (fun z => decide (size ≤ z)) + 1 := by
    rw [depthSince, hsplit, List.countP_cons_of_pos (by simpa using hnew)]
  rw [hcount, depthSince, hv.ancestors_eq h, List.countP_append]
  omega

end Topiary.Tree

namespace Topiary.Synthesis

open Topiary.Tree Topiary.Selector Topiary.Query

variable {limits : Limits} {payload own : Payload} {s : Sequence} {text upTo : String}
  {g head : Group}
  {links : List (Token × Group)} {link : Token × Group} {t t' t2 : Tree} {b b' : Binder}
  {report : Report} {w w' w1 w2 : Walk} {i j k n count : Nat} {full : Query.Complex}
  {x e m : NodeId} {token : Token} {kind : Kind} {test : Test} {fresh : NodeId → List NodeId}
  {found : List NodeId} {blueprint : Blueprint} {mark : Option Correlation}

/-! ## Copies -/

/-- The copies that a group asks for, within the limits. -/
def copiesOf (limits : Limits) (g : Group) : Nat :=
  match g.tokens.findSome? Token.multiplier with
  | some count => min count.toNat (max limits.maxMultiplier 1)
  | none => 1

/-- A tag, tokens that a blueprint carries out, and among them at most one repeat directive. -/
structure FanGroup (g : Group) : Prop where
  ofTag : OfTag IsBuildable g
  once : (g.tokens.filterMap Token.multiplier).length ≤ 1

/-- A repeat directive that a blueprint carries out asks for one copy at least. -/
theorem one_le_of_isBuildable {raw : Int} (h : IsBuildable token.kind)
    (hraw : token.multiplier = some raw) : 1 ≤ raw := by
  obtain ⟨kind, source⟩ := token
  cases kind with
  | equationCall equation =>
    obtain ⟨-, count, hcount, hwritten⟩ := h
    obtain rfl := Option.some.inj (hwritten.symm.trans hraw)
    exact hcount
  | _ => simp [Token.multiplier] at hraw

theorem FanGroup.multiplier_eq (h : FanGroup g) (hb : Blueprint.ofGroup g = .ok blueprint) :
    (Walk.multiplier limits blueprint.multiplier).1 = copiesOf limits g := by
  obtain ⟨name, source, rest, htokens, hrest⟩ := h.ofTag
  obtain rfl := Except.ok.inj ((Blueprint.ofGroup_eq htokens).symm.trans hb)
  have hfirst : g.tokens.findSome? Token.multiplier = rest.findSome? Token.multiplier := by
    rw [htokens]
    rfl
  rw [copiesOf, hfirst]
  cases hcount : rest.findSome? Token.multiplier with
  | none => rfl
  | some raw =>
    obtain ⟨token, htoken, hraw⟩ := List.exists_of_findSome?_eq_some hcount
    have hpositive := one_le_of_isBuildable (hrest token htoken) hraw
    simp only [Walk.multiplier]
    split_ifs <;> omega

/-- No more copies are made than the directive asks for. -/
theorem FanGroup.copiesOf_le (h : FanGroup g) (htoken : token ∈ g.tokens) {raw : Int}
    (hraw : token.multiplier = some raw) (hpositive : 1 ≤ raw) :
    (copiesOf limits g : Int) ≤ raw := by
  have hmem : raw ∈ g.tokens.filterMap Token.multiplier :=
    List.mem_filterMap.mpr ⟨token, htoken, hraw⟩
  have hall : g.tokens.filterMap Token.multiplier = [raw] := by
    obtain ⟨other, hother⟩ := List.length_eq_one_iff.mp
      (Nat.le_antisymm h.once (List.length_pos_of_mem hmem))
    rw [hother] at hmem ⊢
    rw [List.mem_singleton.mp hmem]
  have hfirst : g.tokens.findSome? Token.multiplier = some raw := by
    rw [← List.head?_filterMap, hall]
    rfl
  rw [copiesOf, hfirst]
  simp only
  omega

/-- Every copy of such a group satisfies it: no more elements follow than the directive allows. -/
theorem Walk.Built.holds_fresh (h : Walk.Built limits g w w' blueprint mark fresh) (hw : w.Sound)
    (hg : Workable g) (hfan : FanGroup g) (he : e ∈ w.context) (hm : m ∈ fresh e) :
    compoundHolds w'.tree (compoundOf g) m = true := by
  obtain ⟨l, r, hfresh⟩ := List.append_of_mem hm
  have hleaf := h.attached.leaf e l.length m (by simp [hfresh])
  have hplace := h.placeOf_fresh hw he hfresh
  have hlength : r.length + 1 ≤ copiesOf limits g := by
    rw [← hfan.multiplier_eq h.described, ← h.attached.length e he, hfresh]
    simp
  refine hg.compoundHolds h.described hleaf.element? rfl rfl fun token htoken raw hbuilds => ?_
  obtain ⟨hpositive, hraw⟩ := hbuilds.multiplier_eq
  have hle : (copiesOf limits g : Int) ≤ raw := hfan.copiesOf_le htoken hraw hpositive
  rw [hplace]
  omega

/-! ## Old nodes -/

theorem holds_of_grown_place (hbuilds : Builds kind test) (helement : t'.element? x = t.element? x)
    (hplace : (placeOf t x false true).1 ≤ (placeOf t' x false true).1)
    (h : test.holds t' x = true) : test.holds t x = true := by
  cases hbuilds with
  | id name => simpa only [Test.holds, Tree.attribute?, helement] using h
  | className name => simpa only [Test.holds, helement] using h
  | value name value => simpa only [Test.holds, Tree.attribute?, helement] using h
  | copies hk he ho =>
    rw [Test.holds] at h ⊢
    exact (Position.selects_iff_le rfl).mpr
      (Int.le_trans hplace ((Position.selects_iff_le rfl).mp h))

/-- What an old node satisfies in the larger tree it satisfied before. -/
theorem OfTag.compoundHolds_of_grown (hg : OfTag IsBuildable g) (hgrown : t.Grown fresh t')
    (ht : t.Rooted) (hx : x < t.size) (h : compoundHolds t' (compoundOf g) x = true) :
    compoundHolds t (compoundOf g) x = true := by
  obtain ⟨name, source, rest, tests, htokens, htests, hcompound, -⟩ := hg.compile
  have helement : t'.element? x = t.element? x := element?_congr (hgrown.data x hx)
  have hx' : t.isElement x = true := by
    rw [← isElement_eq (hgrown.data x hx)]
    exact isElement_of_compoundHolds h
  rw [hcompound] at h ⊢
  refine compoundHolds_mono helement.symm (fun filter hfilter hpass => ?_) h
  obtain ⟨test, htest, rfl⟩ := List.mem_map.mp hfilter
  obtain ⟨token, -, hbuilds⟩ := exists_builds_of_mem htests htest
  exact holds_of_grown_place hbuilds helement (placeOf_le_of_grown hgrown ht hx') hpass

/-! ## Fans -/

/-- A chain along `>` and blanks whose groups are plain up to a place and may ask for copies behind
it. -/
structure Fan (s : Sequence) (text : String) (head : Group) (links : List (Token × Group))
    (k : Nat) : Prop where
  parsed : Sequence.parse text = .ok s
  items : s.items = chainItems head links
  kinds : ∀ link ∈ links, link.1.kind = .child ∨ link.1.kind = .descendant
  plain : ∀ g ∈ head :: (links.take k).map Prod.snd, OfTag IsPlain g
  fans : ∀ link ∈ links.drop k, FanGroup link.2
  satisfiable : ∀ g ∈ head :: links.map Prod.snd, Satisfiable g

namespace Fan

theorem buildable (h : Fan s text head links k) :
    ∀ g ∈ head :: links.map Prod.snd, OfTag IsBuildable g := by
  intro g hg
  rw [← List.take_append_drop k links, List.map_append, ← List.cons_append] at hg
  rcases List.mem_append.mp hg with hg | hg
  · exact (h.plain g hg).mono fun _ => IsPlain.isBuildable
  · obtain ⟨link, hlink, rfl⟩ := List.mem_map.mp hg
    exact (h.fans link hlink).ofTag

theorem chain (h : Fan s text head links k) : IsChain s head links :=
  isChain_of_groups h.items
    (fun link hlink => ⟨_, (isDownward_jointOf (h.kinds link hlink)).1⟩) h.buildable

theorem workable (h : Fan s text head links k) (hg : g ∈ head :: links.map Prod.snd) :
    Workable g :=
  (h.satisfiable g hg).workable (h.buildable g hg) h.parsed (mem_items_of_chain h.items hg)

theorem downward (h : Fan s text head links k) :
    ∀ combinator ∈ (complexOf head links).combinators, IsDownward combinator := by
  intro combinator hcombinator
  obtain ⟨link, hlink, rfl⟩ := List.mem_map.mp hcombinator
  exact (isDownward_jointOf (h.kinds link hlink)).2

theorem outlasts (h : Fan s text head links k) : Outlasts (complexOf head links) := by
  refine outlasts_of_downward h.downward fun c hc => ?_
  obtain ⟨g, hg, hsame⟩ := exists_group_of_mem_compounds hc
  exact ⟨g, h.buildable g hg, hsame⟩

/-- Up to the place in question an old node matches as before. -/
theorem matchesFrom_eq (h : Fan s text head links k) (ht : t.Rooted) (hgrown : t.Grown fresh t')
    (hx : t.Connected x) : matchesFrom t' (complexOf head links) k x =
      matchesFrom t (complexOf head links) k x := by
  have hsteady : Steady (complexOf head (links.take k)) := steady_of_plain fun c hc => by
    obtain ⟨g, hg, hsame⟩ := exists_group_of_mem_compounds hc
    exact ⟨g, h.plain g hg, hsame⟩
  have htake : ∀ t, matchesFrom t (complexOf head (links.take k)) k x =
      matchesFrom t (complexOf head links) k x := fun _ => matchesFrom_take (Nat.le_refl k)
  rw [← htake t', ← htake t]
  exact hsteady ht hgrown hx

/-- No old node comes to match one compound further. -/
theorem matchesFrom_eq_false (h : Fan s text head links k) (hk : k < links.length) (ht : t.Rooted)
    (hgrown : t.Grown fresh t') (hx : t.Connected x)
    (hnone : matchesFrom t (complexOf head links) (k + 1) x = false) :
    matchesFrom t' (complexOf head links) (k + 1) x = false := by
  rw [Bool.eq_false_iff] at hnone ⊢
  intro hmatch
  obtain ⟨c, combinator, hc, hcombinator, hholds, y, hy, hbefore⟩ := matchesFrom_succ.mp hmatch
  rw [related_of_grown hgrown ht hx] at hy
  rw [h.matchesFrom_eq ht hgrown (connected_of_mem_related ht hx hy)] at hbefore
  obtain ⟨link, hlink⟩ : ∃ link, links[k]? = some link := ⟨_, List.getElem?_eq_getElem hk⟩
  have hgroup : OfTag IsBuildable link.2 := h.buildable link.2
    (List.mem_cons_of_mem _ (List.mem_map_of_mem (List.mem_of_getElem? hlink)))
  have hsame : c = compoundOf link.2 := by simpa [complexOf, hlink] using hc.symm
  refine hnone (matchesFrom_succ.mpr ⟨c, combinator, hc, hcombinator, ?_, y, hy, hbefore⟩)
  rw [hsame] at hholds ⊢
  exact hgroup.compoundHolds_of_grown hgrown ht (ht.lt_size_of_connected hx) hholds

end Fan

/-- A match lies as deep as there are compounds behind the first that no old node matches. -/
theorem le_depthSince_of_matchesFrom (ht : t.Rooted) (hgrown : t.Grown fresh t')
    (hdown : ∀ combinator ∈ full.combinators, IsDownward combinator)
    (hnone : ∀ x, t.Connected x → matchesFrom t' full (k + 1) x = false) (hx : t'.Connected x)
    (h : matchesFrom t' full (k + n) x = true) : n ≤ t'.depthSince t.size x := by
  induction n generalizing x with
  | zero => exact Nat.zero_le _
  | succ n ih =>
    obtain ⟨c, combinator, -, hcombinator, -, y, hy, hmatch⟩ := matchesFrom_succ.mp h
    have habove := mem_ancestors_of_mem_related hgrown.rooted hx
      (hdown combinator (List.mem_of_getElem? hcombinator)) hy
    have hconn := hgrown.rooted.connected_of_mem_ancestors hx habove
    have hle := ih hconn hmatch
    by_cases hlt : x < t.size
    · -- above an old node nothing is new, so this is the first compound behind the gap
      have hold := (hgrown.connected_iff ht hlt).mp hx
      rw [hgrown.ancestors ht hold] at habove
      have hy' := ht.lt_size_of_connected (ht.connected_of_mem_ancestors hold habove)
      rw [hgrown.depthSince_eq_zero ht hconn hy'] at hle
      obtain rfl : n = 0 := Nat.le_zero.mp hle
      rw [hnone x hold] at h
      simp at h
    · exact Nat.lt_of_le_of_lt hle
        (hgrown.rooted.depthSince_lt hx habove (Nat.le_of_not_lt hlt))

namespace Walk

/-! ## Rounds -/

/-- After `n` rounds behind the gap the context consists of all matches, which are `n` deep, and no
element lies deeper. -/
structure Fanned (t : Tree) (full : Query.Complex) (k n count : Nat) (w : Walk) : Prop where
  sound : w.Sound
  grown : ∃ fresh, t.Grown fresh w.tree
  finds : w.Finds full (k + n)
  length : w.context.length = count
  deep : ∀ x ∈ w.context, w.tree.depthSince t.size x = n
  shallow : ∀ x, w.tree.Connected x → w.tree.isElement x = true → w.tree.depthSince t.size x ≤ n

theorem Finds.perm (h : w.Finds full j) (h' : w'.Finds full j) (hw : w.Sound) (hw' : w'.Sound)
    (htree : w'.tree = w.tree) : w'.context.Perm w.context := by
  rw [List.perm_ext_iff_of_nodup hw'.nodup hw.nodup]
  intro x
  rw [h x, h' x, htree]

theorem Looking.fanned (h : w.Looking t full k) (ht : t.Rooted)
    (hlength : w.context.length = count) :
    w.Fanned t full k 0 count := by
  have hgrown := (Intact.refl t).grown ht
  have hzero : ∀ x, w.tree.Connected x → w.tree.depthSince t.size x = 0 := by
    rw [h.tree]
    intro x hx
    exact hgrown.depthSince_eq_zero ht hx (ht.lt_size_of_connected hx)
  refine ⟨h.sound, ⟨_, by rw [h.tree]; exact hgrown⟩, h.finds, hlength, fun x hx => ?_,
    fun x hx _ => ?_⟩
  · exact hzero x (h.sound.context x hx).1
  · rw [hzero x hx]

theorem Fanned.joint (h : w.Fanned t (complexOf head links) k n count)
    (hchain : IsChain s head links) (hs : Sequence.parse text = .ok s)
    (hj : links[k + n]? = some link)
    (hjoint : w.step limits own (s.upTo (2 * (k + n) + 1)) (.combinator link.1) = .ok w1) :
    w1.Fanned t (complexOf head links) k n count := by
  obtain ⟨hsound, htree, hfinds⟩ := h.finds.joint hchain hs h.sound hj hjoint
  have hperm := h.finds.perm hfinds h.sound hsound htree
  refine ⟨hsound, ?_, hfinds, hperm.length_eq.trans h.length, fun x hx => ?_, ?_⟩
  · rw [htree]
    exact h.grown
  · rw [htree]
    exact h.deep x (hperm.mem_iff.mp hx)
  · rw [htree]
    exact h.shallow

/-- Between the gap and its round nothing matches a compound. -/
theorem Fanned.matchesFrom_eq_false (h : w.Fanned t (complexOf head links) k n count)
    (hfan : Fan s text head links k) (hk : k < links.length) (ht : t.Rooted)
    (hnone : ∀ x, t.Connected x → matchesFrom t (complexOf head links) (k + 1) x = false)
    (hx : w.tree.Connected x) :
    matchesFrom w.tree (complexOf head links) (k + (n + 1)) x = false := by
  rw [Bool.eq_false_iff]
  intro hmatch
  obtain ⟨fresh, hgrown⟩ := h.grown
  have hle := le_depthSince_of_matchesFrom ht hgrown hfan.downward
    (fun y hy => hfan.matchesFrom_eq_false hk ht hgrown hy (hnone y hy)) hx hmatch
  have hshallow := h.shallow x hx (isElement_of_matchesFrom hmatch)
  omega

/-- The nodes of the context still match once they have got their copies: those that were there
from the start match plain compounds only, and above the others no copies go. -/
theorem Fanned.keeps {e : Element} {copies : Nat}
    (h : w.Fanned t (complexOf head links) k n count) (hfan : Fan s text head links k)
    (ht : t.Rooted) (hattached : Attached w.tree t2 e copies w.context fresh) (hx : x ∈ w.context) :
    matchesFrom t2 (complexOf head links) (k + n) x = true := by
  obtain ⟨old, hgrown⟩ := h.grown
  obtain ⟨hconn, hmatch⟩ := (h.finds x).mp hx
  have hdeep := h.deep x hx
  by_cases hlt : x < t.size
  · obtain rfl : 0 = n := (hgrown.depthSince_eq_zero ht hconn hlt).symm.trans hdeep
    rw [Nat.add_zero] at hmatch ⊢
    rw [hfan.matchesFrom_eq h.sound.rooted hattached.grown hconn]
    exact hmatch
  · rw [hfan.outlasts h.sound.rooted hattached.grown hconn fun p hp => ?_]
    · exact hmatch
    · refine hattached.others p fun hmem => ?_
      have hless := h.sound.rooted.depthSince_lt hconn hp (Nat.le_of_not_lt hlt)
      rw [h.deep p hmem, hdeep] at hless
      exact Nat.lt_irrefl n hless

/-- A copy lies one deeper than the node of the context that it was made for. -/
theorem Fanned.exists_parent (h : w.Fanned t full k n count)
    (hbuilt : Built limits g w w' blueprint mark fresh) (hx : x ∈ w'.context) :
    ∃ p ∈ w.context, x ∈ fresh p ∧ w'.tree.parent? x = some p ∧
      w'.tree.depthSince t.size x = n + 1 := by
  have hrooted := h.sound.rooted
  have hgrown := hbuilt.attached.grown
  have hsound := hbuilt.sound h.sound
  obtain ⟨old, hold⟩ := h.grown
  have hmem := hx
  rw [hbuilt.context] at hmem
  obtain ⟨p, hp, hfresh⟩ := List.mem_flatMap.mp hmem
  have hconn := (h.sound.context p hp).1
  have hparent := hgrown.parent?_fresh (hrooted.lt_size_of_connected hconn) hfresh
  have hge : t.size ≤ x := Nat.le_trans hold.size_le (hgrown.new p x hfresh)
  refine ⟨p, hp, hfresh, hparent, ?_⟩
  rw [hsound.rooted.depthSince_child (hsound.context x hx).1 hparent hge,
    hgrown.depthSince_eq hrooted hconn, h.deep p hp]

/-- An element that is no copy lies as deep as before. -/
theorem Fanned.mem_or_le (h : w.Fanned t full k n count)
    (hbuilt : Built limits g w w' blueprint mark fresh) (hconn : w'.tree.Connected x)
    (helement : w'.tree.isElement x = true) :
    x ∈ w'.context ∨ w'.tree.depthSince t.size x ≤ n := by
  have hrooted := h.sound.rooted
  have hgrown := hbuilt.attached.grown
  by_cases hlt : x < w.tree.size
  · have hbefore := (hgrown.connected_iff hrooted hlt).mp hconn
    rw [isElement_eq (hgrown.data x hlt)] at helement
    rw [hgrown.depthSince_eq hrooted hbefore]
    exact Or.inr (h.shallow x hbefore helement)
  · obtain ⟨p, hp, -, hfresh⟩ :=
      hbuilt.attached.exists_fresh hrooted hconn helement (Nat.le_of_not_lt hlt)
    rw [hbuilt.context]
    exact Or.inl (List.mem_flatMap.mpr ⟨p, hp, hfresh⟩)

/-- A compound behind the gap is built, which multiplies the context. -/
theorem Fanned.built (h : w.Fanned t (complexOf head links) k n count)
    (hfan : Fan s text head links k) (ht : t.Rooted)
    (hnone : ∀ x, t.Connected x → matchesFrom t (complexOf head links) (k + 1) x = false)
    (hj : links[k + n]? = some link)
    (hbuilt : Built limits link.2 w w' blueprint mark fresh) :
    w'.Fanned t (complexOf head links) k (n + 1) (count * copiesOf limits link.2) := by
  have hlink : link ∈ links := List.mem_of_getElem? hj
  have hgroup : FanGroup link.2 :=
    hfan.fans link (List.mem_of_getElem? (by rw [List.getElem?_drop]; exact hj))
  have hworkable : Workable link.2 :=
    hfan.workable (List.mem_cons_of_mem _ (List.mem_map_of_mem hlink))
  have hk : k < links.length := by
    have hlt := (List.getElem?_eq_some_iff.mp hj).1
    omega
  have hgrown := hbuilt.attached.grown
  have hsound := hbuilt.sound h.sound
  obtain ⟨old, hold⟩ := h.grown
  have hall := hold.trans hgrown
  refine ⟨hsound, ⟨_, hall⟩, fun x => ⟨fun hx => ?_, ?_⟩, ?_, fun x hx => ?_,
    fun x hconn helement => ?_⟩
  · obtain ⟨p, hp, hfresh, hparent, -⟩ := h.exists_parent hbuilt hx
    have hconn := (hsound.context x hx).1
    have helement := hgrown.isElement (h.sound.context p hp).2
    refine ⟨hconn, matchesFrom_succ.mpr ⟨compoundOf link.2, jointOf link.1, ?_, ?_, ?_, p, ?_, ?_⟩⟩
    · simp [complexOf, hj]
    · simp [complexOf, hj]
    · exact hbuilt.holds_fresh h.sound hworkable hgroup hp hfresh
    · exact mem_related_of_parent? hsound.rooted hconn hparent helement
        (isDownward_jointOf (hfan.kinds link hlink)).2
    · exact h.keeps hfan ht hbuilt.attached hp
  · rintro ⟨hconn, hmatch⟩
    have hle := le_depthSince_of_matchesFrom ht hall hfan.downward
      (fun y hy => hfan.matchesFrom_eq_false hk ht hall hy (hnone y hy)) hconn hmatch
    refine (h.mem_or_le hbuilt hconn (isElement_of_matchesFrom hmatch)).resolve_right ?_
    exact fun hshallow => Nat.not_succ_le_self n (Nat.le_trans hle hshallow)
  · rw [hbuilt.length_context, h.length, hgroup.multiplier_eq hbuilt.described]
  · obtain ⟨-, -, -, -, hdepth⟩ := h.exists_parent hbuilt hx
    exact hdepth
  · rcases h.mem_or_le hbuilt hconn helement with hx | hle
    · obtain ⟨-, -, -, -, hdepth⟩ := h.exists_parent hbuilt hx
      exact Nat.le_of_eq hdepth
    · exact Nat.le_succ_of_le hle

theorem Booked.created_of_combinator {outcome : Outcome}
    (h : Booked limits own upTo (.combinator token) w w' outcome) :
    w'.report.created = w.report.created := by
  rw [h.created]
  cases h.effect with
  | kept hnot _ => rw [Outcome.copies_eq_zero hnot, Nat.add_zero]
  | built hitem => simp at hitem

/-- A compound without matches is built. -/
theorem Booked.exists_built {outcome : Outcome} (hw : w.Sound)
    (h : Booked limits own upTo (.compound g) w w' outcome)
    (hquery : w.tree.query upTo = .ok []) :
    ∃ blueprint mark fresh, Built limits g w w' blueprint mark fresh ∧
      outcome = .synthesized (w.context.length * (multiplier limits blueprint.multiplier).1) := by
  cases h.effect with
  | kept _ htree =>
    rcases step_met_or_built hw h.step with ⟨-, hmet⟩ | ⟨-, _, -, _, _, _, hbuilt⟩
    · exact absurd hquery (hmet g rfl)
    · have hlt := hbuilt.size_lt
      rw [htree] at hlt
      exact absurd hlt (Nat.lt_irrefl _)
  | @built g' blueprint mark fresh hitem _ _ haccounted =>
    obtain rfl := Item.compound.inj hitem
    exact ⟨blueprint, mark, fresh, haccounted.toBuilt, rfl⟩

theorem Fanned.round {own' : Payload} {joint made : Outcome}
    (h : w.Fanned t (complexOf head links) k n count)
    (hfan : Fan s text head links k) (ht : t.Rooted)
    (hnone : ∀ x, t.Connected x → matchesFrom t (complexOf head links) (k + 1) x = false)
    (hj : links[k + n]? = some link)
    (hjoint : Booked limits own (s.upTo (2 * (k + n) + 1)) (.combinator link.1) w w1 joint)
    (hcompound : Booked limits own' (s.upTo (2 * (k + n + 1))) (.compound link.2) w1 w2 made) :
    w2.Fanned t (complexOf head links) k (n + 1) (count * copiesOf limits link.2) ∧
      made = .synthesized (count * copiesOf limits link.2) ∧
      w2.report.created = w.report.created + count * copiesOf limits link.2 := by
  have hlt := (List.getElem?_eq_some_iff.mp hj).1
  have h1 := h.joint hfan.chain hfan.parsed hj hjoint.step
  have hquery : w1.tree.query (s.upTo (2 * (k + n + 1))) = .ok [] := by
    rw [hfan.chain.query_eq_nil_iff hfan.parsed hlt h1.sound.rooted]
    intro x hx
    exact h1.matchesFrom_eq_false hfan (by omega) ht hnone hx
  obtain ⟨blueprint, mark, fresh, hbuilt, hmade⟩ := hcompound.exists_built h1.sound hquery
  have hgroup : FanGroup link.2 :=
    hfan.fans link (List.mem_of_getElem? (by rw [List.getElem?_drop]; exact hj))
  rw [h1.length, hgroup.multiplier_eq hbuilt.described] at hmade
  refine ⟨h1.built hfan ht hnone hj hbuilt, hmade, ?_⟩
  rw [hcompound.created, hjoint.created_of_combinator, hmade]
  rfl

/-! ## Courses along a chain -/

theorem length_chainItems (head : Group) (links : List (Token × Group)) :
    (chainItems head links).length = 2 * links.length + 1 := by
  calc (chainItems head links).length
      = (chainItems head (links.take links.length)).length := by rw [List.take_length]
    _ = 2 * links.length + 1 := length_chainItems_take (Nat.le_refl _)

namespace Course

variable {walks : Nat → Walk} {outcomes : Nat → Outcome}

theorem round (h : Course limits payload s 0 s.items walks outcomes)
    (hitems : s.items = chainItems head links) (hj : links[j]? = some link) :
    Booked limits .absent (s.upTo (2 * j + 1)) (.combinator link.1) (walks (2 * j + 1))
        (walks (2 * j + 2)) (outcomes (2 * j + 1)) ∧
      ∃ own, Booked limits own (s.upTo (2 * (j + 1))) (.compound link.2) (walks (2 * j + 2))
        (walks (2 * (j + 1) + 1)) (outcomes (2 * (j + 1))) := by
  have hlt := (List.getElem?_eq_some_iff.mp hj).1
  have hbefore : (chainItems head (links.take j)).length = 2 * j + 1 :=
    length_chainItems_take (Nat.le_of_lt hlt)
  have hlength := length_chainItems head links
  rw [← hitems] at hlength
  obtain ⟨rest, hrest⟩ := chainItems_split head hj
  have hjoint : s.items[2 * j + 1]? = some (.combinator link.1) := by
    rw [hitems, hrest, List.getElem?_append_right (Nat.le_of_eq hbefore), hbefore, Nat.sub_self]
    rfl
  have hcompound : s.items[2 * (j + 1)]? = some (.compound link.2) := by
    rw [hitems, hrest, List.getElem?_append_right (by omega), hbefore]
    have hone : 2 * (j + 1) - (2 * j + 1) = 1 := by omega
    rw [hone]
    rfl
  have hbooked := h _ _ hjoint
  rw [payloadAt, if_neg (by omega)] at hbooked
  simp only [Nat.zero_add] at hbooked
  have hbooked' := h _ _ hcompound
  rw [Nat.zero_add] at hbooked'
  exact ⟨hbooked, _, hbooked'⟩

/-- Up to the gap the walk only looks. -/
theorem looking (h : Course limits payload s 0 s.items walks outcomes)
    (hstart : walks 0 = ⟨t, b, [], .empty⟩) (hfan : Fan s text head links k) (ht : t.Rooted)
    (hk : k ≤ links.length)
    (hsome : t.Connected x ∧ matchesFrom t (complexOf head links) k x = true) (hj : j ≤ k) :
    (walks (2 * j + 1)).Looking t (complexOf head links) j := by
  induction j with
  | zero =>
    have hfirst : s.items[0]? = some (.compound head) := by rw [hfan.items]; rfl
    have hbooked := (h 0 _ hfirst).step
    rw [hstart] at hbooked
    have hsound : Sound ⟨t, b, [], .empty⟩ := sound_start ht
    rcases compound_ok hfan.chain hfan.parsed hsound (Nat.zero_le _) hbooked with
      ⟨htree, -, hfinds⟩ | ⟨-, _, _, _, hbuilt⟩
    · exact ⟨(hsound.step hbooked).1, htree, hfinds⟩
    · exact absurd rfl hbuilt.anchored
  | succ j ih =>
    obtain ⟨link, hlink⟩ : ∃ link, links[j]? = some link :=
      ⟨_, List.getElem?_eq_getElem (by omega)⟩
    obtain ⟨hjoint, own, hcompound⟩ := h.round hfan.items hlink
    exact (ih (Nat.le_of_succ_le hj)).round hfan.chain hfan.parsed hlink
      (exists_matchesFrom_of_le ht hsome.1 hsome.2 hj) hjoint.step hcompound.step

/-- Behind the gap every round multiplies the matches by the copies that its compound asks for. -/
theorem fanned (h : Course limits payload s 0 s.items walks outcomes)
    (hstart : walks 0 = ⟨t, b, [], .empty⟩) (hfan : Fan s text head links k) (ht : t.Rooted)
    (hk : k < links.length) (hfound : t.query (s.upTo (2 * k)) = .ok found) (hne : found ≠ [])
    (hnone : ∀ x, t.Connected x → matchesFrom t (complexOf head links) (k + 1) x = false)
    (hn : n ≤ (links.drop k).length) :
    let counts := (links.drop k).map fun link => copiesOf limits link.2
    (walks (2 * (k + n) + 1)).Fanned t (complexOf head links) k n
        (found.length * (counts.take n).prod) ∧
      (walks (2 * (k + n) + 1)).report.created =
        found.length * ∑ i ∈ Finset.range n, (counts.take (i + 1)).prod ∧
      ∀ i < n, outcomes (2 * (k + 1 + i)) =
        .synthesized (found.length * (counts.take (i + 1)).prod) := by
  intro counts
  induction n with
  | zero =>
    have hmem := hfan.chain.mem_of_query hfan.parsed (Nat.le_of_lt hk) ht hfound
    obtain ⟨x, hx⟩ := List.exists_mem_of_ne_nil _ hne
    have hlooking := h.looking hstart hfan ht (Nat.le_of_lt hk) ((hmem x).mp hx) (Nat.le_refl k)
    have hperm : (walks (2 * k + 1)).context.Perm found := by
      rw [List.perm_ext_iff_of_nodup hlooking.sound.nodup (nodup_query ht hfound).1]
      intro y
      rw [hlooking.finds y, hmem y, hlooking.tree]
    have hlt : 2 * k + 1 < s.items.length := by
      rw [hfan.items, length_chainItems]
      omega
    have htally := h.tally (t := t) (by rw [hstart]; exact .start ht) hlt
    have hcreated := htally.elements
    rw [hlooking.tree] at hcreated
    refine ⟨hlooking.fanned ht (by simpa using hperm.length_eq), ?_, by simp⟩
    simp only [Nat.add_zero, Finset.range_zero, Finset.sum_empty, Nat.mul_zero]
    omega
  | succ n ih =>
    obtain ⟨hfanned, hcreated, houtcomes⟩ := ih (Nat.le_of_succ_le hn)
    obtain ⟨link, hdrop⟩ : ∃ link, (links.drop k)[n]? = some link :=
      ⟨_, List.getElem?_eq_getElem hn⟩
    have hlink : links[k + n]? = some link := by rwa [List.getElem?_drop] at hdrop
    have hprod : found.length * (counts.take (n + 1)).prod =
        found.length * (counts.take n).prod * copiesOf limits link.2 := by
      have hcount : counts[n]? = some (copiesOf limits link.2) := by
        rw [List.getElem?_map, hdrop, Option.map_some]
      rw [List.take_add_one, hcount, Option.toList_some, List.prod_append, List.prod_singleton,
        Nat.mul_assoc]
    obtain ⟨hjoint, own, hcompound⟩ := h.round hfan.items hlink
    obtain ⟨hnext, hmade, hmore⟩ := hfanned.round hfan ht hnone hlink hjoint hcompound
    refine ⟨?_, ?_, fun i hi => ?_⟩
    · rw [hprod]
      exact hnext
    · rw [Finset.sum_range_succ, Nat.mul_add found.length, hprod, ← hcreated]
      exact hmore
    · rcases Nat.lt_or_eq_of_le (Nat.le_of_lt_succ hi) with hlt | rfl
      · exact houtcomes i hlt
      · have hplace : k + 1 + i = k + i + 1 := by omega
        rw [hprod, hplace]
        exact hmade

end Course

end Walk

theorem OfTag.supported (h : OfTag IsBuildable g) : Supported g := by
  obtain ⟨name, source, rest, htokens, hrest⟩ := h
  refine ⟨name, source, rest, htokens, fun token htoken => ?_⟩
  obtain ⟨test, htest⟩ := exists_builds (hrest token htoken)
  exact ⟨_, filterOf_of_builds htest⟩

/-- A chain of groups that are all buildable and satisfiable is made true, provided that its first
group matches something. -/
theorem Fan.materialize_ok (h : Fan s text head links k) (ht : t.Reachable)
    (hfirst : t.Connected x ∧ matchesFrom t (complexOf head links) 0 x = true) (limits : Limits)
    (payload : Payload) (b : Binder) :
    ∃ report t' b', materialize limits s payload t b = (.ok report, t', b') := by
  obtain ⟨found, hfound, hmem⟩ :=
    h.chain.query_compound h.parsed (Nat.zero_le _) (t := t) ht.rooted
  obtain ⟨y, ys, rfl⟩ := List.exists_cons_of_ne_nil (List.ne_nil_of_mem ((hmem x).mpr hfirst))
  have hrising : Rising s text head links t := Rising.of_items ht.rooted h.parsed h.items h.kinds
    (fun g hg => (h.buildable g hg).supported) hfound
  rcases hmade : materialize limits s payload t b with ⟨error | report, t', b'⟩
  · obtain ⟨place, link, -, hloses⟩ := hrising.materialize_iff.mp hmade
    obtain ⟨g, hg, hnot⟩ := hloses.exists_not_buildable ht.rooted h.parsed h.items h.kinds
    have hmemg : g ∈ head :: links.map Prod.snd := by
      rcases List.mem_cons.mp hg with rfl | hg
      · exact List.mem_cons_self
      · rw [List.map_take] at hg
        exact List.mem_cons_of_mem _ (List.mem_of_mem_take hg)
    exact absurd ⟨h.buildable g hmemg, h.satisfiable g hmemg⟩ hnot
  · exact ⟨report, t', b', rfl⟩

/-- A chain along `>` and blanks whose groups are all satisfiable fans out from the first compound
without matches on: it is made true, every further compound is built, and each of them multiplies
the copies of the one before it, or the matches in front of the first, by those it asks for. -/
theorem materialize_fans_out (ht : t.Reachable) (hfan : Fan s text head links k)
    (hk : k < links.length) (hfound : t.query (s.upTo (2 * k)) = .ok found) (hne : found ≠ [])
    (hnone : t.query (s.upTo (2 * (k + 1))) = .ok []) (limits : Limits) (payload : Payload)
    (b : Binder) :
    let counts := (links.drop k).map fun link => copiesOf limits link.2
    ∃ report t' b', materialize limits s payload t b = (.ok report, t', b') ∧
      (∀ i < counts.length, report.steps[2 * (k + 1 + i)]? = some ⟨s.upTo (2 * (k + 1 + i)),
        .synthesized (found.length * (counts.take (i + 1)).prod)⟩) ∧
      report.created =
        found.length * ∑ i ∈ Finset.range counts.length, (counts.take (i + 1)).prod := by
  intro counts
  have hroot := ht.rooted
  have hmem := hfan.chain.mem_of_query hfan.parsed (Nat.le_of_lt hk) hroot hfound
  rw [hfan.chain.query_eq_nil_iff hfan.parsed hk hroot] at hnone
  obtain ⟨x, hx⟩ := List.exists_mem_of_ne_nil _ hne
  obtain ⟨y, hy⟩ := exists_matchesFrom_of_le hroot ((hmem x).mp hx).1 ((hmem x).mp hx).2
    (Nat.zero_le k)
  obtain ⟨report, t', b', hmade⟩ := hfan.materialize_ok ht hy limits payload b
  refine ⟨report, t', b', hmade, ?_⟩
  obtain ⟨w, hrun, rfl, rfl⟩ := Synthesis.materialize_ok hmade
  obtain ⟨walks, outcomes, hstart, rfl, hcourse⟩ :=
    Walk.exists_course (Walk.sound_start hroot) hrun
  have hlength : counts.length = (links.drop k).length := List.length_map _
  obtain ⟨-, hcreated, houtcomes⟩ := hcourse.fanned hstart hfan hroot hk hfound hne hnone
    (n := counts.length) (Nat.le_of_eq hlength)
  have hend : 2 * (k + counts.length) + 1 = s.items.length := by
    rw [hfan.items, Walk.length_chainItems, hlength, List.length_drop]
    omega
  have hsteps := hcourse.steps (by rw [hstart]; rfl) (Nat.le_refl _)
  rw [hend] at hcreated
  refine ⟨fun i hi => ?_, hcreated⟩
  rw [hsteps, List.getElem?_map, List.getElem?_range (by omega), Option.map_some, Nat.zero_add,
    houtcomes i hi]

/-- What follows `body` in the selector `body head:nth-last-child(-n+2) html`. -/
def fanLinks : List (Token × Group) :=
  [(⟨.descendant, " "⟩, headPair), (⟨.descendant, " "⟩, ⟨[⟨.tag "html", "html"⟩]⟩)]

theorem fan_fanLinks : Fan ⟨chainItems anchorGroup fanLinks⟩
    "body head:nth-last-child(-n+2) html" anchorGroup fanLinks 0 := by
  have hparsed : Sequence.parse "body head:nth-last-child(-n+2) html" =
      .ok ⟨chainItems anchorGroup fanLinks⟩ := by cbv
  have hbody : Document.skeleton.tree.query anchorGroup.source = .ok [3] := by cbv
  have hhtml : Document.skeleton.tree.query "html" = .ok [1] := by cbv
  refine ⟨hparsed, rfl, by decide, ?_, ?_, ?_⟩
  · intro g hg
    obtain rfl := List.mem_singleton.mp hg
    exact ⟨_, _, _, rfl, by simp⟩
  · intro link hlink
    rcases List.mem_cons.mp hlink with rfl | hlink
    · exact ⟨isBuildable_headPair, by decide⟩
    · obtain rfl := List.mem_singleton.mp hlink
      exact ⟨⟨_, _, _, rfl, by simp⟩, by decide⟩
  · intro g hg
    rcases List.mem_cons.mp hg with rfl | hg
    · exact ⟨_, _, _, reachable_skeleton, hbody⟩
    · rcases List.mem_cons.mp hg with rfl | hg
      · exact satisfiable_headPair
      · obtain rfl := List.mem_singleton.mp hg
        exact ⟨_, _, _, reachable_skeleton, hhtml⟩

/-- One `body` gets two `head`s, and each of them gets one `html`. -/
theorem materialize_fans_out_skeleton :
    Document.skeleton.tree.Reachable ∧
      ∃ report t' b', materialize ⟨9⟩ ⟨chainItems anchorGroup fanLinks⟩ (.literal "x")
          Document.skeleton.tree .empty = (.ok report, t', b') ∧
        report.steps[2]? = some ⟨"body head:nth-last-child(-n+2)", .synthesized 2⟩ ∧
        report.steps[4]? = some ⟨"body head:nth-last-child(-n+2) html", .synthesized 2⟩ ∧
        report.created = 4 := by
  have hfound : Document.skeleton.tree.query
      ((⟨chainItems anchorGroup fanLinks⟩ : Sequence).upTo (2 * 0)) = .ok [3] := by cbv
  have hnone : Document.skeleton.tree.query
      ((⟨chainItems anchorGroup fanLinks⟩ : Sequence).upTo (2 * (0 + 1))) = .ok [] := by cbv
  obtain ⟨report, t', b', hmade, hsteps, hcreated⟩ := materialize_fans_out reachable_skeleton
    fan_fanLinks (by decide) hfound (by simp) hnone ⟨9⟩ (.literal "x") .empty
  refine ⟨reachable_skeleton, report, t', b', hmade, ?_, ?_, ?_⟩
  · exact (hsteps 0 (by decide)).trans (by decide)
  · exact (hsteps 1 (by decide)).trans (by decide)
  · exact hcreated.trans (by decide)

end Topiary.Synthesis
