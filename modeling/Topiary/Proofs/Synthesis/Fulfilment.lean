import Topiary.Proofs.Query.Growing
import Topiary.Proofs.Synthesis.Likeness
import Topiary.Proofs.Synthesis.Rounds

/-!
Chains that are made true. Round by round the context has a topmost node that matches as far as the
walk has come; nothing is appended to the ancestors of such a node, so its match outlasts the round,
and the last copy below it matches one compound further.
-/

namespace Topiary.Synthesis

open Topiary.Tree Topiary.Selector Topiary.Query
open Topiary.Sheet (Rule)

variable {limits : Limits} {payload : Payload} {s : Sequence} {text : String} {g head : Group}
  {links : List (Token × Group)} {link : Token × Group} {t t' : Tree} {b b' : Binder}
  {report : Report} {w w' : Walk} {j : Nat} {full : Query.Complex} {x e m : NodeId} {test : Test}
  {kind : Kind} {token : Token} {fresh : NodeId → List NodeId} {combinator : Combinator}

/-! ## Matches that outlast growth -/

theorem holds_of_grown (hbuilds : Builds kind test) (helement : t'.element? x = t.element? x)
    (hplace : IsPlain kind ∨ placeOf t' x false true = placeOf t x false true) :
    test.holds t' x = test.holds t x := by
  cases hbuilds with
  | id name => simp only [Test.holds, Tree.attribute?, helement]
  | className name => simp only [Test.holds, helement]
  | value name value => simp only [Test.holds, Tree.attribute?, helement]
  | copies hk he ho =>
    rcases hplace with hplain | hplace
    · exact hplain.elim
    · simp only [Test.holds, hplace]

theorem OfTag.isPlain_of_builds (h : OfTag IsPlain g) (htoken : token ∈ g.tokens)
    (hbuilds : Builds token.kind test) : IsPlain token.kind := by
  obtain ⟨name, source, rest, htokens, hrest⟩ := h
  rw [htokens] at htoken
  rcases List.mem_cons.mp htoken with rfl | htoken
  · cases hbuilds
  · exact hrest token htoken

/-- A buildable compound holds as before where the place among the siblings counts for nothing or
is the same. -/
theorem OfTag.compoundHolds_eq (h : OfTag IsBuildable g) (helement : t'.element? x = t.element? x)
    (hplace : OfTag IsPlain g ∨ placeOf t' x false true = placeOf t x false true) :
    Query.compoundHolds t' (compoundOf g) x = Query.compoundHolds t (compoundOf g) x := by
  obtain ⟨name, source, rest, tests, htokens, htests, hcompound, -⟩ := h.compile
  rw [hcompound]
  refine compoundHolds_congr helement fun filter hfilter => ?_
  obtain ⟨test, htest, rfl⟩ := List.mem_map.mp hfilter
  obtain ⟨token, htoken, hbuilds⟩ := exists_builds_of_mem htests htest
  refine holds_of_grown hbuilds helement (hplace.imp_left fun hplain => ?_)
  exact hplain.isPlain_of_builds (by simp [htokens, htoken]) hbuilds

/-- A node with no new nodes below any of its ancestors matches the selector as before. -/
def Outlasts (full : Query.Complex) : Prop :=
  ∀ {t t' : Tree} {fresh : NodeId → List NodeId} {x : NodeId} {j : Nat}, t.Rooted →
    t.Grown fresh t' → t.Connected x → (∀ p ∈ t.ancestors x, fresh p = []) →
      matchesFrom t' full j x = matchesFrom t full j x

theorem outlasts_of_downward (hdown : ∀ combinator ∈ full.combinators, IsDownward combinator)
    (hcompounds : ∀ c ∈ full.compounds, ∃ g, OfTag IsBuildable g ∧ compoundOf g = c) :
    Outlasts full := by
  intro t t' fresh x j ht hgrown hx hfresh
  refine matchesFrom_of_grown hgrown ht
    (fun x => t.Connected x ∧ ∀ p ∈ t.ancestors x, fresh p = [])
    (fun x hx => ht.lt_size_of_connected hx.1) ?_ ?_ ⟨hx, hfresh⟩
  · intro combinator hcombinator x hx y hy
    have habove := mem_ancestors_of_mem_related ht hx.1 (hdown combinator hcombinator) hy
    exact ⟨ht.connected_of_mem_ancestors hx.1 habove,
      fun p hp => hx.2 p (ht.ancestors_subset hx.1 habove hp)⟩
  · intro c hc x hx
    obtain ⟨g, hg, rfl⟩ := hcompounds c hc
    have hlt := ht.lt_size_of_connected hx.1
    refine hg.compoundHolds_eq (element?_congr (hgrown.data x hlt)) (Or.inr ?_)
    exact placeOf_of_grown hgrown ht hlt
      (fun p hp => hx.2 p (ht.mem_ancestors_of_parent? hx.1 hp)) true

/-! ## Rounds that succeed -/

namespace Walk

/-- Some node of the context matches up to a compound, and no node above it is in the context. -/
structure Fulfils (w : Walk) (full : Query.Complex) (j : Nat) : Prop where
  sound : w.Sound
  topmost : ∃ e ∈ w.context, matchesFrom w.tree full j e = true ∧
    ∀ a ∈ w.tree.ancestors e, a ∉ w.context

theorem Finds.fulfils (h : w.Finds full j) (hw : w.Sound) (hne : w.context ≠ []) :
    w.Fulfils full j := by
  obtain ⟨x, hx⟩ := List.exists_mem_of_ne_nil _ hne
  obtain ⟨e, he, htop⟩ := exists_topmost hw.rooted (fun x hx => (hw.context x hx).1) hx
  exact ⟨hw, e, he, ((h e).mp he).2, htop⟩

/-- The copies below a node are the last of its elements, and keep their order. -/
theorem Built.placeOf_fresh {blueprint : Blueprint} {mark : Option Correlation} {l r : List NodeId}
    (h : Built limits g w w' blueprint mark fresh) (hw : w.Sound) (he : e ∈ w.context)
    (hfresh : fresh e = l ++ m :: r) : (placeOf w'.tree m false true).1 = r.length + 1 := by
  have hlt := hw.rooted.lt_size_of_connected (hw.context e he).1
  have hgrown := h.attached.grown
  have hmem : m ∈ fresh e := by simp [hfresh]
  have hall : (fresh e).filter w'.tree.isElement = fresh e := by
    rw [List.filter_eq_self]
    intro a ha
    obtain ⟨e', hleaf⟩ := h.attached.exists_leaf ha
    exact hleaf.isElement
  have hkids : w'.tree.elementChildren e = (w.tree.elementChildren e ++ l) ++ m :: r := by
    rw [hgrown.elementChildren hw.rooted hlt, hall, hfresh, List.append_assoc]
  have hnodup : (w'.tree.elementChildren e).Nodup :=
    hgrown.rooted.linked.nodup_children.filter _
  rw [hkids] at hnodup
  have hnot : m ∉ w.tree.elementChildren e ++ l := fun hm =>
    (List.nodup_append.mp hnodup).2.2 m hm m List.mem_cons_self rfl
  exact placeOf_of_split (hgrown.parent?_fresh hlt hmem) hkids hnot

/-- The last copy below a node satisfies the group that it was built from. -/
theorem Built.exists_holds {blueprint : Blueprint} {mark : Option Correlation}
    (h : Built limits g w w' blueprint mark fresh) (hw : w.Sound) (hg : Workable g)
    (he : e ∈ w.context) : ∃ m ∈ fresh e, compoundHolds w'.tree (compoundOf g) m = true := by
  have hne : fresh e ≠ [] := by
    have hlength := h.attached.length e he
    have hone := one_le_multiplier limits blueprint.multiplier
    rintro hnil
    rw [hnil, List.length_nil] at hlength
    omega
  obtain ⟨l, m, hfresh⟩ : ∃ l m, fresh e = l ++ [m] :=
    ⟨_, _, (List.dropLast_append_getLast hne).symm⟩
  have hleaf := h.attached.leaf e l.length m (by simp [hfresh])
  have hplace := h.placeOf_fresh hw he hfresh
  refine ⟨m, by simp [hfresh], hg.compoundHolds h.described hleaf.element? rfl rfl ?_⟩
  intro token _ k hbuilds
  simpa [hplace] using hbuilds.multiplier_eq.1

/-- No node above a copy is in the new context: they were all there before. -/
theorem Built.fulfils {blueprint : Blueprint} {mark : Option Correlation}
    (h : Built limits g w w' blueprint mark fresh) (hw : w.Sound) (he : e ∈ w.context)
    (hm : m ∈ fresh e) (hmatch : matchesFrom w'.tree full j m = true) : w'.Fulfils full j := by
  have hgrown := h.attached.grown
  have hconn := (hw.context e he).1
  have hlt := hw.rooted.lt_size_of_connected hconn
  have hconnm := hgrown.connected_fresh hw.rooted hconn hm
  refine ⟨h.sound hw, m, ?_, hmatch, ?_⟩
  · rw [h.context]
    exact List.mem_flatMap.mpr ⟨e, he, hm⟩
  · intro a ha hmem
    have hold : a < w.tree.size := by
      rw [hgrown.rooted.ancestors_eq hconnm, hgrown.parent?_fresh hlt hm] at ha
      rcases List.mem_cons.mp ha with rfl | ha
      · exact hlt
      · rw [hgrown.ancestors hw.rooted hconn] at ha
        exact hw.rooted.lt_size_of_connected (hw.rooted.connected_of_mem_ancestors hconn ha)
    rw [h.context] at hmem
    obtain ⟨p, -, hp⟩ := List.mem_flatMap.mp hmem
    exact Nat.not_lt_of_le (hgrown.new p a hp) hold

/-- A copy that satisfies its group below a match of all that stands before it is a match itself. -/
theorem Fulfils.built {blueprint : Blueprint} {mark : Option Correlation} (hw : w.Fulfils full j)
    (hout : Outlasts full) (h : Built limits g w w' blueprint mark fresh) (hg : Workable g)
    (hcompound : full.compounds[j + 1]? = some (compoundOf g))
    (hcombinator : full.combinators[j]? = some combinator) (hdown : IsDownward combinator) :
    w'.Fulfils full (j + 1) := by
  obtain ⟨e, he, hmatch, htop⟩ := hw.topmost
  have hrooted := hw.sound.rooted
  have hgrown := h.attached.grown
  obtain ⟨hconn, helement⟩ := hw.sound.context e he
  have hlt := hrooted.lt_size_of_connected hconn
  obtain ⟨m, hm, hholds⟩ := h.exists_holds hw.sound hg he
  have hkept : matchesFrom w'.tree full j e = true := by
    rw [hout hrooted hgrown hconn fun p hp => h.attached.others p (htop p hp)]
    exact hmatch
  have hrelated := mem_related_of_parent? hgrown.rooted (hgrown.connected_fresh hrooted hconn hm)
    (hgrown.parent?_fresh hlt hm) (hgrown.isElement helement) hdown
  exact h.fulfils hw.sound he hm (matchesFrom_succ.mpr
    ⟨_, combinator, hcompound, hcombinator, hholds, e, hrelated, hkept⟩)

/-- A round along a downward joint takes a match one compound further. -/
theorem Fulfils.round {own : Payload} {w1 w2 : Walk} (hw : w.Fulfils (complexOf head links) j)
    (hout : Outlasts (complexOf head links)) (hchain : IsChain s head links)
    (hs : Sequence.parse text = .ok s) (hj : links[j]? = some link) (hg : Workable link.2)
    (hdown : IsDownward (jointOf link.1))
    (hjoint : w.step limits .absent (s.upTo (2 * j + 1)) (.combinator link.1) = .ok w1)
    (hcompound : w1.step limits own (s.upTo (2 * (j + 1))) (.compound link.2) = .ok w2) :
    w2.Fulfils (complexOf head links) (j + 1) := by
  have hsound1 := (hw.sound.step hjoint).1
  have hw1 : w1.Fulfils (complexOf head links) j := by
    obtain ⟨htree, ⟨-, hcontext⟩ | ⟨-, hfinds⟩⟩ := joint_ok hchain hs hw.sound hj hjoint
    · obtain ⟨e, he, hmatch, htop⟩ := hw.topmost
      exact ⟨hsound1, e, by rwa [hcontext], by rwa [htree], by rwa [htree, hcontext]⟩
    · obtain ⟨e, he, hmatch, -⟩ := hw.topmost
      refine hfinds.fulfils hsound1 (List.ne_nil_of_mem ((hfinds e).mpr ?_))
      rw [htree]
      exact ⟨(hw.sound.context e he).1, hmatch⟩
  have hlt : j + 1 ≤ links.length := (List.getElem?_eq_some_iff.mp hj).1
  rcases compound_ok hchain hs hsound1 hlt hcompound with
    ⟨-, hne, hfinds⟩ | ⟨-, blueprint, mark, fresh, hbuilt⟩
  · exact hfinds.fulfils (hsound1.step hcompound).1 hne
  · exact hw1.built hout hbuilt hg (by simp [complexOf, hj]) (by simp [complexOf, hj]) hdown

end Walk

/-! ## Whole chains -/

theorem isChain_of_groups (hitems : s.items = chainItems head links)
    (hjoints : ∀ link ∈ links, ∃ combinator, combinatorOf? link.1.kind = some combinator)
    (hgroups : ∀ g ∈ head :: links.map Prod.snd, OfTag IsBuildable g) :
    IsChain s head links := by
  refine ⟨hitems, fun link hlink => ?_, fun g hg => ?_⟩
  · obtain ⟨combinator, hcombinator⟩ := hjoints link hlink
    rw [jointOf, hcombinator, Option.getD_some]
  · obtain ⟨-, -, -, -, -, -, -, hcompiles⟩ := (hgroups g hg).compile
    exact hcompiles

theorem exists_group_of_mem_compounds {c : Compound Query.Filter}
    (hc : c ∈ (complexOf head links).compounds) :
    ∃ g ∈ head :: links.map Prod.snd, compoundOf g = c := by
  rcases List.mem_cons.mp hc with rfl | hc
  · exact ⟨head, List.mem_cons_self, rfl⟩
  · obtain ⟨link, hlink, rfl⟩ := List.mem_map.mp hc
    exact ⟨link.2, List.mem_cons_of_mem _ (List.mem_map_of_mem hlink), rfl⟩

theorem mem_items_of_chain (hitems : s.items = chainItems head links)
    (hg : g ∈ head :: links.map Prod.snd) : .compound g ∈ s.items := by
  rw [hitems, chainItems]
  rcases List.mem_cons.mp hg with rfl | hg
  · exact List.mem_cons_self
  · obtain ⟨link, hlink, rfl⟩ := List.mem_map.mp hg
    exact List.mem_cons_of_mem _ (List.mem_flatMap.mpr ⟨link, hlink, by simp⟩)

/-- A selector that matches after its rule was applied is left alone by every later such rule. -/
theorem Engine.applyRule_idle (ht : t.Rooted) (hs : Sequence.parse text = .ok s)
    (hsep : ∀ token ∈ s.tokens, token.kind ≠ .separator) {xs : List NodeId}
    (hquery : t.query text = .ok (x :: xs)) (e : Engine) (content : Option String) :
    ∃ report e', e.applyRule t ⟨text, content⟩ = (.ok report, e', t) ∧ report.created = 0 ∧
      (∀ st ∈ report.steps, ∀ count, st.outcome ≠ .synthesized count) ∧
        e'.binder = e.binder := by
  have hmet := query_upTo_ne_nil ht hs hsep hquery (List.cons_ne_nil x xs)
  obtain ⟨steps, hrun, -, hsteps⟩ := materialize_of_met e.settings.limits
    (decodeContent e.fetcher content).1 e.binder fun j g _ => hmet j
  have hrule : Sequence.parse (Rule.mk text content).selector = .ok s := hs
  refine ⟨_, ⟨e.settings, (decodeContent e.fetcher content).2, e.binder⟩,
    (Engine.applyRule_ok_iff hrule).mpr ⟨hrun, rfl, rfl⟩, rfl, ?_, rfl⟩
  intro st hst count hcount
  have hidle := hsteps (fun j _ => hmet j) st hst
  rw [hcount] at hidle
  exact hidle

theorem isDownward_jointOf (hkind : token.kind = .child ∨ token.kind = .descendant) :
    combinatorOf? token.kind = some (jointOf token) ∧ IsDownward (jointOf token) := by
  rw [jointOf]
  rcases hkind with hkind | hkind <;> rw [hkind] <;> exact ⟨rfl, trivial⟩

/-- A chain of buildable compounds along downward joints matches something once its rule was
applied. -/
theorem Engine.query_applyRule {e e' : Engine} {rule : Rule} (ht : t.Rooted)
    (hs : Sequence.parse rule.selector = .ok s) (hitems : s.items = chainItems head links)
    (hjoints : ∀ link ∈ links, link.1.kind = .child ∨ link.1.kind = .descendant)
    (hgroups : ∀ g ∈ head :: links.map Prod.snd, OfTag IsBuildable g ∧ Satisfiable g)
    (h : e.applyRule t rule = (.ok report, e', t')) :
    t'.Rooted ∧ IsChain s head links ∧ ∃ x xs, t'.query rule.selector = .ok (x :: xs) := by
  have hdown : ∀ link ∈ links, IsDownward (jointOf link.1) := fun link hlink =>
    (isDownward_jointOf (hjoints link hlink)).2
  have hchain : IsChain s head links := isChain_of_groups hitems
    (fun link hlink => ⟨_, (isDownward_jointOf (hjoints link hlink)).1⟩)
    fun g hg => (hgroups g hg).1
  have hworkable : ∀ g ∈ head :: links.map Prod.snd, Workable g := fun g hg =>
    (hgroups g hg).2.workable (hgroups g hg).1 hs (mem_items_of_chain hitems hg)
  have hout : Outlasts (complexOf head links) := by
    refine outlasts_of_downward (fun combinator hcombinator => ?_) fun c hc => ?_
    · obtain ⟨link, hlink, rfl⟩ := List.mem_map.mp hcombinator
      exact hdown link hlink
    · obtain ⟨g, hg, hsame⟩ := exists_group_of_mem_compounds hc
      exact ⟨g, (hgroups g hg).1, hsame⟩
  obtain ⟨hrun, -, -⟩ := (Engine.applyRule_ok_iff hs).mp h
  obtain ⟨w, rfl, hw⟩ := Walk.materialize_rounds
    (P := fun j w => w.Fulfils (complexOf head links) j) ht hchain hs
    (fun w hw _ hne hfinds => hfinds.fulfils hw hne)
    (fun j link own w w1 w2 hj hw hjoint hcompound =>
      have hlink := List.mem_of_getElem? hj
      have hg := hworkable link.2 (List.mem_cons_of_mem _ (List.mem_map_of_mem hlink))
      hw.round hout hchain hs hj hg (hdown link hlink) hjoint hcompound) hrun
  obtain ⟨m, hm, hmatch, -⟩ := hw.topmost
  exact ⟨hw.sound.rooted, hchain, (hchain.exists_query_text_iff hs hw.sound.rooted).mpr
    ⟨m, (hw.sound.context m hm).1, hmatch⟩⟩

/-- A rule whose selector is a chain of buildable compounds along downward joints makes its selector
true, and to apply it once more, with any content, does nothing. -/
theorem Engine.applyRule_fulfils {e e' : Engine} (rule : Rule) (ht : t.Reachable)
    (hs : Sequence.parse rule.selector = .ok s) (hitems : s.items = chainItems head links)
    (hjoints : ∀ link ∈ links, link.1.kind = .child ∨ link.1.kind = .descendant)
    (hgroups : ∀ g ∈ head :: links.map Prod.snd, OfTag IsBuildable g ∧ Satisfiable g)
    (h : e.applyRule t rule = (.ok report, e', t')) :
    (∃ x xs, t'.query rule.selector = .ok (x :: xs)) ∧
      ∀ (content : Option String), ∃ report' e'',
        e'.applyRule t' ⟨rule.selector, content⟩ = (.ok report', e'', t') ∧
          report'.created = 0 ∧ (∀ st ∈ report'.steps, ∀ count, st.outcome ≠ .synthesized count) ∧
            e''.binder = e'.binder := by
  obtain ⟨hroot, hchain, x, xs, hquery⟩ :=
    Engine.query_applyRule ht.rooted hs hitems hjoints hgroups h
  exact ⟨⟨x, xs, hquery⟩, fun content =>
    Engine.applyRule_idle hroot hs hchain.ne_separator hquery e' content⟩

/-- The group `head:nth-last-child(-n+2)`. -/
def headPair : Group :=
  ⟨[⟨.tag "head", "head"⟩, ⟨.equationCall ⟨"nth-last-child", some .minus, "", some "n", some .plus,
    "2"⟩, ":nth-last-child(-n+2)"⟩]⟩

theorem isBuildable_headPair : OfTag IsBuildable headPair := by
  refine ⟨_, _, _, rfl, fun token htoken => ?_⟩
  obtain rfl := List.mem_singleton.mp htoken
  exact ⟨by decide, 2, by decide, by decide⟩

theorem satisfiable_headPair : Satisfiable headPair := by
  have hquery : Document.skeleton.tree.query headPair.source = .ok [2] := by cbv
  exact ⟨_, _, _, reachable_skeleton, hquery⟩

theorem exists_of_fst {α β γ : Type} {found : α × β × γ} {a : α} (h : found.1 = a) :
    ∃ b c, found = (a, b, c) :=
  ⟨found.2.1, found.2.2, by rw [← h]⟩

theorem applyRule_headPair : ∃ report e' t',
    (Engine.new .default (.ofAnswers fun _ => .failed)).applyRule Document.skeleton.tree
      ⟨"body head:nth-last-child(-n+2)", none⟩ = (.ok report, e', t') ∧ report.created = 2 := by
  have hok : ((Engine.new .default (.ofAnswers fun _ => .failed)).applyRule
      Document.skeleton.tree ⟨"body head:nth-last-child(-n+2)", none⟩).1 =
      .ok ⟨[⟨"body", .matched 1⟩, ⟨"body ", .matched 1⟩,
        ⟨"body head:nth-last-child(-n+2)", .synthesized 2⟩], 2, [], none, false⟩ := by cbv
  obtain ⟨e', t', hrule⟩ := exists_of_fst hok
  exact ⟨_, e', t', hrule, rfl⟩

theorem Engine.applyRule_fulfils_skeleton :
    ∃ report e' t', (Engine.new .default (.ofAnswers fun _ => .failed)).applyRule
        Document.skeleton.tree ⟨"body head:nth-last-child(-n+2)", none⟩ = (.ok report, e', t') ∧
      report.created = 2 ∧
      (∃ x xs, t'.query "body head:nth-last-child(-n+2)" = .ok (x :: xs)) ∧
      ∀ (content : Option String), ∃ report' e'',
        e'.applyRule t' ⟨"body head:nth-last-child(-n+2)", content⟩ = (.ok report', e'', t') ∧
          report'.created = 0 ∧ (∀ st ∈ report'.steps, ∀ count, st.outcome ≠ .synthesized count) ∧
            e''.binder = e'.binder := by
  have hs : Sequence.parse "body head:nth-last-child(-n+2)" =
      .ok ⟨[.compound ⟨[⟨.tag "body", "body"⟩]⟩, .combinator ⟨.descendant, " "⟩,
        .compound headPair]⟩ := by cbv
  have hbody : Document.skeleton.tree.query "body" = .ok [3] := by cbv
  obtain ⟨report, e', t', hrule, hcreated⟩ := applyRule_headPair
  have hgroups : ∀ g ∈ [(⟨[⟨.tag "body", "body"⟩]⟩ : Group), headPair],
      OfTag IsBuildable g ∧ Satisfiable g := by
    intro g hg
    rcases List.mem_cons.mp hg with rfl | hg
    · exact ⟨⟨_, _, _, rfl, by simp⟩, _, _, _, reachable_skeleton, hbody⟩
    · rw [List.mem_singleton.mp hg]
      exact ⟨isBuildable_headPair, satisfiable_headPair⟩
  have hitems : (⟨[.compound ⟨[⟨.tag "body", "body"⟩]⟩, .combinator ⟨.descendant, " "⟩,
      .compound headPair]⟩ : Sequence).items =
      chainItems ⟨[⟨.tag "body", "body"⟩]⟩ [(⟨.descendant, " "⟩, headPair)] := rfl
  obtain ⟨hfound, hagain⟩ := Engine.applyRule_fulfils ⟨"body head:nth-last-child(-n+2)", none⟩
    reachable_skeleton hs hitems (by simp) hgroups hrule
  exact ⟨report, e', t', hrule, hcreated, hfound, hagain⟩

end Topiary.Synthesis
