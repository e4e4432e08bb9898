import Topiary.Proofs.Query.Lasting
import Topiary.Proofs.Synthesis.Failures
import Topiary.Proofs.Synthesis.Fulfilment
import Topiary.Proofs.Synthesis.Histories

/-!
What rules leave to each other. No rule, applied or failed, takes a match of a selector without
pseudo-classes away. So chains that rules have made true stay true, and a list of such rules has
nothing to do when it comes a second time.
-/

namespace Topiary.Synthesis

open Topiary.Tree Topiary.Selector Topiary.Query
open Topiary.Sheet (Rule)

variable {t t' : Tree} {e e' : Engine} {rule : Rule} {rules : List Rule} {text : String}
  {tokens : List Token} {fresh : NodeId → List NodeId} {x : NodeId} {xs : List NodeId}
  {report : ApplyReport}

/-! ## One rule -/

/-- Whatever comes of a rule, an element that was there before matches a selector without
pseudo-classes afterwards just if it did before, and a query loses no element. -/
theorem Engine.applyRule_keeps_matches {l : SelectorList} {outcome : Except RuleError Report}
    (ht : t.Reachable) (htokens : tokenize text = .ok tokens)
    (hplain : ∀ token ∈ tokens, token.kind.isPseudo = false)
    (hl : SelectorList.parse text = .ok l) (h : e.applyRule t rule = (outcome, e', t')) :
    (∀ x, t.isElement x = true → l.matches t' x = l.matches t x) ∧
      ∃ found found', t.query text = .ok found ∧ t'.query text = .ok found' ∧
        (∀ x, t.isElement x = true → (x ∈ found' ↔ x ∈ found)) ∧ found ⊆ found' := by
  have hroot := ht.rooted
  obtain ⟨fresh, hgrown⟩ := (Application.extended (a := ⟨e, t, rule⟩) hroot).grown
  have htree : (⟨e, t, rule⟩ : Application).treeAfter = t' := congrArg (fun r => r.2.2) h
  rw [htree] at hgrown
  have hattributive : l.IsAttributive := by
    rw [SelectorList.parse, htokens] at hl
    exact SelectorList.isAttributive_of_ofTokens hplain hl
  have hmem : ∀ x, t.isElement x = true → (x ∈ l.select t' ↔ x ∈ l.select t) := fun x hx =>
    hattributive.mem_select_iff hgrown hroot (lt_size_of_isElement hx)
  refine ⟨fun x hx => hattributive.matches_eq hgrown hroot (lt_size_of_isElement hx),
    l.select t, l.select t', query_of_parse hl t, query_of_parse hl t', hmem, fun x hx => ?_⟩
  have helement := ((Walk.nodup_query hroot (query_of_parse hl t)).2 x hx).2
  exact (hmem x helement).mpr hx

/-- The `p` that a failing rule leaves behind is found in addition. -/
theorem Engine.applyRule_keeps_matches_skeleton :
    ∃ tokens l found', Document.skeleton.tree.Reachable ∧
      tokenize "body, body > *" = .ok tokens ∧
      (∀ token ∈ tokens, token.kind.isPseudo = false) ∧
      SelectorList.parse "body, body > *" = .ok l ∧
      (Engine.new .default (.ofAnswers fun _ => .failed)).applyRule Document.skeleton.tree
          ⟨"body p .x", none⟩ =
        (.error (.synthesis (.untagged ".x")), unfinished.2.1, unfinished.2.2) ∧
      (∀ x, Document.skeleton.tree.isElement x = true →
        l.matches unfinished.2.2 x = l.matches Document.skeleton.tree x) ∧
      Document.skeleton.tree.query "body, body > *" = .ok [3] ∧
      unfinished.2.2.query "body, body > *" = .ok found' ∧ [3] ⊆ found' := by
  have htokens : tokenize "body, body > *" = .ok [⟨.tag "body", "body"⟩, ⟨.separator, ","⟩,
      ⟨.tag "body", "body"⟩, ⟨.child, " > "⟩, ⟨.universal, "*"⟩] := by cbv
  have hl : SelectorList.parse "body, body > *" = .ok ⟨[⟨[⟨some "body", false, []⟩], []⟩,
      ⟨[⟨some "body", false, []⟩, ⟨none, true, []⟩], [.child]⟩]⟩ := by cbv
  have hquery : Document.skeleton.tree.query "body, body > *" = .ok [3] := by cbv
  obtain ⟨hmatches, found, found', hfound, hfound', -, hsub⟩ :=
    Engine.applyRule_keeps_matches reachable_skeleton htokens (by decide) hl
      applyRule_eq_unfinished
  obtain rfl := Except.ok.inj (hfound.symm.trans hquery)
  exact ⟨_, _, found', reachable_skeleton, htokens, by decide, hl, applyRule_eq_unfinished,
    hmatches, hquery, hfound', hsub⟩

/-! ## Lists of rules -/

/-- A text that cuts into compounds with joints downward between them. Every compound is a tag and
plain tokens, and some element satisfies it. -/
def IsDownwardChain (text : String) : Prop :=
  ∃ s head links, Sequence.parse text = .ok s ∧ s.items = chainItems head links ∧
    (∀ link ∈ links, link.1.kind = .child ∨ link.1.kind = .descendant) ∧
    ∀ g ∈ head :: links.map Prod.snd, OfTag IsPlain g ∧ Satisfiable g

theorem IsPlain.isPseudo_eq {kind : Kind} (h : IsPlain kind) : kind.isPseudo = false := by
  cases kind <;> first | rfl | exact h.elim

theorem OfTag.isPseudo_eq {g : Group} (h : OfTag IsPlain g) :
    ∀ token ∈ g.tokens, token.kind.isPseudo = false := by
  obtain ⟨name, source, rest, htokens, hrest⟩ := h
  rw [htokens]
  intro token htoken
  rcases List.mem_cons.mp htoken with rfl | htoken
  · rfl
  · exact (hrest token htoken).isPseudo_eq

namespace IsDownwardChain

/-- A selector of this kind that matches something does so in every larger tree. -/
theorem query_of_grown (h : IsDownwardChain text) (hgrown : t.Grown fresh t') (ht : t.Rooted)
    (hquery : t.query text = .ok (x :: xs)) : ∃ y ys, t'.query text = .ok (y :: ys) := by
  obtain ⟨s, head, links, hs, hitems, hjoints, hgroups⟩ := h
  have htokens := Sequence.tokenize_of_parse hs
  have hplain : ∀ token ∈ s.tokens, token.kind.isPseudo = false := by
    intro token htoken
    rw [Sequence.tokens, hitems, tokens_chainItems] at htoken
    rcases exists_of_mem_chainTokens htoken with ⟨g, hg, htoken⟩ | ⟨link, hlink, rfl⟩
    · exact (hgroups g hg).1.isPseudo_eq token htoken
    · rcases hjoints link hlink with hkind | hkind <;> rw [hkind] <;> rfl
  obtain ⟨l, hl, hselect⟩ := (query_eq_ok htokens).mp hquery
  have hattributive := SelectorList.isAttributive_of_ofTokens hplain hl
  have hx : x ∈ l.select t := by rw [hselect]; exact List.mem_cons_self
  have hlt := ht.lt_size_of_connected ((mem_select ht).mp hx).1
  have hx' := (hattributive.mem_select_iff hgrown ht hlt).mpr hx
  obtain ⟨y, ys, hcons⟩ := List.exists_cons_of_ne_nil (List.ne_nil_of_mem hx')
  exact ⟨y, ys, (query_eq_ok htokens).mpr ⟨l, hl, hcons⟩⟩

/-- A rule with such a selector makes it true when it is applied. -/
theorem query_applyRule {rule : Rule} {report : Report} (h : IsDownwardChain rule.selector)
    (ht : t.Rooted) (hrule : e.applyRule t rule = (.ok report, e', t')) :
    ∃ x xs, t'.query rule.selector = .ok (x :: xs) := by
  obtain ⟨s, head, links, hs, hitems, hjoints, hgroups⟩ := h
  exact (Engine.query_applyRule ht hs hitems hjoints
    (fun g hg => (hgroups g hg).imp_left fun hplain => hplain.mono fun _ hk => hk.isBuildable)
    hrule).2.2

/-- Where such a selector matches already, its rule does nothing. -/
theorem applyRule_idle (h : IsDownwardChain rule.selector) (ht : t.Rooted)
    (hquery : t.query rule.selector = .ok (x :: xs)) (e : Engine) :
    ∃ report e', e.applyRule t rule = (.ok report, e', t) ∧ report.created = 0 ∧
      e'.binder = e.binder := by
  obtain ⟨s, head, links, hs, hitems, hjoints, hgroups⟩ := h
  have hchain : IsChain s head links := isChain_of_groups hitems
    (fun link hlink => ⟨_, (isDownward_jointOf (hjoints link hlink)).1⟩)
    fun g hg => (hgroups g hg).1.mono fun _ hk => hk.isBuildable
  obtain ⟨report, e', hrule, hcreated, -, hbinder⟩ :=
    Engine.applyRule_idle ht hs hchain.ne_separator hquery e rule.content
  exact ⟨report, e', hrule, hcreated, hbinder⟩

end IsDownwardChain

theorem ApplyReport.failures_add_eq_nil {selector : String} {outcome : Except RuleError Report}
    (h : (report.add selector outcome).failures = []) :
    report.failures = [] ∧ ∃ made, outcome = .ok made := by
  cases outcome with
  | ok made => exact ⟨h, made, rfl⟩
  | error error => simp [ApplyReport.add] at h

/-- When no rule has failed, all selectors match, however many rules came behind them. -/
theorem query_applyRules (ht : t.Rooted) (hchains : ∀ rule ∈ rules, IsDownwardChain rule.selector)
    (hfailures : (e.applyRules t rules).1.failures = []) :
    t.Extended (e.applyRules t rules).2.2 ∧
      ∀ rule ∈ rules, ∃ x xs, (e.applyRules t rules).2.2.query rule.selector = .ok (x :: xs) := by
  have hrun := Engine.history_induction (e := e) (t := t)
    (P := fun run report _ t' => t.Extended t' ∧ (report.failures = [] →
      ∀ a ∈ run, IsDownwardChain a.rule.selector →
        ∃ x xs, t'.query a.rule.selector = .ok (x :: xs)))
    ⟨.refl ht, by simp⟩ ?_ rules
  · refine ⟨hrun.1, fun rule hrule => ?_⟩
    rw [← Engine.map_rule_history e t rules] at hrule hchains
    obtain ⟨a, ha, rfl⟩ := List.mem_map.mp hrule
    exact hrun.2 hfailures a ha (hchains _ hrule)
  · rintro run report a ⟨hextended, hall⟩
    have hlater := a.extended hextended.rooted
    refine ⟨hextended.trans hlater, fun hnone a' ha' hchain => ?_⟩
    obtain ⟨hearlier, made, hmade⟩ := ApplyReport.failures_add_eq_nil hnone
    rcases List.mem_append.mp ha' with ha' | ha'
    · obtain ⟨x, xs, hquery⟩ := hall hearlier a' ha' hchain
      obtain ⟨fresh, hgrown⟩ := hlater.grown
      exact hchain.query_of_grown hgrown hextended.rooted hquery
    · obtain rfl := List.mem_singleton.mp ha'
      have hrule := a'.applyRule_eq
      rw [hmade] at hrule
      exact hchain.query_applyRule hextended.rooted hrule

/-- A list of rules with downward chains that was applied without failures is applied without
failures once more, and then it creates nothing and leaves tree and binder as they are. -/
theorem Engine.applyRules_again (ht : t.Reachable)
    (hchains : ∀ rule ∈ rules, IsDownwardChain rule.selector)
    (h : e.applyRules t rules = (report, e', t')) (hfailures : report.failures = []) :
    ∃ e'', e'.applyRules t' rules = (⟨rules.length, rules.length, 0, []⟩, e'', t') ∧
      e''.binder = e'.binder := by
  have hfirst : (e.applyRules t rules).1.failures = [] := by rw [h]; exact hfailures
  obtain ⟨hextended, hquery⟩ := query_applyRules ht.rooted hchains hfirst
  rw [h] at hextended hquery
  -- the second time every rule meets the tree that the whole list has left
  have hrun := Engine.history_induction (e := e') (t := t')
    (P := fun run report e'' t'' => (∀ a ∈ run, a.rule ∈ rules) →
      report = ⟨run.length, run.length, 0, []⟩ ∧ t'' = t' ∧ e''.binder = e'.binder)
    (fun _ => ⟨rfl, rfl, rfl⟩) ?_ rules
  · have hrules := Engine.map_rule_history e' t' rules
    have hlength : (e'.history t' rules).length = rules.length := by
      rw [← List.length_map, hrules]
    obtain ⟨hreport, htree, hbinder⟩ := hrun fun a ha => by
      rw [← hrules]
      exact List.mem_map_of_mem ha
    rw [hlength] at hreport
    exact ⟨_, Prod.ext hreport (Prod.ext rfl htree), hbinder⟩
  · intro run report a hbefore hmem
    obtain ⟨rfl, htree, hbinder⟩ := hbefore fun a ha => hmem a (List.mem_append_left _ ha)
    have hrule := hmem a (by simp)
    obtain ⟨x, xs, hfound⟩ := hquery a.rule hrule
    rw [← htree] at hfound hextended
    obtain ⟨made, e'', hidle, hcreated, hkept⟩ :=
      (hchains a.rule hrule).applyRule_idle hextended.rooted hfound a.engine
    rw [a.applyRule_eq] at hidle
    obtain ⟨hmade, hstate⟩ := Prod.mk.inj hidle
    obtain ⟨rfl, hsame⟩ := Prod.mk.inj hstate
    refine ⟨?_, hsame.trans htree, hkept.trans hbinder⟩
    rw [hmade, ApplyReport.add, hcreated, List.length_append, List.length_singleton]

/-- A `p` with an id. -/
def namedTree : Tree :=
  ofMutations [.createElement "p", .setId 1 "x", .append root 1]

theorem reachable_namedTree : namedTree.Reachable :=
  ⟨_, by simp [Mutation.SparesRoot, root], rfl⟩

/-- The second rule finds the `body`, but not the `p` of the first one. -/
def pairRules : List Rule :=
  [⟨"body p", some "\"a\""⟩, ⟨"body p#x", none⟩]

theorem isDownwardChain_pairRules : ∀ rule ∈ pairRules, IsDownwardChain rule.selector := by
  have hbody : OfTag IsPlain ⟨[⟨.tag "body", "body"⟩]⟩ ∧
      Satisfiable ⟨[⟨.tag "body", "body"⟩]⟩ := by
    have hquery : Document.skeleton.tree.query "body" = .ok [3] := by cbv
    exact ⟨⟨_, _, _, rfl, by simp⟩, _, _, _, reachable_skeleton, hquery⟩
  have hp : OfTag IsPlain ⟨[⟨.tag "p", "p"⟩]⟩ ∧ Satisfiable ⟨[⟨.tag "p", "p"⟩]⟩ := by
    have hquery : namedTree.query "p" = .ok [1] := by cbv
    exact ⟨⟨_, _, _, rfl, by simp⟩, _, _, _, reachable_namedTree, hquery⟩
  have hnamed : OfTag IsPlain ⟨[⟨.tag "p", "p"⟩, ⟨.id "x", "#x"⟩]⟩ ∧
      Satisfiable ⟨[⟨.tag "p", "p"⟩, ⟨.id "x", "#x"⟩]⟩ := by
    have hquery : namedTree.query "p#x" = .ok [1] := by cbv
    exact ⟨⟨_, _, _, rfl, by simp [IsPlain]⟩, _, _, _, reachable_namedTree, hquery⟩
  have hfirst : Sequence.parse "body p" = .ok ⟨[.compound ⟨[⟨.tag "body", "body"⟩]⟩,
      .combinator ⟨.descendant, " "⟩, .compound ⟨[⟨.tag "p", "p"⟩]⟩]⟩ := by cbv
  have hsecond : Sequence.parse "body p#x" = .ok ⟨[.compound ⟨[⟨.tag "body", "body"⟩]⟩,
      .combinator ⟨.descendant, " "⟩,
      .compound ⟨[⟨.tag "p", "p"⟩, ⟨.id "x", "#x"⟩]⟩]⟩ := by cbv
  intro rule hrule
  rcases List.mem_cons.mp hrule with rfl | hrule
  · exact ⟨_, ⟨[⟨.tag "body", "body"⟩]⟩, [(⟨.descendant, " "⟩, ⟨[⟨.tag "p", "p"⟩]⟩)], hfirst, rfl,
      by simp, by simp [hbody, hp]⟩
  · obtain rfl := List.mem_singleton.mp hrule
    exact ⟨_, ⟨[⟨.tag "body", "body"⟩]⟩,
      [(⟨.descendant, " "⟩, ⟨[⟨.tag "p", "p"⟩, ⟨.id "x", "#x"⟩]⟩)], hsecond, rfl, by simp,
      by simp [hbody, hnamed]⟩

theorem Engine.applyRules_again_skeleton :
    ∃ e' t' e'', Document.skeleton.tree.Reachable ∧
      (∀ rule ∈ pairRules, IsDownwardChain rule.selector) ∧
      (Engine.new .default (.ofAnswers fun _ => .failed)).applyRules Document.skeleton.tree
        pairRules = (⟨2, 2, 2, []⟩, e', t') ∧
      e'.applyRules t' pairRules = (⟨2, 2, 0, []⟩, e'', t') ∧ e''.binder = e'.binder := by
  have hreport : ((Engine.new .default (.ofAnswers fun _ => .failed)).applyRules
      Document.skeleton.tree pairRules).1 = ⟨2, 2, 2, []⟩ := by cbv
  obtain ⟨e', t', hrules⟩ := exists_of_fst hreport
  obtain ⟨e'', hagain, hbinder⟩ :=
    Engine.applyRules_again reachable_skeleton isDownwardChain_pairRules hrules rfl
  exact ⟨e', t', e'', reachable_skeleton, isDownwardChain_pairRules, hrules, hagain, hbinder⟩

end Topiary.Synthesis
