import Topiary.Proofs.Synthesis.Skips

/-!
Texts that are no query. A text is refused either while its tokens are read, and then everything
that goes on from it is refused for the same cause, or because it ends where it does. Behind a
compound a text may always end, so a walk that cannot look for a compound finds and builds nothing
from there on.
-/

namespace Topiary.Selector

variable {s : Sequence} {text : String} {items : List Item} {g : Group} {i j : Nat}

theorem Grouped.node_of_mem (h : Grouped items) (hg : .compound g ∈ items) :
    g.tokens ≠ [] ∧ ∀ token ∈ g.tokens, token.isStructural = false := by
  induction h with
  | nil => simp at hg
  | combinator _ _ ih => exact ih (by simpa using hg)
  | compound hne hnode _ _ ih =>
    rcases List.mem_cons.mp hg with heq | hg
    · obtain rfl := Item.compound.inj heq
      exact ⟨hne, hnode⟩
    · exact ih hg

namespace Sequence

theorem tokensUpTo_of_le (hle : i ≤ j) : s.tokensUpTo j =
    s.tokensUpTo i ++ ((s.items.take (j + 1)).drop (i + 1)).flatMap Item.tokens := by
  have htake : s.items.take (i + 1) = (s.items.take (j + 1)).take (i + 1) := by
    rw [List.take_take, Nat.min_eq_left (Nat.succ_le_succ hle)]
  rw [tokensUpTo, tokensUpTo, htake, ← List.flatMap_append, List.take_append_drop]

/-- The text up to a compound ends with a token that restricts a node. -/
theorem exists_tokensUpTo_concat (hs : parse text = .ok s)
    (hitem : s.items[i]? = some (.compound g)) :
    ∃ tokens token, s.tokensUpTo i = tokens ++ [token] ∧ token.isStructural = false := by
  obtain ⟨hne, hnode⟩ := (grouped_items hs).node_of_mem (List.mem_of_getElem? hitem)
  refine ⟨(s.items.take i).flatMap Item.tokens ++ g.tokens.dropLast, g.tokens.getLast hne, ?_,
    hnode _ (List.getLast_mem hne)⟩
  rw [tokensUpTo, List.take_add_one, hitem, Option.toList_some, List.flatMap_append,
    List.flatMap_singleton, List.append_assoc, List.dropLast_append_getLast]
  rfl

end Sequence

end Topiary.Selector

namespace Topiary.Query

open Topiary.Selector

variable {tokens first rest : List Token} {token : Token} {d d' : Draft} {cause : Unsupported}
  {s : Sequence} {text : String} {g : Group} {i j : Nat}

namespace Draft

/-- The selector at hand may end here: no combinator waits, and the compound at hand asks
something. -/
structure Closable (d : Draft) : Prop where
  settled : d.pending = none
  asks : d.compound.isBlank = false

theorem Closable.finish_ne_error (h : d.Closable) : d.finish ≠ .error cause := by
  intro hfinish
  rw [finish, h.settled] at hfinish
  simp [h.asks] at hfinish

theorem closable_of_add (hnode : token.isStructural = false) (h : d.add token = .ok d') :
    d'.Closable := by
  rw [add_node hnode] at h
  obtain ⟨c, hadd, rfl⟩ := map_eq_ok.mp h
  exact ⟨pending_step, (addToken_ok hadd).1⟩

theorem closable_of_addAll (hnode : token.isStructural = false)
    (h : d.addAll (first ++ [token]) = .ok d') : d'.Closable := by
  obtain ⟨before, -, hlast⟩ := addAll_append_ok h
  obtain ⟨next, hnext, hnil⟩ := addAll_cons_ok hlast
  obtain rfl := Except.ok.inj hnil
  exact closable_of_add hnode hnext

/-- What goes wrong while tokens are read goes wrong whatever follows them. -/
theorem addAll_append_of_error (h : d.addAll first = .error cause) (rest : List Token) :
    d.addAll (first ++ rest) = .error cause := by
  rw [addAll_append, h]

end Draft

/-- A list is refused while it is read, or because it ends where it does. -/
theorem SelectorList.ofTokens_eq_error_iff : SelectorList.ofTokens tokens = .error cause ↔
    Draft.start.addAll tokens = .error cause ∨
      ∃ d, Draft.start.addAll tokens = .ok d ∧ d.finish = .error cause := by
  rw [ofTokens]
  cases hall : Draft.start.addAll tokens with
  | error refusal => simp
  | ok d => simp [map_eq_error]

/-- Tokens that are refused with a per-node token at their end are refused whatever follows them. -/
theorem SelectorList.ofTokens_append_of_error (hnode : token.isStructural = false)
    (h : SelectorList.ofTokens (first ++ [token]) = .error cause) (rest : List Token) :
    SelectorList.ofTokens (first ++ [token] ++ rest) = .error cause := by
  rcases ofTokens_eq_error_iff.mp h with hread | ⟨d, hd, hfinish⟩
  · exact ofTokens_eq_error_iff.mpr (Or.inl (Draft.addAll_append_of_error hread rest))
  · exact absurd hfinish (Draft.closable_of_addAll hnode hd).finish_ne_error

/-- If the text up to a compound is no query, neither is the text up to any later item. -/
theorem parse_upTo_of_refused (hs : Sequence.parse text = .ok s)
    (hitem : s.items[i]? = some (.compound g))
    (hrefused : SelectorList.parse (s.upTo i) = .error cause) (hle : i ≤ j) :
    SelectorList.parse (s.upTo j) = .error cause := by
  have hparse : ∀ k, SelectorList.parse (s.upTo k) = SelectorList.ofTokens (s.tokensUpTo k) := by
    intro k
    rw [SelectorList.parse, Sequence.tokenize_upTo hs k]
  obtain ⟨tokens, token, hend, hnode⟩ := Sequence.exists_tokensUpTo_concat hs hitem
  rw [hparse, hend] at hrefused
  rw [hparse, Sequence.tokensUpTo_of_le hle, hend]
  exact SelectorList.ofTokens_append_of_error hnode hrefused _

end Topiary.Query

namespace Topiary.Synthesis

open Topiary.Tree Topiary.Selector Topiary.Query

variable {limits : Limits} {payload : Payload} {s : Sequence} {text : String}
  {items : List Item} {item : Item} {g : Group} {t : Tree} {b : Binder} {w w' : Walk}
  {index i j : Nat} {cause : Unsupported}

namespace Walk

theorem length_steps_run (h : run limits payload s index w items = (w', none)) :
    w'.report.steps.length = w.report.steps.length + items.length := by
  induction items generalizing w index with
  | nil =>
    obtain ⟨rfl, -⟩ := Prod.mk.inj h
    rfl
  | cons item items ih =>
    obtain ⟨w1, hstep, hrun⟩ := run_cons h
    obtain ⟨outcome, hsteps, -⟩ := step_noted hstep
    rw [ih hrun, hsteps, List.length_append, List.length_singleton, List.length_cons]
    omega

/-- A walk along texts that are all refused skips item after item. -/
theorem run_of_refused (limits : Limits) (payload : Payload)
    (h : ∀ j, index ≤ j → SelectorList.parse (s.upTo j) = .error cause) (w : Walk) :
    run limits payload s index w items = (w.goOn w.context ((List.range items.length).map fun j =>
      ⟨s.upTo (index + j), .skipped cause.reason⟩), none) := by
  induction items generalizing w index with
  | nil => simp [run, goOn]
  | cons item items ih =>
    have hquery : w.tree.query (s.upTo index) = .error cause := by
      rw [Tree.query, h index (Nat.le_refl index)]
      rfl
    have hrest := ih (fun j hj => h j (Nat.le_of_succ_le hj))
      (w.goOn w.context [⟨s.upTo index, .skipped cause.reason⟩])
    have hplaces : ∀ j, index + 1 + j = index + (j + 1) := fun j => by omega
    rw [run, step_of_error hquery]
    simp only
    rw [hrest, goOn_goOn, List.length_cons, List.range_succ_eq_map, List.map_cons, List.map_map]
    simp only [hplaces]
    rfl

end Walk

/-- A compound whose text is no query is the last thing that a rule looks for. If the walk comes to
it, then it goes on to the end: every item from there on is skipped for the same cause, nothing more
is built or bound, and the rule is applied. -/
theorem materialize_of_refused (hs : Sequence.parse text = .ok s)
    (hitem : s.items[i]? = some (.compound g))
    (hrefused : SelectorList.parse (s.upTo i) = .error cause)
    (hreached : Walk.run limits .absent s 0 ⟨t, b, [], .empty⟩ (s.items.take i) = (w, none))
    (payload : Payload) :
    ∃ report, materialize limits s payload t b = (.ok report, w.tree, w.binder) ∧
      report.created = w.report.created ∧ report.contentBound = w.report.contentBound ∧
      report.steps.length = s.items.length ∧ report.steps.take i = w.report.steps ∧
      ∀ j, i ≤ j → j < s.items.length →
        report.steps[j]? = some ⟨s.upTo j, .skipped cause.reason⟩ := by
  have hi : i < s.items.length := (List.getElem?_eq_some_iff.mp hitem).1
  have hlater : ∀ j, i ≤ j → SelectorList.parse (s.upTo j) = .error cause := fun j hj =>
    parse_upTo_of_refused hs hitem hrefused hj
  have hlength : w.report.steps.length = i := by
    rw [Walk.length_steps_run hreached, List.length_take, Nat.min_eq_left (Nat.le_of_lt hi)]
    exact Nat.zero_add i
  have hrest : s.items.drop i ≠ [] := by
    rw [ne_eq, List.drop_eq_nil_iff]
    omega
  have hrun : Walk.run limits payload s 0 ⟨t, b, [], .empty⟩ s.items =
      (w.goOn w.context ((List.range (s.items.length - i)).map fun j =>
        ⟨s.upTo (i + j), .skipped cause.reason⟩), none) := by
    conv_lhs => rw [← List.take_append_drop i s.items]
    rw [Walk.run_append hrest, hreached]
    simp only
    rw [List.length_take, Nat.min_eq_left (Nat.le_of_lt hi), Nat.zero_add,
      Walk.run_of_refused limits payload hlater, List.length_drop]
  refine ⟨{ w.report with steps := w.report.steps ++ (List.range (s.items.length - i)).map fun j =>
    ⟨s.upTo (i + j), .skipped cause.reason⟩ }, ?_, rfl, rfl, ?_, List.take_left' hlength,
    fun j hij hj => ?_⟩
  · rw [materialize, hrun]
    rfl
  · rw [List.length_append, List.length_map, List.length_range, hlength]
    omega
  · have hplace : i + (j - i) = j := Nat.add_sub_cancel' hij
    simp only
    rw [List.getElem?_append_right (by omega), hlength, List.getElem?_map,
      List.getElem?_range (by omega), Option.map_some, hplace]

/-- The sequence `body ul li::marker a`. -/
def markerSequence : Sequence :=
  ⟨[.compound ⟨[⟨.tag "body", "body"⟩]⟩, .combinator ⟨.descendant, " "⟩,
    .compound ⟨[⟨.tag "ul", "ul"⟩]⟩, .combinator ⟨.descendant, " "⟩,
    .compound ⟨[⟨.tag "li", "li"⟩, ⟨.pseudoElement "marker", "::marker"⟩]⟩,
    .combinator ⟨.descendant, " "⟩, .compound ⟨[⟨.tag "a", "a"⟩]⟩]⟩

/-- The walk over what stands in front of the pseudo-element, in a bare document. -/
def markerWalk : Walk × Option SynthesisError :=
  Walk.run ⟨9⟩ .absent markerSequence 0 ⟨Document.skeleton.tree, .empty, [], .empty⟩
    (markerSequence.items.take 4)

/-- The `ul` is built before the walk comes to the pseudo-element, which is no query. -/
theorem materialize_of_refused_skeleton :
    ∃ s w report, Sequence.parse "body ul li::marker a" = .ok s ∧
      SelectorList.parse (s.upTo 4) = .error (.token "::marker") ∧
      Walk.run ⟨9⟩ .absent s 0 ⟨Document.skeleton.tree, .empty, [], .empty⟩ (s.items.take 4) =
        (w, none) ∧ w.report.created = 1 ∧
      materialize ⟨9⟩ s (.literal "x") Document.skeleton.tree .empty =
        (.ok report, w.tree, w.binder) ∧ report.created = 1 ∧ report.contentBound = false ∧
      ∀ j, 4 ≤ j → j < s.items.length →
        report.steps[j]? = some ⟨s.upTo j, .skipped "::marker"⟩ := by
  have hs : Sequence.parse "body ul li::marker a" = .ok markerSequence := by cbv
  have hrefused : SelectorList.parse (markerSequence.upTo 4) = .error (.token "::marker") := by cbv
  have hfailure : markerWalk.2 = none := by cbv
  have hcreated : markerWalk.1.report.created = 1 := by cbv
  have hreached : Walk.run ⟨9⟩ .absent markerSequence 0 ⟨Document.skeleton.tree, .empty, [], .empty⟩
      (markerSequence.items.take 4) = (markerWalk.1, none) := Prod.ext rfl hfailure
  obtain ⟨report, hmade, hsame, hbound, -, -, hskipped⟩ :=
    materialize_of_refused hs rfl hrefused hreached (.literal "x")
  have hnone : markerWalk.1.report.contentBound = false := by cbv
  exact ⟨markerSequence, markerWalk.1, report, hs, hrefused, hreached, hcreated, hmade,
    hsame.trans hcreated, hbound.trans hnone, hskipped⟩

end Topiary.Synthesis
