import Mathlib
import Topiary.Proofs.Query.Matches
import Topiary.Proofs.Selector.Prefixes
import Topiary.Proofs.Tree.Mutation
import Topiary.Synthesis.Engine

/-!
Rules with nothing to do. A walk whose compounds all match already builds nothing; a selector
without separators that matches something is walked in this way, since every text that leads up to
one of its items is no query or matches something as well.
-/

namespace Topiary.Synthesis

open Topiary.Selector Topiary.Query

variable {limits : Limits} {payload : Payload} {s : Sequence} {items : List Item} {text : String}
  {t : Tree} {b : Binder} {w w' : Walk} {index : Nat}

/-- A step that found what it looked for, or that did not know how to look. -/
def Outcome.IsIdle : Outcome → Prop
  | .matched _ | .skipped _ => True
  | _ => False

namespace Walk

/-- The walk with another context and further recorded steps. -/
def goOn (w : Walk) (context : List NodeId) (steps : List Step) : Walk :=
  { w with context := context, report := { w.report with steps := w.report.steps ++ steps } }

theorem goOn_goOn (context context' : List NodeId) (steps steps' : List Step) :
    (w.goOn context steps).goOn context' steps' = w.goOn context' (steps ++ steps') := by
  simp [goOn, List.append_assoc]

theorem step_of_error {upTo : String} {item : Item} {cause : Unsupported}
    (h : w.tree.query upTo = .error cause) :
    w.step limits payload upTo item = .ok (w.goOn w.context [⟨upTo, .skipped cause.reason⟩]) := by
  unfold step
  rw [h]
  rfl

theorem step_of_found {upTo : String} {x : NodeId} {xs : List NodeId} (limits : Limits)
    (payload : Payload) (item : Item) (h : w.tree.query upTo = .ok (x :: xs)) :
    w.step limits payload upTo item =
      .ok (w.goOn (x :: xs) [⟨upTo, .matched (xs.length + 1)⟩]) := by
  unfold step
  rw [h]
  rfl

theorem step_of_propagated {upTo : String} (limits : Limits) (payload : Payload) (token : Token)
    (h : w.tree.query upTo = .ok []) : w.step limits payload upTo (.combinator token) =
      .ok (w.goOn [] [⟨upTo, .propagated⟩]) := by
  unfold step
  rw [h]
  rfl

theorem step_of_missing {upTo : String} (limits : Limits) (payload : Payload) (g : Group)
    (h : w.tree.query upTo = .ok []) :
    w.step limits payload upTo (.compound g) = w.synthesize limits payload upTo g := by
  unfold step
  rw [h]

/-- All that a step does: it goes on, whatever its content, or it builds a compound that is missing
in the tree. -/
theorem step_cases (limits : Limits) (upTo : String) (item : Item) (w : Walk) :
    (∃ context outcome, (outcome.IsIdle ∨ outcome = .propagated ∧ w.tree.query upTo = .ok []) ∧
      ∀ payload, w.step limits payload upTo item = .ok (w.goOn context [⟨upTo, outcome⟩])) ∨
    w.tree.query upTo = .ok [] ∧ ∃ g, item = .compound g ∧
      ∀ payload, w.step limits payload upTo item = w.synthesize limits payload upTo g := by
  cases hquery : w.tree.query upTo with
  | error cause =>
    exact Or.inl ⟨w.context, .skipped cause.reason, Or.inl trivial, fun payload =>
      step_of_error hquery⟩
  | ok found =>
    cases found with
    | cons x xs =>
      exact Or.inl ⟨x :: xs, .matched (xs.length + 1), Or.inl trivial, fun payload =>
        step_of_found limits payload item hquery⟩
    | nil =>
      cases item with
      | combinator token =>
        exact Or.inl ⟨[], .propagated, Or.inr ⟨rfl, rfl⟩, fun payload =>
          step_of_propagated limits payload token hquery⟩
      | compound g =>
        exact Or.inr ⟨rfl, g, rfl, fun payload => step_of_missing limits payload g hquery⟩

/-- A step builds only where the text up to a compound is a query without matches. -/
theorem step_of_met (limits : Limits) (payload : Payload) {upTo : String} {item : Item}
    (h : ∀ g, item = .compound g → w.tree.query upTo ≠ .ok []) :
    ∃ context outcome, w.step limits payload upTo item = .ok (w.goOn context [⟨upTo, outcome⟩]) ∧
      (outcome.IsIdle ∨ w.tree.query upTo = .ok []) := by
  rcases step_cases limits upTo item w with ⟨context, outcome, hidle, hstep⟩ |
    ⟨hquery, g, hg, -⟩
  · exact ⟨context, outcome, hstep payload, hidle.imp_right And.right⟩
  · exact absurd hquery (h g hg)

/-- A walk along compounds that all match builds nothing. -/
theorem run_of_met (limits : Limits) (payload : Payload)
    (h : ∀ j g, items[j]? = some (.compound g) → w.tree.query (s.upTo (index + j)) ≠ .ok []) :
    ∃ context steps, run limits payload s index w items = (w.goOn context steps, none) ∧
      steps.length = items.length ∧
      ((∀ j < items.length, w.tree.query (s.upTo (index + j)) ≠ .ok []) →
        ∀ st ∈ steps, st.outcome.IsIdle) := by
  induction items generalizing w index with
  | nil => exact ⟨w.context, [], by simp [run, goOn], rfl, by simp⟩
  | cons item items ih =>
    have hfirst : ∀ g, item = .compound g → w.tree.query (s.upTo index) ≠ .ok [] :=
      fun g hg => h 0 g (by simp [hg])
    obtain ⟨context, outcome, hstep, hidle⟩ :=
      step_of_met limits (if items.isEmpty then payload else .absent) hfirst
    have hrest : ∀ j g, items[j]? = some (.compound g) →
        (w.goOn context [⟨s.upTo index, outcome⟩]).tree.query (s.upTo (index + 1 + j)) ≠
          .ok [] := by
      intro j g hj
      rw [Nat.add_assoc, Nat.add_comm 1 j]
      exact h (j + 1) g (by simpa using hj)
    obtain ⟨context', steps, hrun, hlength, hsteps⟩ := ih hrest
    refine ⟨context', ⟨s.upTo index, outcome⟩ :: steps, ?_, by simp [hlength], ?_⟩
    · rw [run]
      simp only [hstep]
      rw [hrun, goOn_goOn, List.singleton_append]
    · intro hall st hst
      rcases List.mem_cons.mp hst with rfl | hst
      · rcases hidle with hidle | hnone
        · exact hidle
        · exact absurd hnone (hall 0 (by simp))
      · refine hsteps (fun j hj => ?_) st hst
        rw [Nat.add_assoc, Nat.add_comm 1 j]
        exact hall (j + 1) (by simpa using hj)

end Walk

/-- Where every compound matches up to its place, a rule changes nothing. -/
theorem materialize_of_met (limits : Limits) (payload : Payload) (b : Binder)
    (h : ∀ j g, s.items[j]? = some (.compound g) → t.query (s.upTo j) ≠ .ok []) :
    ∃ steps, materialize limits s payload t b = (.ok { Report.empty with steps := steps }, t, b) ∧
      steps.length = s.items.length ∧
      ((∀ j < s.items.length, t.query (s.upTo j) ≠ .ok []) →
        ∀ st ∈ steps, st.outcome.IsIdle) := by
  have hmet : ∀ j g, s.items[j]? = some (.compound g) →
      (⟨t, b, [], .empty⟩ : Walk).tree.query (s.upTo (0 + j)) ≠ .ok [] := by simpa using h
  obtain ⟨context, steps, hrun, hlength, hsteps⟩ := Walk.run_of_met limits payload hmet
  refine ⟨steps, ?_, hlength, by simpa using hsteps⟩
  rw [materialize, hrun]
  rfl

/-! ## Texts that lead up to an item -/

/-- Without separators, a selector that matches something matches something up to every item, unless
the text up to there is no query. -/
theorem query_upTo_ne_nil (ht : t.Rooted) (hs : Sequence.parse text = .ok s)
    (hsep : ∀ token ∈ s.tokens, token.kind ≠ .separator) {found : List NodeId}
    (hquery : t.query text = .ok found) (hne : found ≠ []) (j : Nat) :
    t.query (s.upTo j) ≠ .ok [] := by
  intro hnone
  obtain ⟨l', hl', rfl⟩ := (query_eq_ok (Sequence.tokenize_of_parse hs)).mp hquery
  obtain ⟨l, hl, hempty⟩ := (query_eq_ok (Sequence.tokenize_upTo hs j)).mp hnone
  rw [← Sequence.tokensUpTo_append j] at hl' hsep
  obtain ⟨pre, full, rfl, rfl, hbalanced, -, htruncates⟩ :=
    SelectorList.truncates_ofTokens hsep hl hl'
  exact htruncates.select_ne_nil hbalanced ht hne hempty

/-- A selector that already matches is left alone. -/
theorem materialize_unchanged_of_query (ht : t.Reachable) (hs : Sequence.parse text = .ok s)
    (hsep : ∀ token ∈ s.tokens, token.kind ≠ .separator) {x : NodeId} {xs : List NodeId}
    (hquery : t.query text = .ok (x :: xs)) (limits : Limits) (payload : Payload) (b : Binder) :
    ∃ report, materialize limits s payload t b = (.ok report, t, b) ∧
      report.created = 0 ∧ report.contentBound = false ∧
      report.steps.length = s.items.length ∧ ∀ st ∈ report.steps, st.outcome.IsIdle := by
  have hmet := query_upTo_ne_nil ht.rooted hs hsep hquery (List.cons_ne_nil x xs)
  obtain ⟨steps, hrun, hlength, hsteps⟩ :=
    materialize_of_met limits payload b fun j g _ => hmet j
  exact ⟨_, hrun, rfl, rfl, hlength, hsteps fun j _ => hmet j⟩

theorem materialize_unchanged_of_query_skeleton :
    ∃ s report, Sequence.parse "html > *:last-child" = .ok s ∧
      materialize ⟨1000⟩ s (.literal "text") Document.skeleton.tree .empty =
        (.ok report, Document.skeleton.tree, .empty) ∧
      report.created = 0 ∧ report.contentBound = false ∧
      report.steps.length = s.items.length ∧ ∀ st ∈ report.steps, st.outcome.IsIdle := by
  have hs : Sequence.parse "html > *:last-child" = .ok ⟨[.compound ⟨[⟨.tag "html", "html"⟩]⟩,
      .combinator ⟨.child, " > "⟩, .combinator ⟨.universal, "*"⟩,
      .compound ⟨[⟨.pseudoClass "last-child", ":last-child"⟩]⟩]⟩ := by cbv
  have hquery : Document.skeleton.tree.query "html > *:last-child" = .ok [3] := by cbv
  obtain ⟨report, h⟩ := materialize_unchanged_of_query Tree.reachable_skeleton hs (by decide) hquery
    ⟨1000⟩ (.literal "text") .empty
  exact ⟨_, report, hs, h⟩

end Topiary.Synthesis
