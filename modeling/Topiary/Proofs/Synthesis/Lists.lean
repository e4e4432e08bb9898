import Topiary.Proofs.Synthesis.Steps

/-!
Rules with selector lists. The walk looks at the members of a list one after another, so a rule
whose list matches something is left alone exactly if every text that leads up to a compound matches
something by itself or is no query; a match of the first member is enough for that.
-/

namespace Topiary.Synthesis

open Topiary.Tree Topiary.Selector Topiary.Query
open Topiary.Sheet (Rule)

variable {limits : Limits} {payload : Payload} {s : Sequence} {t : Tree} {b : Binder}
  {text : String}

/-- Every compound matches up to its place, or the text up to there is no query. -/
def Met (s : Sequence) (t : Tree) : Prop :=
  ∀ i g, s.items[i]? = some (.compound g) → t.query (s.upTo i) ≠ .ok []

theorem materialize_untouched_iff_met (limits : Limits) (payload : Payload) (b : Binder)
    (ht : t.Rooted) :
    (∃ report, materialize limits s payload t b = (.ok report, t, b)) ↔ Met s t := by
  constructor
  · rintro ⟨report, h⟩ i g hi
    obtain ⟨w, hrun, -, htree⟩ := materialize_ok h
    simpa using Walk.met_of_run (Walk.sound_start ht) hrun htree i g hi
  · intro hmet
    obtain ⟨steps, hrun, -, -⟩ := materialize_of_met limits payload b hmet
    exact ⟨_, hrun⟩

/-- A rule that is applied leaves the tree and the binder alone exactly if every text that leads up
to a compound matches something or is no query. -/
theorem Engine.applyRule_untouched_iff (ht : t.Reachable) (e : Engine) (rule : Rule)
    (hs : Sequence.parse rule.selector = .ok s) :
    (∃ report e', e.applyRule t rule = (.ok report, e', t) ∧ e'.binder = e.binder) ↔
      ∀ i g, s.items[i]? = some (.compound g) → t.query (s.upTo i) ≠ .ok [] := by
  refine Iff.trans ?_ (materialize_untouched_iff_met e.settings.limits
    (decodeContent e.fetcher rule.content).1 e.binder ht.rooted)
  constructor
  · rintro ⟨report, e', h, hbinder⟩
    obtain ⟨hrun, -, -⟩ := (Engine.applyRule_ok_iff hs).mp h
    exact ⟨report, by rw [hrun, hbinder]⟩
  · rintro ⟨report, h⟩
    exact ⟨report, ⟨e.settings, (decodeContent e.fetcher rule.content).2, e.binder⟩,
      (Engine.applyRule_ok_iff hs).mpr ⟨h, rfl, rfl⟩, rfl⟩

theorem Engine.applyRule_untouched_iff_skeleton :
    ∃ s, Document.skeleton.tree.Reachable ∧ Sequence.parse "body, p" = .ok s ∧
      ((∃ report e', (Engine.new .default (.ofAnswers fun _ => .failed)).applyRule
          Document.skeleton.tree ⟨"body, p", none⟩ = (.ok report, e', Document.skeleton.tree) ∧
          e'.binder = .empty) ↔
        ∀ i g, s.items[i]? = some (.compound g) →
          Document.skeleton.tree.query (s.upTo i) ≠ .ok []) := by
  have hs : Sequence.parse "body, p" = .ok ⟨[.compound ⟨[⟨.tag "body", "body"⟩]⟩,
      .combinator ⟨.separator, ","⟩, .compound ⟨[⟨.tag "p", "p"⟩]⟩]⟩ := by cbv
  exact ⟨_, reachable_skeleton, hs, Engine.applyRule_untouched_iff reachable_skeleton
    (Engine.new .default (.ofAnswers fun _ => .failed)) ⟨"body, p", none⟩ hs⟩

/-- A list that matches something through a later member may still fail at an earlier one. -/
theorem Engine.not_applyRule_untouched_of_list :
    ¬ ∀ (t : Tree) (e : Engine) (rule : Rule) (s : Sequence) (x : NodeId) (xs : List NodeId),
      t.Reachable → Sequence.parse rule.selector = .ok s →
      (∃ token ∈ s.tokens, token.kind = .separator) → t.query rule.selector = .ok (x :: xs) →
      ∃ report e', e.applyRule t rule = (.ok report, e', t) ∧ e'.binder = e.binder := by
  intro h
  have hs : Sequence.parse "p, body" = .ok ⟨[.compound ⟨[⟨.tag "p", "p"⟩]⟩,
      .combinator ⟨.separator, ","⟩, .compound ⟨[⟨.tag "body", "body"⟩]⟩]⟩ := by cbv
  have hquery : Document.skeleton.tree.query "p, body" = .ok [3] := by cbv
  obtain ⟨report, e', happly, -⟩ := h Document.skeleton.tree
    (Engine.new .default (.ofAnswers fun _ => .failed)) ⟨"p, body", none⟩ _ _ _ reachable_skeleton
    hs (by decide) hquery
  have herror : ((Engine.new .default (.ofAnswers fun _ => .failed)).applyRule
      Document.skeleton.tree ⟨"p, body", none⟩).1 = .error (.synthesis (.anchor "p")) := by cbv
  rw [happly] at herror
  simp at herror

/-! ## The first member -/

theorem append_of_append {α : Type} {pre post first rest : List α} {a : α}
    (h : pre ++ post = first ++ a :: rest) :
    (∃ more, first = pre ++ more) ∨ ∃ more, pre = first ++ a :: more := by
  rcases List.append_eq_append_iff.mp h with ⟨more, hfirst, -⟩ | ⟨more, hpre, hrest⟩
  · exact Or.inl ⟨more, hfirst⟩
  · cases more with
    | nil => exact Or.inl ⟨[], by simpa using hpre.symm⟩
    | cons b more =>
      obtain ⟨rfl, -⟩ := List.cons.inj hrest
      exact Or.inr ⟨more, hpre⟩

/-- A list whose first member matches something is met wherever its text is cut off. -/
theorem met_of_first (ht : t.Rooted) (hs : Sequence.parse text = .ok s) {first rest : List Token}
    {token : Token} (htokens : s.tokens = first ++ token :: rest) (hsep : token.kind = .separator)
    (hfirst : ∀ a ∈ first, a.kind ≠ .separator) {found : List NodeId}
    (hquery : t.query (sources first) = .ok found) (hne : found ≠ []) : Met s t := by
  intro i g _ hnone
  have hall := Sequence.tokenize_of_parse hs
  rw [htokens] at hall
  obtain ⟨l, hl, rfl⟩ := (query_eq_ok (tokenize_sources hall)).mp hquery
  obtain ⟨l', hl', hempty⟩ := (query_eq_ok (Sequence.tokenize_upTo hs i)).mp hnone
  have hcut := Sequence.tokensUpTo_append (s := s) i
  rw [htokens] at hcut
  rcases append_of_append hcut with ⟨more, rfl⟩ | ⟨more, hbehind⟩
  · obtain ⟨pre, full, rfl, rfl, hbalanced, -, htruncates⟩ :=
      SelectorList.truncates_ofTokens hfirst hl' hl
    exact htruncates.select_ne_nil hbalanced ht hne hempty
  · rw [hbehind] at hl'
    obtain ⟨member, rfl, hmember⟩ := SelectorList.mem_of_separator hsep hfirst hl hl'
    obtain ⟨x, hx⟩ := List.exists_mem_of_ne_nil _ hne
    obtain ⟨hconn, hmatch⟩ := (mem_select ht).mp hx
    have hx' : x ∈ l'.select t := by
      refine (mem_select ht).mpr ⟨hconn, ?_⟩
      simp only [SelectorList.matches, Bool.and_eq_true, List.any_eq_true, List.any_cons,
        List.any_nil, Bool.or_false] at hmatch ⊢
      exact ⟨hmatch.1, member, hmember, hmatch.2⟩
    rw [hempty] at hx'
    simp at hx'

/-- A rule whose list matches something through its first member is left alone. -/
theorem materialize_untouched_of_first (ht : t.Reachable) (hs : Sequence.parse text = .ok s)
    {first rest : List Token} {token : Token} (htokens : s.tokens = first ++ token :: rest)
    (hsep : token.kind = .separator) (hfirst : ∀ a ∈ first, a.kind ≠ .separator) {x : NodeId}
    {xs : List NodeId} (hquery : t.query (sources first) = .ok (x :: xs)) :
    ∃ report, materialize limits s payload t b = (.ok report, t, b) :=
  (materialize_untouched_iff_met limits payload b ht.rooted).mpr
    (met_of_first ht.rooted hs htokens hsep hfirst hquery (List.cons_ne_nil x xs))

end Topiary.Synthesis
