import Mathlib
import Topiary.Proofs.Query.Drafts
import Topiary.Query.Match

/-!
The shape of selectors. A compound is only closed when it asks something, and a combinator is only
written between two compounds, so matching a compiled selector finds a compound and a combinator
wherever it looks for one.
-/

namespace Topiary.Query

open Topiary.Selector

variable {tokens : List Token} {token : Token} {d d' : Draft} {s : Complex} {l : SelectorList}
  {t : Tree} {id : NodeId} {i : Nat} {text : String}

/-- There are compounds, each asks something, as do those that it negates, and one combinator stands
between every two neighbours. -/
structure Complex.WellShaped (s : Complex) : Prop where
  nonempty : s.compounds ≠ []
  balanced : s.Balanced
  asks : ∀ c ∈ s.compounds, c.isBlank = false
  negations : ∀ c ∈ s.compounds, ∀ inner, .negation inner ∈ c.tests → inner.isBlank = false

/-- There are alternatives, and all of them are well shaped. -/
structure SelectorList.WellShaped (l : SelectorList) : Prop where
  nonempty : l.selectors ≠ []
  selectors : ∀ s ∈ l.selectors, s.WellShaped

/-! ## Compounds that ask something -/

theorem isBlank_of_negated {argument : String} {c : Compound Test} (h : negated argument = .ok c) :
    c.isBlank = false := by
  unfold negated at h
  split at h
  · cases h
  · split at h
    · cases h
    · split at h
      · cases h
      · rename_i hasks
        obtain rfl := Except.ok.inj h
        exact Bool.eq_false_iff.mpr hasks

theorem isBlank_of_filterOf {inner : Compound Test} (h : filterOf token = .ok (.negation inner)) :
    inner.isBlank = false := by
  unfold filterOf at h
  split at h
  · obtain ⟨c, hc, hsame⟩ := map_eq_ok.mp h
    obtain rfl := Filter.negation.inj hsame
    exact isBlank_of_negated hc
  · obtain ⟨test, -, hsame⟩ := map_eq_ok.mp h
    cases hsame

namespace Draft

/-- Every compound before the one at hand asks something. -/
structure Asking (d : Draft) : Prop where
  closed : ∀ s ∈ d.selectors, ∀ c ∈ s.compounds, c.isBlank = false
  current : ∀ c ∈ d.current.compounds, c.isBlank = false

theorem asking_start : start.Asking := by
  constructor <;> simp [start]

theorem Asking.finish (hd : d.Asking) (h : d.finish = .ok d') : d'.Asking := by
  have hasks := isBlank_of_finish h
  rw [finish_ok h]
  refine ⟨fun s hs c hc => ?_, by simp⟩
  rcases List.mem_append.mp hs with hs | hs
  · exact hd.closed s hs c hc
  · rw [List.mem_singleton.mp hs, done] at hc
    rcases List.mem_append.mp hc with hc | hc
    · exact hd.current c hc
    · rwa [List.mem_singleton.mp hc]

/-- A blank compound is not kept when a combinator closes it. -/
theorem Asking.step (hd : d.Asking) : d.step.Asking := by
  rw [Draft.step]
  split
  · exact hd
  · refine ⟨hd.closed, fun c hc => ?_⟩
    dsimp only at hc
    split at hc
    · exact hd.current c hc
    · rename_i hasks
      rcases List.mem_append.mp hc with hc | hc
      · exact hd.current c hc
      · rw [List.mem_singleton.mp hc]
        exact Bool.eq_false_iff.mpr hasks

theorem Asking.add (hd : d.Asking) (h : d.add token = .ok d') : d'.Asking := by
  by_cases hsep : token.kind = .separator
  · rw [add_eq_finish hsep] at h
    exact hd.finish h
  · rcases add_ok hsep h with ⟨-, pending, rfl⟩ | ⟨c, -, rfl⟩
    · exact ⟨hd.closed, hd.current⟩
    · exact ⟨hd.step.closed, hd.step.current⟩

theorem Asking.addAll (hd : d.Asking) (h : d.addAll tokens = .ok d') : d'.Asking :=
  addAll_preserves (fun _ _ _ _ hasking hadd => hasking.add hadd) hd h

end Draft

theorem SelectorList.asks_of_ofTokens (h : ofTokens tokens = .ok l) (hs : s ∈ l.selectors)
    {c : Compound Filter} (hc : c ∈ s.compounds) : c.isBlank = false := by
  obtain ⟨d, d', hd, hfinish, rfl⟩ := exists_draft h
  exact ((Draft.asking_start.addAll hd).finish hfinish).closed s hs c hc

theorem SelectorList.selectors_ne_nil (h : ofTokens tokens = .ok l) : l.selectors ≠ [] := by
  obtain ⟨d, d', -, hfinish, rfl⟩ := exists_draft h
  simp [Draft.finish_ok hfinish]

theorem Complex.Balanced.ne_nil (h : s.Balanced) : s.compounds ≠ [] :=
  List.ne_nil_of_length_eq_add_one h

theorem SelectorList.wellShaped_of_parse (h : parse text = .ok l) : l.WellShaped := by
  obtain ⟨tokens, -, hl⟩ := exists_tokens_of_parse h
  refine ⟨selectors_ne_nil hl, fun s hs => ?_⟩
  have hbalanced := balanced_of_parse h hs
  refine ⟨hbalanced.ne_nil, hbalanced, fun c hc => asks_of_ofTokens hl hs hc, ?_⟩
  intro c hc inner hinner
  obtain ⟨token, -, htoken⟩ := writtenBy_ofTokens hl hs hc _ hinner
  exact isBlank_of_filterOf htoken

/-! ## Checked matching -/

/-- `matchesFrom`, given up as soon as a compound or a combinator is looked for where there is
none. A combinator is only looked for once the compound behind it holds, and candidates are tried
until one matches. -/
def matchesFrom? (t : Tree) (s : Complex) : (index : Nat) → NodeId → Option Bool
  | 0, id => do
    let c ← s.compounds[0]?
    return compoundHolds t c id
  | index + 1, id => do
    let c ← s.compounds[index + 1]?
    if compoundHolds t c id then
      let combinator ← s.combinators[index]?
      (related t combinator id).anyM (matchesFrom? t s index)
    else return false

/-- `SelectorList.matches`, given up as soon as an alternative has no last compound or matching it
is given up. -/
def SelectorList.matches? (l : SelectorList) (t : Tree) (id : NodeId) : Option Bool :=
  if t.isElement id then
    l.selectors.anyM fun s => do
      let last ← s.compounds.length.psub 1
      matchesFrom? t s last id
  else return false

/-- A search that gives up on no candidate finds what the plain one finds. -/
theorem anyM_eq_some {α : Type} {test? : α → Option Bool} {test : α → Bool} {candidates : List α}
    (h : ∀ a ∈ candidates, test? a = some (test a)) :
    candidates.anyM test? = some (candidates.any test) := by
  induction candidates with
  | nil => rfl
  | cons a candidates ih =>
    rw [List.anyM, h a List.mem_cons_self, List.any_cons]
    cases test a with
    | false => exact ih fun other hother => h other (List.mem_cons_of_mem _ hother)
    | true => rfl

/-- Every place of a balanced selector can be matched from. -/
theorem matchesFrom?_eq (hs : s.Balanced) (hi : i < s.compounds.length) :
    matchesFrom? t s i id = some (matchesFrom t s i id) := by
  induction i generalizing id with
  | zero =>
    rw [matchesFrom?, matchesFrom, List.getElem?_eq_getElem hi]
    rfl
  | succ i ih =>
    -- A combinator stands before every compound but the first.
    have hi' : i < s.combinators.length := by
      rw [Complex.Balanced] at hs
      omega
    rw [matchesFrom?, matchesFrom, List.getElem?_eq_getElem hi, List.getElem?_eq_getElem hi']
    simp only [Option.bind_eq_bind, Option.bind_some]
    cases compoundHolds t s.compounds[i + 1] id with
    | false => rfl
    | true => exact anyM_eq_some fun other _ => ih (Nat.lt_of_succ_lt hi)

/-- Behind the last compound matching is given up. -/
theorem matchesFrom?_eq_none (hi : s.compounds.length ≤ i) : matchesFrom? t s i id = none := by
  cases i <;> rw [matchesFrom?, List.getElem?_eq_none hi] <;> rfl

theorem SelectorList.matches?_eq (hl : l.WellShaped) : l.matches? t id = some (l.matches t id) := by
  rw [SelectorList.matches?, SelectorList.matches]
  cases t.isElement id with
  | false => rfl
  | true =>
    refine anyM_eq_some fun s hs => ?_
    have hshape := hl.selectors s hs
    have hpos := List.length_pos_iff.mpr hshape.nonempty
    have hlast : s.compounds.length.psub 1 = some (s.compounds.length - 1) :=
      Nat.psub_eq_some.mpr (Nat.sub_add_cancel hpos)
    rw [hlast]
    exact matchesFrom?_eq hshape.balanced (Nat.sub_lt hpos Nat.one_pos)

/-- A list that is compiled is well shaped, and matching a node against it, from any place of any
alternative, finds all compounds and combinators that it looks for. -/
theorem SelectorList.parse_wellShaped (h : parse text = .ok l) :
    l.WellShaped ∧ ∀ (t : Tree) (id : NodeId),
      (∀ s ∈ l.selectors, ∀ i < s.compounds.length,
        matchesFrom? t s i id = some (matchesFrom t s i id)) ∧
      l.matches? t id = some (l.matches t id) := by
  have hl := wellShaped_of_parse h
  exact ⟨hl, fun t id => ⟨fun s hs i hi => matchesFrom?_eq (hl.selectors s hs).balanced hi,
    matches?_eq hl⟩⟩

theorem SelectorList.parse_wellShaped_children : ∃ l,
    parse "ul > li:not(.x) , *" = .ok l ∧ l.WellShaped ∧ ∀ (t : Tree) (id : NodeId),
      (∀ s ∈ l.selectors, ∀ i < s.compounds.length,
        matchesFrom? t s i id = some (matchesFrom t s i id)) ∧
      l.matches? t id = some (l.matches t id) := by
  have hl : parse "ul > li:not(.x) , *" = .ok ⟨[⟨[⟨some "ul", false, []⟩, ⟨some "li", false,
      [.negation ⟨none, false, [.className "x"]⟩]⟩], [.child]⟩, ⟨[⟨none, true, []⟩], []⟩]⟩ := by cbv
  exact ⟨_, hl, parse_wellShaped hl⟩

end Topiary.Query
