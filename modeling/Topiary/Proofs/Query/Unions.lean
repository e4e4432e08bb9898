import Mathlib
import Topiary.Proofs.Query.Matches
import Topiary.Proofs.Selector.Segments
import Topiary.Proofs.Tree.Mutation
import Topiary.Proofs.Tree.Precedence

/-!
Unions. A separator closes the selector at hand and leaves nothing of it behind, so a list is
compiled segment by segment, and an element matches it if and only if it matches one of them.
-/

namespace Topiary.Query

open Topiary.Selector Topiary.Tree

variable {tokens first rest : List Token} {token : Token} {d : Draft} {closed : List Complex}
  {l : SelectorList} {t : Tree} {x : NodeId} {text : String}

namespace Draft

/-- The draft with further closed selectors in front of its own. -/
def behind (closed : List Complex) (d : Draft) : Draft :=
  { d with selectors := closed ++ d.selectors }

theorem step_behind : (d.behind closed).step = d.step.behind closed := by
  obtain ⟨selectors, current, compound, pending⟩ := d
  cases pending <;> rfl

theorem addCombinator_behind (combinator : Combinator) (source : String) :
    (d.behind closed).addCombinator combinator source =
      (d.addCombinator combinator source).map (behind closed) := by
  obtain ⟨selectors, current, compound, pending⟩ := d
  by_cases hlead : (compound.isBlank && current.compounds.isEmpty) = true
  · simp [addCombinator, behind, hlead, Except.map]
  · rcases pending with _ | _ | _ | _ | _ <;> cases combinator <;>
      simp [addCombinator, behind, hlead, Except.map]

theorem finish_behind : (d.behind closed).finish = d.finish.map (behind closed) := by
  obtain ⟨selectors, current, compound, pending⟩ := d
  by_cases hblank : compound.isBlank = true <;> rcases pending with _ | _ | _ | _ | _ <;>
    simp [finish, behind, hblank, Except.map]

/-- What is closed already has no part in how further tokens are read. -/
theorem add_behind : (d.behind closed).add token = (d.add token).map (behind closed) := by
  unfold add
  split
  · exact addCombinator_behind _ _
  · split
    · exact finish_behind
    · simp only [step_behind]
      cases hadd : addToken filterOf d.step.compound token with
      | error cause => simp [behind, hadd, Except.map]
      | ok c => simp [behind, hadd, Except.map]

theorem addAll_behind : (d.behind closed).addAll tokens =
    (d.addAll tokens).map (behind closed) := by
  induction tokens generalizing d with
  | nil => rfl
  | cons token tokens ih =>
    rw [addAll, addAll, add_behind]
    cases d.add token with
    | error cause => rfl
    | ok next => exact ih

end Draft

namespace SelectorList

/-- The alternatives of both lists. -/
def join (l l' : SelectorList) : SelectorList :=
  ⟨l.selectors ++ l'.selectors⟩

theorem ofTokens_eq (tokens : List Token) : ofTokens tokens =
    ((Draft.start.addAll tokens).bind Draft.finish).map fun d => ⟨d.selectors⟩ := by
  rw [ofTokens]
  cases Draft.start.addAll tokens <;> rfl

/-- What stands behind a separator is compiled as if nothing stood before it. -/
theorem ofTokens_append_separator (hsep : token.isSeparator = true) :
    ofTokens (first ++ token :: rest) =
      (ofTokens first).bind fun l => (ofTokens rest).map l.join := by
  rw [ofTokens_eq, ofTokens_eq, ofTokens_eq, Draft.addAll_append]
  cases Draft.start.addAll first with
  | error cause => rfl
  | ok d =>
    simp only [Draft.addAll, Draft.add_eq_finish (eq_of_beq hsep)]
    cases hfinish : d.finish with
    | error cause => simp [hfinish, Except.bind, Except.map]
    | ok d' =>
      -- what a separator leaves is a new draft behind the selectors it has closed
      have hstart : d' = Draft.start.behind d'.selectors := by
        rw [Draft.finish_ok hfinish, Draft.behind, Draft.start, List.append_nil]
      simp only [hfinish, Except.bind, Except.map]
      rw [hstart, Draft.addAll_behind]
      cases Draft.start.addAll rest with
      | error cause => rfl
      | ok e =>
        simp only [Except.map]
        rw [Draft.finish_behind]
        cases e.finish with
        | error cause => rfl
        | ok e' => simp [Except.map, join, Draft.behind, Draft.start]

theorem ofTokens_append_separator_eq_ok (hsep : token.isSeparator = true) :
    ofTokens (first ++ token :: rest) = .ok l ↔
      ∃ l1 l2, ofTokens first = .ok l1 ∧ ofTokens rest = .ok l2 ∧ l = l1.join l2 := by
  rw [ofTokens_append_separator hsep]
  cases ofTokens first with
  | error cause => simp [Except.bind]
  | ok l1 =>
    cases ofTokens rest with
    | error cause => simp [Except.bind, Except.map]
    | ok l2 => simp [Except.bind, Except.map, eq_comm]

/-- A list compiles if and only if each of its segments does. -/
theorem exists_ofTokens_iff : (∃ l, ofTokens tokens = .ok l) ↔
    ∀ segment ∈ segments tokens, ∃ l, ofTokens segment = .ok l := by
  induction tokens using segments_induction with
  | single first hfirst => simp [segments_of_forall hfirst]
  | separated first token rest hfirst hsep ih =>
    rw [segments_append_cons hfirst hsep, List.forall_mem_cons, ← ih]
    simp only [ofTokens_append_separator_eq_ok hsep]
    constructor
    · rintro ⟨l, l1, l2, h1, h2, rfl⟩
      exact ⟨⟨l1, h1⟩, ⟨l2, h2⟩⟩
    · rintro ⟨⟨l1, h1⟩, ⟨l2, h2⟩⟩
      exact ⟨l1.join l2, l1, l2, h1, h2, rfl⟩

/-- Its alternatives are those of its segments. -/
theorem mem_selectors_iff {s : Complex} (h : ofTokens tokens = .ok l) : s ∈ l.selectors ↔
    ∃ segment ∈ segments tokens, ∃ part, ofTokens segment = .ok part ∧ s ∈ part.selectors := by
  induction tokens using segments_induction generalizing l with
  | single first hfirst => simp [segments_of_forall hfirst, h]
  | separated first token rest hfirst hsep ih =>
    obtain ⟨l1, l2, h1, h2, rfl⟩ := (ofTokens_append_separator_eq_ok hsep).mp h
    rw [segments_append_cons hfirst hsep, join, List.mem_append, ih h2]
    simp [h1]

theorem matches_iff (h : ofTokens tokens = .ok l) : l.matches t x = true ↔
    ∃ segment ∈ segments tokens, ∃ part, ofTokens segment = .ok part ∧
      part.matches t x = true := by
  simp only [SelectorList.matches, Bool.and_eq_true, List.any_eq_true, mem_selectors_iff h]
  constructor
  · rintro ⟨helement, s, ⟨segment, hsegment, part, hpart, hs⟩, hmatch⟩
    exact ⟨segment, hsegment, part, hpart, helement, s, hs, hmatch⟩
  · rintro ⟨segment, hsegment, part, hpart, helement, s, hs, hmatch⟩
    exact ⟨helement, s, ⟨segment, hsegment, part, hpart, hs⟩, hmatch⟩

theorem parse_eq_ofTokens (h : tokenize text = .ok tokens) :
    SelectorList.parse text = ofTokens tokens := by
  rw [SelectorList.parse, h]

theorem parse_segment {segment : List Token} (h : tokenize text = .ok tokens)
    (hsegment : segment ∈ segments tokens) :
    SelectorList.parse (sources segment) = ofTokens segment :=
  parse_eq_ofTokens (tokenize_segment h hsegment)

end SelectorList

/-- A text is compiled if and only if all its segments are, each as a text of its own. Its query
then lists what the queries of the segments list, once and in document order. -/
theorem query_segments (ht : t.Reachable) (h : tokenize text = .ok tokens) :
    ((∃ l, SelectorList.parse text = .ok l) ↔
        ∀ segment ∈ segments tokens, ∃ l, SelectorList.parse (sources segment) = .ok l) ∧
      ((∃ l, SelectorList.parse text = .ok l) →
        ∃ found, t.query text = .ok found ∧ found.Pairwise t.Precedes ∧ found.Nodup ∧
          ∀ x, x ∈ found ↔ ∃ segment ∈ segments tokens, ∃ part,
            t.query (sources segment) = .ok part ∧ x ∈ part) := by
  have hroot := ht.rooted
  have hparse := SelectorList.parse_eq_ofTokens h
  constructor
  · rw [hparse, SelectorList.exists_ofTokens_iff]
    apply forall₂_congr
    intro segment hsegment
    rw [SelectorList.parse_segment h hsegment]
  · rintro ⟨l, hl⟩
    have hordered : (l.select t).Pairwise t.Precedes := hroot.pairwise_descendants.filter _
    refine ⟨l.select t, query_of_parse hl t, hordered, nodup_of_pairwise_precedes hordered, ?_⟩
    intro x
    rw [mem_select hroot, SelectorList.matches_iff (hparse.symm.trans hl)]
    constructor
    · rintro ⟨hx, segment, hsegment, part, hpart, hmatch⟩
      rw [← SelectorList.parse_segment h hsegment] at hpart
      exact ⟨segment, hsegment, part.select t, query_of_parse hpart t,
        (mem_select hroot).mpr ⟨hx, hmatch⟩⟩
    · rintro ⟨segment, hsegment, found, hquery, hmem⟩
      obtain ⟨part, hpart, rfl⟩ := (query_eq_ok (tokenize_segment h hsegment)).mp hquery
      obtain ⟨hx, hmatch⟩ := (mem_select hroot).mp hmem
      exact ⟨hx, segment, hsegment, part, hpart, hmatch⟩

theorem query_segments_skeleton : ∃ tokens l, Document.skeleton.tree.Reachable ∧
    tokenize "body, head , body" = .ok tokens ∧
    (segments tokens).map sources = ["body", "head ", "body"] ∧
    SelectorList.parse "body, head , body" = .ok l ∧
    Document.skeleton.tree.query "body, head , body" = .ok [2, 3] ∧
    ∀ x, x ∈ [2, 3] ↔ ∃ segment ∈ segments tokens, ∃ part,
      Document.skeleton.tree.query (sources segment) = .ok part ∧ x ∈ part := by
  have htokens : tokenize "body, head , body" = .ok [⟨.tag "body", "body"⟩, ⟨.separator, ","⟩,
      ⟨.tag "head", "head"⟩, ⟨.descendant, " "⟩, ⟨.separator, ","⟩, ⟨.tag "body", "body"⟩] := by cbv
  have hl : SelectorList.parse "body, head , body" = .ok ⟨[⟨[⟨some "body", false, []⟩], []⟩,
      ⟨[⟨some "head", false, []⟩], []⟩, ⟨[⟨some "body", false, []⟩], []⟩]⟩ := by cbv
  have hquery : Document.skeleton.tree.query "body, head , body" = .ok [2, 3] := by cbv
  obtain ⟨found, hfound, -, -, hiff⟩ := (query_segments reachable_skeleton htokens).2 ⟨_, hl⟩
  obtain rfl := Except.ok.inj (hfound.symm.trans hquery)
  exact ⟨_, _, reachable_skeleton, htokens, by cbv, hl, hquery, hiff⟩

end Topiary.Query
