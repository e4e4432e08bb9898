import Topiary.Proofs.Query.Chains

/-!
Where filters go. A per-node token that is no tag stands for one filter, and a list that is compiled
from it asks for this filter somewhere.
-/

namespace Topiary.Query

open Topiary.Selector

variable {tokens : List Token} {token : Token} {d d' : Draft}

theorem addToken_of_node {τ : Type} (test : Token → Except Unsupported τ) (c : Compound τ)
    (hnode : token.isStructural = false) (htag : ∀ name, token.kind ≠ .tag name) :
    addToken test c token = (test token).map c.addTest := by
  unfold addToken
  split
  · rename_i name hkind
    exact absurd hkind (htag name)
  · rename_i hkind
    rw [Token.isStructural, hkind] at hnode
    cases hnode
  · rfl

namespace Draft

/-- Some compound of the draft has the filter. -/
def Asks (d : Draft) (filter : Filter) : Prop :=
  (∃ s ∈ d.selectors, ∃ c ∈ s.compounds, filter ∈ c.tests) ∨
    ∃ c ∈ d.done.compounds, filter ∈ c.tests

variable {filter : Filter}

theorem Asks.finish (hd : d.Asks filter) (h : d.finish = .ok d') :
    ∃ s ∈ d'.selectors, ∃ c ∈ s.compounds, filter ∈ c.tests := by
  rw [finish_ok h]
  rcases hd with ⟨s, hs, hasks⟩ | hasks
  · exact ⟨s, List.mem_append_left _ hs, hasks⟩
  · exact ⟨d.done, List.mem_append_right _ List.mem_cons_self, hasks⟩

theorem Asks.step (hd : d.Asks filter) : d.step.Asks filter := by
  rw [Draft.step]
  split
  · exact hd
  · rcases hd with hclosed | ⟨c, hc, hfilter⟩
    · exact .inl hclosed
    refine .inr ⟨c, ?_, hfilter⟩
    have hasks : c = d.compound → d.compound.isBlank = false := by
      rintro rfl
      simp [Compound.isBlank, List.ne_nil_of_mem hfilter]
    simp only [Draft.done, List.mem_append, List.mem_singleton] at hc ⊢
    left
    split
    · rename_i hblank
      exact hc.resolve_right fun heq => by simp [hasks heq] at hblank
    · exact List.mem_append.mpr (hc.imp_right List.mem_singleton.mpr)

theorem Asks.add (hd : d.Asks filter) (h : d.add token = .ok d') : d'.Asks filter := by
  by_cases hsep : token.kind = .separator
  · rw [add_eq_finish hsep] at h
    exact .inl (hd.finish h)
  · rcases add_ok hsep h with ⟨-, pending, rfl⟩ | ⟨c, hc, rfl⟩
    · exact hd
    · have hweaker := (addToken_ok hc).2
      rcases hd.step with hclosed | ⟨other, hother, hfilter⟩
      · exact .inl hclosed
      right
      rcases List.mem_append.mp hother with hother | hother
      · exact ⟨other, List.mem_append_left _ hother, hfilter⟩
      · rw [List.mem_singleton.mp hother] at hfilter
        exact ⟨c, List.mem_append_right _ List.mem_cons_self, hweaker.tests hfilter⟩

theorem Asks.addAll (hd : d.Asks filter) (h : d.addAll tokens = .ok d') : d'.Asks filter := by
  refine addAll_preserves (motive := fun later => later.Asks filter) ?_ hd h
  intro token htoken before after hbefore hadd
  exact hbefore.add hadd

/-- A token that is added with success is read, and the draft asks for what it stands for. -/
theorem exists_filter_of_add (hnode : token.isStructural = false)
    (htag : ∀ name, token.kind ≠ .tag name) (h : d.add token = .ok d') :
    ∃ filter, filterOf token = .ok filter ∧ d'.Asks filter := by
  rw [add_node hnode, addToken_of_node filterOf _ hnode htag] at h
  cases hfilter : filterOf token with
  | error cause =>
    rw [hfilter] at h
    cases h
  | ok filter =>
    rw [hfilter] at h
    obtain rfl := Except.ok.inj h
    exact ⟨filter, rfl, .inr ⟨_, List.mem_append_right _ List.mem_cons_self,
      List.mem_append_right _ List.mem_cons_self⟩⟩

theorem exists_filter_of_addAll (hmem : token ∈ tokens) (hnode : token.isStructural = false)
    (htag : ∀ name, token.kind ≠ .tag name) (h : d.addAll tokens = .ok d') :
    ∃ filter, filterOf token = .ok filter ∧ d'.Asks filter := by
  induction tokens generalizing d with
  | nil => cases hmem
  | cons first tokens ih =>
    obtain ⟨next, hnext, hrest⟩ := addAll_cons_ok h
    rcases List.mem_cons.mp hmem with rfl | hmem
    · obtain ⟨filter, hfilter, hasks⟩ := exists_filter_of_add hnode htag hnext
      exact ⟨filter, hfilter, hasks.addAll hrest⟩
    · exact ih hmem hrest

end Draft

/-- A compiled list asks for what each of its per-node tokens stands for. -/
theorem SelectorList.exists_filter {l : SelectorList} (h : SelectorList.ofTokens tokens = .ok l)
    (hmem : token ∈ tokens) (hnode : token.isStructural = false)
    (htag : ∀ name, token.kind ≠ .tag name) :
    ∃ filter, filterOf token = .ok filter ∧
      ∃ s ∈ l.selectors, ∃ c ∈ s.compounds, filter ∈ c.tests := by
  obtain ⟨d, d', hd, hfinish, rfl⟩ := SelectorList.exists_draft h
  obtain ⟨filter, hfilter, hasks⟩ := Draft.exists_filter_of_addAll hmem hnode htag hd
  exact ⟨filter, hfilter, hasks.finish hfinish⟩

end Topiary.Query
