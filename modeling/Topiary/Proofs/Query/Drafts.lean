import Mathlib.Data.List.Basic
import Topiary.Query.Compile

/-!
Drafts of selectors. Without a separator every further token only adds to what the tokens before it
have written, so a selector that is compiled from the first tokens of a text asks no more than the
one that is compiled from all of them.
-/

namespace Topiary.Query

open Topiary.Selector

variable {tokens first rest : List Token} {token : Token} {d d' : Draft}
  {s s' s'' : Complex}

/-! ## Results -/

theorem map_eq_ok {ε α β : Type} {result : Except ε α} {f : α → β} {b : β} :
    result.map f = .ok b ↔ ∃ a, result = .ok a ∧ f a = b := by
  cases result <;> simp [Except.map]

theorem map_eq_error {ε α β : Type} {result : Except ε α} {f : α → β} {e : ε} :
    result.map f = .error e ↔ result = .error e := by
  cases result <;> simp [Except.map]

/-! ## Compounds and selectors -/

/-- The first compound asks no more than the second. -/
structure Compound.Weaker {τ : Type} (c c' : Compound τ) : Prop where
  tag : ∀ tag, c.tag = some tag → c'.tag = some tag
  tests : c.tests ⊆ c'.tests

namespace Compound.Weaker

variable {τ : Type} {c c' c'' : Compound τ}

theorem refl (c : Compound τ) : c.Weaker c :=
  ⟨fun _ h => h, fun _ h => h⟩

theorem trans (h : c.Weaker c') (h' : c'.Weaker c'') : c.Weaker c'' :=
  ⟨fun tag htag => h'.tag tag (h.tag tag htag), fun _ htest => h'.tests (h.tests htest)⟩

end Compound.Weaker

/-- The first selector is a beginning of the second, with a last compound that may ask less. -/
structure Complex.Truncates (s s' : Complex) : Prop where
  compounds : ∀ (i : Nat) c, s.compounds[i]? = some c →
    ∃ c', s'.compounds[i]? = some c' ∧ c.Weaker c'
  combinators : s.combinators <+: s'.combinators

/-- One combinator stands between every two neighbouring compounds. -/
def Complex.Balanced (s : Complex) : Prop :=
  s.compounds.length = s.combinators.length + 1

namespace Complex.Truncates

theorem refl (s : Complex) : s.Truncates s :=
  ⟨fun _ c hc => ⟨c, hc, .refl c⟩, List.prefix_rfl⟩

theorem trans (h : s.Truncates s') (h' : s'.Truncates s'') : s.Truncates s'' := by
  refine ⟨fun i c hc => ?_, h.combinators.trans h'.combinators⟩
  obtain ⟨c', hc', hweaker⟩ := h.compounds i c hc
  obtain ⟨c'', hc'', hweaker'⟩ := h'.compounds i c' hc'
  exact ⟨c'', hc'', hweaker.trans hweaker'⟩

end Complex.Truncates

/-! ## Tokens of a compound -/

theorem addToken_ok {c c' : Compound Filter} (h : addToken filterOf c token = .ok c') :
    c'.isBlank = false ∧ c.Weaker c' := by
  unfold addToken at h
  split at h
  · split at h
    · simp at h
    · rename_i hfree
      obtain rfl := Except.ok.inj h
      refine ⟨rfl, ?_, fun _ htest => htest⟩
      intro tag htag
      simp [htag] at hfree
  · obtain rfl := Except.ok.inj h
    exact ⟨by simp [Compound.isBlank], fun _ htag => htag, fun _ htest => htest⟩
  · obtain ⟨filter, -, rfl⟩ := map_eq_ok.mp h
    refine ⟨by simp [Compound.isBlank, Compound.addTest], fun _ htag => htag, ?_⟩
    exact List.subset_append_left _ _

namespace Draft

/-- The selector at hand with the compound at hand as its last one. -/
def done (d : Draft) : Complex :=
  ⟨d.current.compounds ++ [d.compound], d.current.combinators⟩

/-- Nothing of a selector has been read. -/
structure Fresh (d : Draft) : Prop where
  compound : d.compound = .blank
  current : d.current = ⟨[], []⟩
  pending : d.pending = none

/-- The compound at hand asks something, and all before it are joined. -/
structure Begun (d : Draft) : Prop where
  asks : d.compound.isBlank = false
  joined : d.current.compounds.length = d.current.combinators.length

theorem fresh_start : start.Fresh := ⟨rfl, rfl, rfl⟩

theorem Begun.balanced (h : d.Begun) : d.done.Balanced := by
  simp [Complex.Balanced, done, h.joined]

/-- A combinator waits, and nothing else changes. -/
theorem addCombinator_ok {combinator : Combinator} {source : String}
    (h : d.addCombinator combinator source = .ok d') :
    ¬ d.Fresh ∧ ∃ pending, d' = { d with pending := some pending } := by
  unfold addCombinator at h
  split at h
  · simp at h
  · rename_i hnot
    refine ⟨fun hfresh => hnot (by simp [hfresh.compound, hfresh.current, Compound.blank,
      Compound.isBlank]), ?_⟩
    split at h
    · exact ⟨_, (Except.ok.inj h).symm⟩
    · exact ⟨_, (Except.ok.inj h).symm⟩
    · split at h
      · exact ⟨_, (Except.ok.inj h).symm⟩
      · simp at h

/-- A separator closes the selector at hand. -/
theorem add_eq_finish (h : token.kind = .separator) : d.add token = d.finish := by
  rw [add, h]
  rfl

/-- What a further token does that is no separator. -/
theorem add_ok (hsep : token.kind ≠ .separator) (h : d.add token = .ok d') :
    (¬ d.Fresh ∧ ∃ pending, d' = { d with pending := some pending }) ∨
      ∃ c, addToken filterOf d.step.compound token = .ok c ∧
        d' = { d.step with compound := c } := by
  unfold add at h
  split at h
  · exact Or.inl (addCombinator_ok h)
  · rw [if_neg hsep] at h
    obtain ⟨c, hadd, rfl⟩ := map_eq_ok.mp h
    exact Or.inr ⟨c, hadd, rfl⟩

theorem Fresh.add (hd : d.Fresh) (hsep : token.kind ≠ .separator) (h : d.add token = .ok d') :
    d'.Begun ∧ d'.selectors = d.selectors := by
  have hstep : d.step = d := by rw [step, hd.pending]
  rcases add_ok hsep h with ⟨hnot, -⟩ | ⟨c, hc, rfl⟩
  · exact absurd hd hnot
  · rw [hstep]
    exact ⟨⟨(addToken_ok hc).1, by simp [hd.current]⟩, rfl⟩

theorem Begun.add (hd : d.Begun) (hsep : token.kind ≠ .separator) (h : d.add token = .ok d') :
    d'.Begun ∧ d'.selectors = d.selectors ∧ d.done.Truncates d'.done := by
  rcases add_ok hsep h with ⟨-, pending, rfl⟩ | ⟨c, hc, rfl⟩
  · exact ⟨⟨hd.asks, hd.joined⟩, rfl, .refl _⟩
  · obtain ⟨hasks, hweaker⟩ := addToken_ok hc
    cases hpending : d.pending with
    | none =>
      have hstep : d.step = d := by rw [step, hpending]
      rw [hstep] at hweaker ⊢
      refine ⟨⟨hasks, hd.joined⟩, rfl, ?_, List.prefix_rfl⟩
      intro i other hother
      rw [done, List.getElem?_append] at hother
      rw [done, List.getElem?_append]
      split at hother
      · rename_i hi
        exact ⟨other, by rw [if_pos hi]; exact hother, .refl other⟩
      · rename_i hi
        rw [List.getElem?_singleton] at hother
        split at hother
        · rename_i hlast
          obtain rfl := Option.some.inj hother
          exact ⟨c, by rw [if_neg hi, hlast]; rfl, hweaker⟩
        · simp at hother
    | some combinator =>
      have hstep : d.step = ⟨d.selectors, ⟨d.current.compounds ++ [d.compound],
          d.current.combinators ++ [combinator]⟩, .blank, none⟩ := by
        rw [step, hpending]
        simp [hd.asks]
      rw [hstep]
      refine ⟨⟨hasks, by simp [hd.joined]⟩, rfl, ?_, List.prefix_append _ _⟩
      intro i other hother
      refine ⟨other, ?_, .refl other⟩
      obtain ⟨hi, -⟩ := List.getElem?_eq_some_iff.mp hother
      exact (List.getElem?_append_left hi).trans hother

theorem addAll_cons_ok (h : d.addAll (token :: tokens) = .ok d') :
    ∃ next, d.add token = .ok next ∧ next.addAll tokens = .ok d' := by
  rw [Draft.addAll] at h
  split at h
  · cases h
  · rename_i next hnext
    exact ⟨next, hnext, h⟩

/-- What adding one token preserves, adding all of them preserves. -/
theorem addAll_preserves {motive : Draft → Prop}
    (hadd : ∀ token ∈ tokens, ∀ d d', motive d → d.add token = .ok d' → motive d') (hd : motive d)
    (h : d.addAll tokens = .ok d') : motive d' := by
  induction tokens generalizing d with
  | nil =>
    obtain rfl := Except.ok.inj h
    exact hd
  | cons token tokens ih =>
    obtain ⟨next, hnext, hrest⟩ := addAll_cons_ok h
    apply ih (fun other hother => hadd other (List.mem_cons_of_mem _ hother)) _ hrest
    exact hadd token List.mem_cons_self d next hd hnext

theorem Begun.addAll (hd : d.Begun) (hsep : ∀ t ∈ tokens, t.kind ≠ .separator)
    (h : d.addAll tokens = .ok d') :
    d'.Begun ∧ d'.selectors = d.selectors ∧ d.done.Truncates d'.done := by
  induction tokens generalizing d with
  | nil =>
    obtain rfl := Except.ok.inj h
    exact ⟨hd, rfl, .refl _⟩
  | cons token tokens ih =>
    obtain ⟨next, hnext, hrest⟩ := addAll_cons_ok h
    obtain ⟨hbegun, hsame, htruncates⟩ := hd.add (hsep token (by simp)) hnext
    obtain ⟨hbegun', hsame', htruncates'⟩ := ih hbegun (fun t ht => hsep t (by simp [ht])) hrest
    exact ⟨hbegun', hsame'.trans hsame, htruncates.trans htruncates'⟩

theorem Fresh.addAll (hd : d.Fresh) (hsep : ∀ t ∈ tokens, t.kind ≠ .separator)
    (h : d.addAll tokens = .ok d') (hne : tokens ≠ []) :
    d'.Begun ∧ d'.selectors = d.selectors := by
  cases tokens with
  | nil => exact absurd rfl hne
  | cons token tokens =>
    obtain ⟨next, hnext, hrest⟩ := addAll_cons_ok h
    obtain ⟨hbegun, hsame⟩ := hd.add (hsep token (by simp)) hnext
    obtain ⟨hbegun', hsame', -⟩ := hbegun.addAll (fun t ht => hsep t (by simp [ht])) hrest
    exact ⟨hbegun', hsame'.trans hsame⟩

theorem addAll_append : d.addAll (first ++ rest) =
    match d.addAll first with
    | .error cause => .error cause
    | .ok d => d.addAll rest := by
  induction first generalizing d with
  | nil => rfl
  | cons token first ih =>
    rw [List.cons_append, Draft.addAll, Draft.addAll]
    cases d.add token with
    | error cause => rfl
    | ok d => exact ih

theorem addAll_append_ok (h : d.addAll (first ++ rest) = .ok d') :
    ∃ next, d.addAll first = .ok next ∧ next.addAll rest = .ok d' := by
  rw [addAll_append] at h
  split at h
  · cases h
  · rename_i next hnext
    exact ⟨next, hnext, h⟩

theorem isBlank_of_finish (h : d.finish = .ok d') : d.compound.isBlank = false := by
  unfold finish at h
  split at h
  · cases h
  · cases h
  · cases h
  · split at h
    · cases h
    · rename_i hasks
      exact Bool.eq_false_iff.mpr hasks

theorem not_fresh_of_finish (h : d.finish = .ok d') : ¬ d.Fresh := by
  intro hfresh
  have hasks := isBlank_of_finish h
  rw [hfresh.compound] at hasks
  cases hasks

theorem finish_ok (h : d.finish = .ok d') :
    d' = ⟨d.selectors ++ [d.done], ⟨[], []⟩, .blank, none⟩ := by
  unfold finish at h
  split at h
  · simp at h
  · simp at h
  · simp at h
  · split at h
    · simp at h
    · exact (Except.ok.inj h).symm

theorem selectors_finish (h : d.finish = .ok d') : d.selectors ⊆ d'.selectors := by
  rw [finish_ok h]
  exact List.subset_append_left _ _

theorem selectors_step : d.step.selectors = d.selectors := by
  rw [step]
  cases d.pending <;> rfl

theorem selectors_add (h : d.add token = .ok d') : d.selectors ⊆ d'.selectors := by
  by_cases hsep : token.kind = .separator
  · rw [add_eq_finish hsep] at h
    exact selectors_finish h
  · rcases add_ok hsep h with ⟨-, pending, rfl⟩ | ⟨c, -, rfl⟩
    · exact List.Subset.refl _
    · simp only [selectors_step]
      exact List.Subset.refl _

/-- A selector that is closed stays in the list. -/
theorem selectors_addAll (h : d.addAll tokens = .ok d') : d.selectors ⊆ d'.selectors := by
  apply addAll_preserves (motive := fun later => d.selectors ⊆ later.selectors) _ _ h
  · intro token htoken d₁ d₂ hsubset hadd
    exact List.Subset.trans hsubset (selectors_add hadd)
  · exact List.Subset.refl _

end Draft

/-- A list that is compiled consists of the selectors of a draft whose last one is closed. -/
theorem SelectorList.exists_draft {l : SelectorList} (h : SelectorList.ofTokens tokens = .ok l) :
    ∃ d d', Draft.start.addAll tokens = .ok d ∧ d.finish = .ok d' ∧ l = ⟨d'.selectors⟩ := by
  unfold SelectorList.ofTokens at h
  split at h
  · simp at h
  · rename_i d hd
    obtain ⟨d', hfinish, rfl⟩ := map_eq_ok.mp h
    exact ⟨d, d', hd, hfinish, rfl⟩

/-! ## Compiling without separators -/

theorem SelectorList.ofTokens_ok {l : SelectorList}
    (hsep : ∀ t ∈ tokens, t.kind ≠ .separator) (h : SelectorList.ofTokens tokens = .ok l) :
    ∃ d, Draft.start.addAll tokens = .ok d ∧ d.Begun ∧ l = ⟨[d.done]⟩ := by
  obtain ⟨d, d', hd, hfinish, rfl⟩ := SelectorList.exists_draft h
  have hne : tokens ≠ [] := by
    rintro rfl
    obtain rfl := Except.ok.inj hd
    exact Draft.not_fresh_of_finish hfinish Draft.fresh_start
  obtain ⟨hbegun, hsame⟩ := Draft.fresh_start.addAll hsep hd hne
  refine ⟨d, hd, hbegun, ?_⟩
  rw [Draft.finish_ok hfinish, hsame]
  rfl

/-- The selector in front of the first separator is in every list that goes on behind it. -/
theorem SelectorList.mem_of_separator {l l' : SelectorList} (hsep : token.kind = .separator)
    (hfirst : ∀ t ∈ first, t.kind ≠ .separator) (h : SelectorList.ofTokens first = .ok l)
    (h' : SelectorList.ofTokens (first ++ token :: rest) = .ok l') :
    ∃ s, l = ⟨[s]⟩ ∧ s ∈ l'.selectors := by
  obtain ⟨d, hd, hbegun, rfl⟩ := ofTokens_ok hfirst h
  refine ⟨d.done, rfl, ?_⟩
  obtain ⟨last, final, hlast, hend, rfl⟩ := SelectorList.exists_draft h'
  rw [Draft.addAll_append, hd] at hlast
  obtain ⟨closed, hfinish, hrest⟩ := Draft.addAll_cons_ok hlast
  rw [Draft.add_eq_finish hsep] at hfinish
  have hmem : d.done ∈ closed.selectors := by
    rw [Draft.finish_ok hfinish]
    simp
  exact Draft.selectors_finish hend (Draft.selectors_addAll hrest hmem)

/-- What the first tokens of a text compile to is a beginning of what all its tokens compile to. -/
theorem SelectorList.truncates_ofTokens {l l' : SelectorList}
    (hsep : ∀ t ∈ first ++ rest, t.kind ≠ .separator)
    (h : SelectorList.ofTokens first = .ok l)
    (h' : SelectorList.ofTokens (first ++ rest) = .ok l') :
    ∃ s s', l = ⟨[s]⟩ ∧ l' = ⟨[s']⟩ ∧ s.Balanced ∧ s'.Balanced ∧ s.Truncates s' := by
  obtain ⟨d, hd, hbegun, rfl⟩ := ofTokens_ok (fun t ht => hsep t (by simp [ht])) h
  obtain ⟨d', hd', hbegun', rfl⟩ := ofTokens_ok hsep h'
  rw [Draft.addAll_append, hd] at hd'
  obtain ⟨-, -, htruncates⟩ := hbegun.addAll (fun t ht => hsep t (by simp [ht])) hd'
  exact ⟨_, _, rfl, rfl, hbegun.balanced, hbegun'.balanced, htruncates⟩

/-! ## Whole lists -/

namespace Draft

/-- The closed selectors are balanced, and the one at hand is to begin or has begun. -/
structure Orderly (d : Draft) : Prop where
  current : d.Fresh ∨ d.Begun
  closed : ∀ s ∈ d.selectors, s.Balanced

theorem Orderly.finish (hd : d.Orderly) (h : d.finish = .ok d') : d'.Orderly := by
  have hbegun := hd.current.resolve_left (not_fresh_of_finish h)
  rw [finish_ok h]
  refine ⟨Or.inl ⟨rfl, rfl, rfl⟩, fun s hs => ?_⟩
  rcases List.mem_append.mp hs with hs | hs
  · exact hd.closed s hs
  · rw [List.mem_singleton.mp hs]
    exact hbegun.balanced

theorem Orderly.add (hd : d.Orderly) (h : d.add token = .ok d') : d'.Orderly := by
  by_cases hsep : token.kind = .separator
  · rw [add_eq_finish hsep] at h
    exact hd.finish h
  · rcases hd.current with hfresh | hbegun
    · obtain ⟨hbegun', hsame⟩ := hfresh.add hsep h
      exact ⟨Or.inr hbegun', hsame ▸ hd.closed⟩
    · obtain ⟨hbegun', hsame, -⟩ := hbegun.add hsep h
      exact ⟨Or.inr hbegun', hsame ▸ hd.closed⟩

theorem Orderly.addAll (hd : d.Orderly) (h : d.addAll tokens = .ok d') : d'.Orderly :=
  addAll_preserves (fun _ _ _ _ horderly hadd => horderly.add hadd) hd h

end Draft

/-- A text that is compiled is cut into tokens that are. -/
theorem SelectorList.exists_tokens_of_parse {text : String} {l : SelectorList}
    (h : SelectorList.parse text = .ok l) :
    ∃ tokens, tokenize text = .ok tokens ∧ SelectorList.ofTokens tokens = .ok l := by
  unfold SelectorList.parse at h
  split at h
  · cases h
  · rename_i tokens htokens
    exact ⟨tokens, htokens, h⟩

/-- All members of a list that is compiled are balanced. -/
theorem SelectorList.balanced_of_parse {text : String} {l : SelectorList}
    (h : SelectorList.parse text = .ok l) (hs : s ∈ l.selectors) : s.Balanced := by
  obtain ⟨tokens, -, hl⟩ := SelectorList.exists_tokens_of_parse h
  obtain ⟨d, d', hd, hfinish, rfl⟩ := SelectorList.exists_draft hl
  have hstart : Draft.start.Orderly := ⟨Or.inl Draft.fresh_start, by simp [Draft.start]⟩
  exact ((hstart.addAll hd).finish hfinish).closed s hs

/-! ## Where filters come from -/

/-- Every filter of the compound is what one of the tokens stands for. -/
def Compound.WrittenBy (c : Compound Filter) (tokens : List Token) : Prop :=
  ∀ filter ∈ c.tests, ∃ token ∈ tokens, filterOf token = .ok filter

theorem Compound.writtenBy_blank (tokens : List Token) :
    (Compound.blank : Compound Filter).WrittenBy tokens := by
  simp [WrittenBy, blank]

theorem Compound.WrittenBy.addToken {c c' : Compound Filter} (hc : c.WrittenBy tokens)
    (htoken : token ∈ tokens) (h : addToken filterOf c token = .ok c') : c'.WrittenBy tokens := by
  unfold Query.addToken at h
  split at h
  · split at h
    · simp at h
    · obtain rfl := Except.ok.inj h
      exact hc
  · obtain rfl := Except.ok.inj h
    exact hc
  · obtain ⟨filter, hfilter, rfl⟩ := map_eq_ok.mp h
    intro other hother
    rcases List.mem_append.mp hother with hother | hother
    · exact hc other hother
    · rw [List.mem_singleton.mp hother]
      exact ⟨token, htoken, hfilter⟩

namespace Draft

/-- Every filter of the draft is what one of the tokens stands for. -/
structure WrittenBy (d : Draft) (tokens : List Token) : Prop where
  closed : ∀ s ∈ d.selectors, ∀ c ∈ s.compounds, c.WrittenBy tokens
  done : ∀ c ∈ d.done.compounds, c.WrittenBy tokens

theorem writtenBy_start (tokens : List Token) : start.WrittenBy tokens where
  closed := by simp [start]
  done := by
    simp only [Draft.done, start, List.nil_append, List.mem_singleton, forall_eq]
    exact Compound.writtenBy_blank tokens

theorem WrittenBy.finish (hd : d.WrittenBy tokens) (h : d.finish = .ok d') :
    d'.WrittenBy tokens := by
  rw [finish_ok h]
  refine ⟨fun s hs => ?_, (writtenBy_start tokens).done⟩
  rcases List.mem_append.mp hs with hs | hs
  · exact hd.closed s hs
  · rw [List.mem_singleton.mp hs]
    exact hd.done

theorem WrittenBy.step (hd : d.WrittenBy tokens) : d.step.WrittenBy tokens := by
  rw [Draft.step]
  split
  · exact hd
  · refine ⟨hd.closed, fun c hc => ?_⟩
    simp only [Draft.done] at hc
    rcases List.mem_append.mp hc with hc | hc
    · split at hc
      · exact hd.done c (List.mem_append_left _ hc)
      · exact hd.done c hc
    · rw [List.mem_singleton.mp hc]
      exact Compound.writtenBy_blank tokens

theorem WrittenBy.add (hd : d.WrittenBy tokens) (htoken : token ∈ tokens)
    (h : d.add token = .ok d') : d'.WrittenBy tokens := by
  by_cases hsep : token.kind = .separator
  · rw [add_eq_finish hsep] at h
    exact hd.finish h
  · rcases add_ok hsep h with ⟨-, pending, rfl⟩ | ⟨c, hc, rfl⟩
    · exact ⟨hd.closed, hd.done⟩
    · have hstep := hd.step
      refine ⟨hstep.closed, fun other hother => ?_⟩
      rcases List.mem_append.mp hother with hother | hother
      · exact hstep.done other (List.mem_append_left _ hother)
      · rw [List.mem_singleton.mp hother]
        exact (hstep.done _ (by simp [Draft.done])).addToken htoken hc

theorem WrittenBy.addAll {all : List Token} (hd : d.WrittenBy all) (htokens : tokens ⊆ all)
    (h : d.addAll tokens = .ok d') : d'.WrittenBy all := by
  refine addAll_preserves (motive := fun later => later.WrittenBy all) ?_ hd h
  intro token htoken before after hbefore hadd
  exact hbefore.add (htokens htoken) hadd

end Draft

/-- Every filter of a compiled list is what one of its tokens stands for. -/
theorem SelectorList.writtenBy_ofTokens {l : SelectorList}
    (h : SelectorList.ofTokens tokens = .ok l) {c : Compound Filter} (hs : s ∈ l.selectors)
    (hc : c ∈ s.compounds) : c.WrittenBy tokens := by
  obtain ⟨d, d', hd, hfinish, rfl⟩ := SelectorList.exists_draft h
  have hwritten := (Draft.writtenBy_start tokens).addAll (List.Subset.refl _) hd
  exact (hwritten.finish hfinish).closed s hs c hc

end Topiary.Query
