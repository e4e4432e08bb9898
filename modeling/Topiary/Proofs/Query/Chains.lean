import Topiary.Proofs.Query.Matches
import Topiary.Proofs.Selector.Prefixes

/-!
Chains of compounds. A sequence that alternates between compounds and combinators compiles to one
selector, and the text up to an item to the part of the selector in front of it.
-/

namespace Topiary.Query

open Topiary.Selector

variable {tokens : List Token} {token : Token} {d : Draft} {c c' : Compound Filter} {g head : Group}
  {links : List (Token × Group)} {link : Token × Group} {s : Sequence} {text : String} {t : Tree}
  {i j : Nat} {x : NodeId}

/-! ## Groups -/

/-- Add the tokens of a group to a compound one by one. -/
def addTokens (c : Compound Filter) : List Token → Except Unsupported (Compound Filter)
  | [] => .ok c
  | token :: tokens =>
    match addToken filterOf c token with
    | .error cause => .error cause
    | .ok c => addTokens c tokens

/-- The compound that a group writes, if it writes one. -/
def compoundOf (g : Group) : Compound Filter :=
  match addTokens .blank g.tokens with
  | .ok c => c
  | .error _ => .blank

/-- A group of per-node tokens that writes a compound. -/
structure Compiles (g : Group) : Prop where
  ne_nil : g.tokens ≠ []
  node : ∀ token ∈ g.tokens, token.isStructural = false
  writes : addTokens .blank g.tokens = .ok (compoundOf g)

theorem isBlank_addTokens (hne : tokens ≠ []) (h : addTokens c tokens = .ok c') :
    c'.isBlank = false := by
  induction tokens generalizing c with
  | nil => exact absurd rfl hne
  | cons token tokens ih =>
    rw [addTokens] at h
    split at h
    · simp at h
    · rename_i next hnext
      cases tokens with
      | nil =>
        obtain rfl := Except.ok.inj h
        exact (addToken_ok hnext).1
      | cons other tokens => exact ih (by simp) h

theorem combinatorOf?_of_node (h : token.isStructural = false) :
    combinatorOf? token.kind = none ∧ token.kind ≠ .separator := by
  rw [Token.isStructural] at h
  cases hkind : token.kind <;> simp [hkind, Kind.isStructural, combinatorOf?] at h ⊢

theorem ne_descendant_of_combinatorOf? (h : combinatorOf? token.kind = none) :
    token.kind ≠ .descendant := by
  intro hkind
  simp [hkind, combinatorOf?] at h

/-- Tokens that write a compound. The universal selector is structural and yet may be among
them. -/
structure Writes (tokens : List Token) (c : Compound Filter) : Prop where
  ne_nil : tokens ≠ []
  adds : ∀ token ∈ tokens, combinatorOf? token.kind = none ∧ token.kind ≠ .separator
  writes : addTokens .blank tokens = .ok c

theorem Writes.isBlank (h : Writes tokens c) : c.isBlank = false :=
  isBlank_addTokens h.ne_nil h.writes

theorem Compiles.writesGroup (h : Compiles g) : Writes g.tokens (compoundOf g) where
  ne_nil := h.ne_nil
  adds := fun token htoken => combinatorOf?_of_node (h.node token htoken)
  writes := h.writes

namespace Draft

theorem add_of_adds (h : combinatorOf? token.kind = none ∧ token.kind ≠ .separator) : d.add token =
    (addToken filterOf d.step.compound token).map fun c => { d.step with compound := c } := by
  rw [add, h.1]
  simp only [if_neg h.2]

theorem add_node (h : token.isStructural = false) : d.add token =
    (addToken filterOf d.step.compound token).map fun c => { d.step with compound := c } :=
  add_of_adds (combinatorOf?_of_node h)

theorem step_of_none (h : d.pending = none) : d.step = d := by
  rw [step, h]

theorem pending_step : d.step.pending = none := by
  rw [step]
  split
  · rename_i h
    exact h
  · rfl

/-- Tokens of a compound are added to the compound at hand one by one. -/
theorem addAll_eq_addTokens
    (hadds : ∀ token ∈ tokens, combinatorOf? token.kind = none ∧ token.kind ≠ .separator)
    (hd : d.pending = none) :
    d.addAll tokens = (addTokens d.compound tokens).map fun c => { d with compound := c } := by
  induction tokens generalizing d with
  | nil => rfl
  | cons token tokens ih =>
    rw [Draft.addAll, addTokens, add_of_adds (hadds token (by simp)), step_of_none hd]
    cases addToken filterOf d.compound token with
    | error cause => rfl
    | ok next => exact ih (fun a ha => hadds a (by simp [ha])) hd

/-- The tokens of a compound close the one in front of them where a combinator waits. -/
theorem addAll_writes (hw : Writes tokens c) (hd : d.step.compound = .blank) :
    d.addAll tokens = .ok { d.step with compound := c } := by
  have hstep : d.addAll tokens = d.step.addAll tokens := by
    obtain ⟨token, more, rfl⟩ := List.exists_cons_of_ne_nil hw.ne_nil
    have hadds := hw.adds token (by simp)
    rw [Draft.addAll, Draft.addAll, add_of_adds hadds, add_of_adds hadds,
      step_of_none pending_step]
  rw [hstep]
  rw [addAll_eq_addTokens hw.adds pending_step, hd, hw.writes]
  rfl

end Draft

/-! ## Chains -/

/-- The combinator that a token between two compounds writes. -/
def jointOf (token : Token) : Combinator :=
  (combinatorOf? token.kind).getD .descendant

/-- A first group and further ones, each behind the token that joins it to what is before. -/
def chainItems (head : Group) (links : List (Token × Group)) : List Item :=
  .compound head :: links.flatMap fun link => [.combinator link.1, .compound link.2]

/-- The selector that a chain writes. -/
def complexOf (head : Group) (links : List (Token × Group)) : Complex where
  compounds := compoundOf head :: links.map fun link => compoundOf link.2
  combinators := links.map fun link => jointOf link.1

def chainTokens (head : Group) (links : List (Token × Group)) : List Token :=
  head.tokens ++ links.flatMap fun link => link.1 :: link.2.tokens

theorem tokens_chainItems :
    (chainItems head links).flatMap Item.tokens = chainTokens head links := by
  rw [chainItems, chainTokens, List.flatMap_cons, List.flatMap_assoc]
  simp [Item.tokens]

theorem exists_of_mem_chainTokens (h : token ∈ chainTokens head links) :
    (∃ g ∈ head :: links.map Prod.snd, token ∈ g.tokens) ∨ ∃ link ∈ links, link.1 = token := by
  rw [chainTokens] at h
  rcases List.mem_append.mp h with htoken | htoken
  · exact Or.inl ⟨head, List.mem_cons_self, htoken⟩
  · obtain ⟨link, hlink, htoken⟩ := List.mem_flatMap.mp htoken
    rcases List.mem_cons.mp htoken with rfl | htoken
    · exact Or.inr ⟨link, hlink, rfl⟩
    · exact Or.inl ⟨link.2, List.mem_cons_of_mem _ (List.mem_map_of_mem hlink), htoken⟩

/-- Groups that write compounds, with tokens between them that write combinators. -/
structure IsChain (s : Sequence) (head : Group) (links : List (Token × Group)) : Prop where
  items : s.items = chainItems head links
  joints : ∀ link ∈ links, combinatorOf? link.1.kind = some (jointOf link.1)
  compiles : ∀ g ∈ head :: links.map Prod.snd, Compiles g

namespace Draft

/-- A draft whose compound at hand is complete. -/
structure Whole (d : Draft) (s : Complex) : Prop where
  selectors : d.selectors = []
  done : d.done = s
  asks : d.compound.isBlank = false
  pending : d.pending = none

theorem Whole.joint {s : Complex} (hd : d.Whole s) {combinator : Combinator}
    (h : combinatorOf? token.kind = some combinator) :
    d.add token = .ok { d with pending := some combinator } := by
  rw [add, h]
  simp [addCombinator, hd.asks, hd.pending]

theorem Whole.addLink {s : Complex} (hd : d.Whole s) {combinator : Combinator}
    (h : combinatorOf? token.kind = some combinator) (hw : Writes tokens c) :
    ∃ d', d.addAll (token :: tokens) = .ok d' ∧
      d'.Whole ⟨s.compounds ++ [c], s.combinators ++ [combinator]⟩ := by
  have hstep : step { d with pending := some combinator } =
      ⟨d.selectors, ⟨d.current.compounds ++ [d.compound],
        d.current.combinators ++ [combinator]⟩, .blank, none⟩ := by
    rw [step]
    simp [hd.asks]
  refine ⟨{ step { d with pending := some combinator } with compound := c }, ?_, ?_⟩
  · rw [Draft.addAll, hd.joint h]
    exact addAll_writes hw (by rw [hstep])
  · rw [hstep, ← hd.done]
    exact ⟨hd.selectors, rfl, hw.isBlank, rfl⟩

section Links

-- what the links are made of does not matter, as long as they tell tokens and what these write
variable {ι : Type} {links : List ι} {joint : ι → Token} {combinator : ι → Combinator}
  {tokensOf : ι → List Token} {compound : ι → Compound Filter}

theorem Whole.addLinks {s : Complex} (hd : d.Whole s)
    (hjoints : ∀ link ∈ links, combinatorOf? (joint link).kind = some (combinator link))
    (hwrites : ∀ link ∈ links, Writes (tokensOf link) (compound link)) :
    ∃ d', d.addAll (links.flatMap fun link => joint link :: tokensOf link) = .ok d' ∧
      d'.Whole ⟨s.compounds ++ links.map compound, s.combinators ++ links.map combinator⟩ := by
  induction links generalizing d s with
  | nil => exact ⟨d, rfl, by simpa using hd⟩
  | cons link links ih =>
    obtain ⟨d1, hlink, hd1⟩ := hd.addLink (hjoints link (by simp)) (hwrites link (by simp))
    obtain ⟨d2, hlinks, hd2⟩ := ih hd1 (fun l hl => hjoints l (by simp [hl]))
      fun l hl => hwrites l (by simp [hl])
    refine ⟨d2, ?_, by simpa using hd2⟩
    rw [List.flatMap_cons, addAll_append, hlink]
    exact hlinks

theorem whole_links (hfirst : Writes tokens c)
    (hjoints : ∀ link ∈ links, combinatorOf? (joint link).kind = some (combinator link))
    (hwrites : ∀ link ∈ links, Writes (tokensOf link) (compound link)) :
    ∃ d, start.addAll (tokens ++ links.flatMap fun link => joint link :: tokensOf link) = .ok d ∧
      d.Whole ⟨c :: links.map compound, links.map combinator⟩ := by
  have hadd : start.addAll tokens = .ok { start with compound := c } := addAll_writes hfirst rfl
  have hwhole : Whole { start with compound := c } ⟨[c], []⟩ :=
    ⟨rfl, rfl, hfirst.isBlank, rfl⟩
  obtain ⟨d, hlinks, hd⟩ := hwhole.addLinks hjoints hwrites
  refine ⟨d, ?_, by simpa using hd⟩
  rw [addAll_append, hadd]
  exact hlinks

end Links

theorem whole_chain (hjoints : ∀ link ∈ links, combinatorOf? link.1.kind = some (jointOf link.1))
    (hcompiles : ∀ g ∈ head :: links.map Prod.snd, Compiles g) :
    ∃ d, start.addAll (chainTokens head links) = .ok d ∧ d.Whole (complexOf head links) :=
  whole_links (hcompiles head (by simp)).writesGroup hjoints fun link hlink =>
    (hcompiles link.2 (List.mem_cons_of_mem _ (List.mem_map_of_mem hlink))).writesGroup

theorem Whole.finish {s : Complex} (hd : d.Whole s) :
    d.finish = .ok ⟨[s], ⟨[], []⟩, .blank, none⟩ := by
  have hdone : (⟨d.current.compounds ++ [d.compound], d.current.combinators⟩ : Complex) = s :=
    hd.done
  simp [Draft.finish, hd.pending, hd.asks, hd.selectors, hdone]

theorem Whole.finish_joint {s : Complex} (hd : d.Whole s) (combinator : Combinator) :
    Draft.finish { d with pending := some combinator } =
      if combinator = .descendant then .ok ⟨[s], ⟨[], []⟩, .blank, none⟩
      else .error (.danglingCombinator combinator) := by
  have hdone : (⟨d.current.compounds ++ [d.compound], d.current.combinators⟩ : Complex) = s :=
    hd.done
  cases combinator <;> simp [Draft.finish, hd.asks, hd.selectors, hdone]

end Draft

theorem Draft.Whole.ofTokens {s : Complex} (hadd : Draft.start.addAll tokens = .ok d)
    (hd : d.Whole s) : SelectorList.ofTokens tokens = .ok ⟨[s]⟩ := by
  rw [SelectorList.ofTokens, hadd]
  simp only [hd.finish]
  rfl

theorem ofTokens_chain
    (hjoints : ∀ link ∈ links, combinatorOf? link.1.kind = some (jointOf link.1))
    (hcompiles : ∀ g ∈ head :: links.map Prod.snd, Compiles g) :
    SelectorList.ofTokens (chainTokens head links) = .ok ⟨[complexOf head links]⟩ := by
  obtain ⟨d, hadd, hd⟩ := Draft.whole_chain hjoints hcompiles
  exact hd.ofTokens hadd

/-- Blanks at the end of a text join nothing; any other combinator there is refused. -/
theorem ofTokens_chain_joint
    (hjoints : ∀ link ∈ links, combinatorOf? link.1.kind = some (jointOf link.1))
    (hcompiles : ∀ g ∈ head :: links.map Prod.snd, Compiles g) {combinator : Combinator}
    (htoken : combinatorOf? token.kind = some combinator) :
    SelectorList.ofTokens (chainTokens head links ++ [token]) =
      if combinator = .descendant then .ok ⟨[complexOf head links]⟩
      else .error (.danglingCombinator combinator) := by
  obtain ⟨d, hadd, hd⟩ := Draft.whole_chain hjoints hcompiles
  have hall : Draft.start.addAll (chainTokens head links ++ [token]) =
      .ok { d with pending := some combinator } := by
    rw [Draft.addAll_append, hadd]
    simp only [Draft.addAll, hd.joint htoken]
  rw [SelectorList.ofTokens, hall]
  simp only [hd.finish_joint]
  split <;> rfl

/-! ## The text up to an item -/

theorem take_chainItems (j : Nat) :
    (chainItems head links).take (2 * j + 1) = chainItems head (links.take j) := by
  rw [chainItems, chainItems, List.take_succ_cons]
  congr 1
  induction j generalizing links with
  | zero => simp
  | succ j ih =>
    cases links with
    | nil => simp
    | cons link links =>
      rw [List.flatMap_cons, List.take_succ_cons, List.flatMap_cons, Nat.mul_succ]
      simp [ih]

theorem take_chainItems_joint (hj : links[j]? = some link) :
    (chainItems head links).take (2 * j + 2) =
      chainItems head (links.take j) ++ [.combinator link.1] := by
  rw [chainItems, chainItems, List.take_succ_cons, List.cons_append]
  congr 1
  induction j generalizing links with
  | zero =>
    cases links with
    | nil => simp at hj
    | cons first links =>
      obtain rfl : first = link := by simpa using hj
      simp
  | succ j ih =>
    cases links with
    | nil => simp at hj
    | cons first links =>
      rw [List.flatMap_cons, List.take_succ_cons, List.flatMap_cons, Nat.mul_succ]
      simp [ih (by simpa using hj)]

/-- A match up to a compound looks at nothing behind it. -/
theorem matchesFrom_take (hi : i ≤ j) : matchesFrom t (complexOf head (links.take j)) i x =
    matchesFrom t (complexOf head links) i x := by
  induction i generalizing x with
  | zero => simp [matchesFrom, complexOf]
  | succ i ih =>
    have hlt : i < j := hi
    have hrest : ∀ y, matchesFrom t (complexOf head (links.take j)) i y =
        matchesFrom t (complexOf head links) i y := fun y => ih (Nat.le_of_lt hlt)
    simp only [matchesFrom, complexOf, List.getElem?_cons_succ, List.map_take,
      List.getElem?_take_of_lt hlt]
    simp only [complexOf, List.map_take] at hrest
    simp only [funext hrest]

namespace IsChain

variable (h : IsChain s head links) (hs : Sequence.parse text = .ok s)

include h

theorem tokensUpTo_compound (j : Nat) : s.tokensUpTo (2 * j) = chainTokens head (links.take j) := by
  rw [Sequence.tokensUpTo, h.items, take_chainItems, tokens_chainItems]

theorem tokensUpTo_joint (hj : links[j]? = some link) :
    s.tokensUpTo (2 * j + 1) = chainTokens head (links.take j) ++ [link.1] := by
  rw [Sequence.tokensUpTo, h.items, take_chainItems_joint hj, List.flatMap_append,
    tokens_chainItems]
  simp [Item.tokens]

theorem tokens_eq : s.tokens = chainTokens head links := by
  rw [Sequence.tokens, h.items, tokens_chainItems]

theorem ne_separator : ∀ token ∈ s.tokens, token.kind ≠ .separator := by
  intro token htoken
  rw [h.tokens_eq] at htoken
  rcases exists_of_mem_chainTokens htoken with ⟨g, hg, htoken⟩ | ⟨link, hlink, rfl⟩
  · exact (combinatorOf?_of_node ((h.compiles g hg).node token htoken)).2
  · intro hkind
    have hjoint := h.joints link hlink
    rw [hkind] at hjoint
    simp [combinatorOf?] at hjoint

theorem joints_take (j : Nat) : ∀ link ∈ links.take j,
    combinatorOf? link.1.kind = some (jointOf link.1) :=
  fun link hlink => h.joints link (List.mem_of_mem_take hlink)

theorem compiles_take (j : Nat) : ∀ g ∈ head :: (links.take j).map Prod.snd, Compiles g := by
  intro g hg
  apply h.compiles g
  rcases List.mem_cons.mp hg with rfl | hg
  · simp
  · rw [List.map_take] at hg
    exact List.mem_cons_of_mem _ (List.mem_of_mem_take hg)

include hs

/-- Up to a compound the text asks for the matches of the chain up to it. -/
theorem query_compound (hj : j ≤ links.length) (ht : t.Rooted) :
    ∃ found, t.query (s.upTo (2 * j)) = .ok found ∧
      ∀ x, x ∈ found ↔ t.Connected x ∧ matchesFrom t (complexOf head links) j x = true := by
  have htokens := Sequence.tokenize_upTo hs (2 * j)
  rw [h.tokensUpTo_compound] at htokens
  refine ⟨SelectorList.select ⟨[complexOf head (links.take j)]⟩ t, ?_, ?_⟩
  · rw [Tree.query, SelectorList.parse, htokens]
    simp only [ofTokens_chain (h.joints_take j) (h.compiles_take j)]
    rfl
  · intro x
    rw [mem_select_single ht]
    have hlength : (complexOf head (links.take j)).compounds.length - 1 = j := by
      simp [complexOf, hj]
    rw [hlength, matchesFrom_take (Nat.le_refl j)]

/-- Up to its last compound the text asks for what it asks for as a whole. -/
theorem query_text : t.query text = t.query (s.upTo (2 * links.length)) := by
  have htokens := Sequence.tokenize_upTo hs (2 * links.length)
  have htext := Sequence.tokenize_of_parse hs
  rw [h.tokensUpTo_compound, List.take_length] at htokens
  rw [h.tokens_eq] at htext
  rw [Tree.query, Tree.query, SelectorList.parse, SelectorList.parse, htext, htokens]

theorem mem_of_query {found : List NodeId} (hj : j ≤ links.length) (ht : t.Rooted)
    (hquery : t.query (s.upTo (2 * j)) = .ok found) (x : NodeId) :
    x ∈ found ↔ t.Connected x ∧ matchesFrom t (complexOf head links) j x = true := by
  obtain ⟨all, hall, hiff⟩ := h.query_compound hs hj ht
  obtain rfl := Except.ok.inj (hquery.symm.trans hall)
  exact hiff x

theorem query_eq_nil_iff (hj : j ≤ links.length) (ht : t.Rooted) :
    t.query (s.upTo (2 * j)) = .ok [] ↔
      ∀ x, t.Connected x → matchesFrom t (complexOf head links) j x = false := by
  obtain ⟨found, hfound, hiff⟩ := h.query_compound hs hj ht
  rw [hfound, Except.ok.injEq, List.eq_nil_iff_forall_not_mem]
  constructor
  · intro hnot x hx
    simpa [hx] using (hiff x).not.mp (hnot x)
  · intro hnone x hmem
    obtain ⟨hx, hmatch⟩ := (hiff x).mp hmem
    rw [hnone x hx] at hmatch
    simp at hmatch

theorem exists_query_text_iff (ht : t.Rooted) : (∃ x xs, t.query text = .ok (x :: xs)) ↔
    ∃ x, t.Connected x ∧ matchesFrom t (complexOf head links) links.length x = true := by
  obtain ⟨found, hfound, hiff⟩ := h.query_compound hs (Nat.le_refl _) ht
  rw [h.query_text hs, hfound]
  constructor
  · rintro ⟨x, xs, hcons⟩
    obtain rfl := Except.ok.inj hcons
    exact ⟨x, (hiff x).mp (by simp)⟩
  · rintro ⟨x, hx⟩
    obtain ⟨y, ys, rfl⟩ := List.exists_cons_of_ne_nil (List.ne_nil_of_mem ((hiff x).mpr hx))
    exact ⟨y, ys, rfl⟩

/-- Blanks behind a compound ask for the same, and other combinators there are no query. -/
theorem query_joint (hj : links[j]? = some link) :
    (jointOf link.1 = .descendant → t.query (s.upTo (2 * j + 1)) = t.query (s.upTo (2 * j))) ∧
      (jointOf link.1 ≠ .descendant → ∃ cause, t.query (s.upTo (2 * j + 1)) = .error cause) := by
  have htokens := Sequence.tokenize_upTo hs (2 * j)
  have htokens' := Sequence.tokenize_upTo hs (2 * j + 1)
  rw [h.tokensUpTo_compound] at htokens
  rw [h.tokensUpTo_joint hj] at htokens'
  have hjoint := h.joints link (List.mem_of_getElem? hj)
  rw [Tree.query, Tree.query, SelectorList.parse, SelectorList.parse, htokens, htokens']
  simp only [ofTokens_chain (h.joints_take j) (h.compiles_take j),
    ofTokens_chain_joint (h.joints_take j) (h.compiles_take j) hjoint]
  refine ⟨fun hdescendant => by rw [if_pos hdescendant], fun hother => ?_⟩
  rw [if_neg hother]
  exact ⟨_, rfl⟩

end IsChain

end Topiary.Query
