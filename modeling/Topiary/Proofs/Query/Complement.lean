import Mathlib
import Topiary.Proofs.Query.Printing
import Topiary.Proofs.Selector.Reassembly

/-!
Negation as complement. The argument of a negation is read as a selector text of its own, so a
negation picks the elements that its argument does not pick.
-/

namespace Topiary.Query

open Topiary.Selector Topiary.Tree Topiary.Text

variable {t : Tree} {x : NodeId} {token : Token} {tokens : List Token} {text : String}
  {inner : Compound Test} {l : SelectorList} {c : Compound Filter}

/-! ## Compounds of tests among compounds of filters -/

/-- The compound that asks the same with filters. -/
def Compound.asFilters (c : Compound Test) : Compound Filter :=
  ⟨c.tag, c.universal, c.tests.map .test⟩

theorem Compound.isBlank_asFilters : inner.asFilters.isBlank = inner.isBlank := by
  simp [isBlank, asFilters]

theorem compoundHolds_asFilters :
    compoundHolds t inner.asFilters x = inner.holds Test.holds t x := by
  rw [compoundHolds, Compound.holds, Compound.holds]
  cases t.element? x with
  | none => rfl
  | some e => simp [Compound.asFilters, Filter.holds, Function.comp_def]

/-- What asks for a negation alone picks just the elements that fail the negated compound. -/
theorem compoundHolds_negation (hx : t.isElement x = true) :
    compoundHolds t (Compound.blank.addTest (.negation inner)) x =
      !inner.holds Test.holds t x := by
  obtain ⟨e, he⟩ := Option.isSome_iff_exists.mp hx
  simp [compoundHolds, Compound.holds, he, Compound.blank, Compound.addTest, Filter.holds]

/-! ## Tokens without a closing parenthesis -/

/-- Without a closing parenthesis no token carries an argument. -/
theorem writtenFunction?_eq_none {kind : Kind} {source : List Char} (h : Lexeme kind source)
    (hclose : ')' ∉ source) : Kind.writtenFunction? kind = none := by
  cases h with
  | equationCall => simp at hclose
  | call => simp at hclose
  | _ => rfl

theorem filterOf_eq_testOf (hlexeme : Lexeme token.kind token.source.toList)
    (hclose : ')' ∉ token.source.toList) : filterOf token = (testOf token).map .test := by
  rw [filterOf, writtenFunction?_eq_none hlexeme hclose, if_neg (by simp)]

theorem addToken_asFilters (h : filterOf token = (testOf token).map .test) :
    addToken filterOf inner.asFilters token =
      (addToken testOf inner token).map Compound.asFilters := by
  unfold addToken
  split
  · change (if (inner.tag.isSome || inner.universal) = true then _ else _) = _
    by_cases htaken : (inner.tag.isSome || inner.universal) = true
    · rw [if_pos htaken, if_pos htaken]
      rfl
    · rw [if_neg htaken, if_neg htaken]
      rfl
  · rfl
  · rw [h]
    cases testOf token with
    | error cause => rfl
    | ok test => simp [Except.map, Compound.addTest, Compound.asFilters]

theorem foldlM_asFilters (h : ∀ token ∈ tokens, filterOf token = (testOf token).map .test)
    (inner : Compound Test) :
    tokens.foldlM (addToken filterOf) inner.asFilters =
      (tokens.foldlM (addToken testOf) inner).map Compound.asFilters := by
  induction tokens generalizing inner with
  | nil => rfl
  | cons token tokens ih =>
    rw [List.foldlM_cons, List.foldlM_cons, addToken_asFilters (h token List.mem_cons_self)]
    cases addToken testOf inner token with
    | error cause => rfl
    | ok next => exact ih (fun other hother => h other (List.mem_cons_of_mem _ hother)) next

/-! ## The argument as a text and as an argument -/

/-- The tokens of one compound compile to this compound alone, if they write one. -/
theorem ofTokens_eq_ok_iff
    (hadds : ∀ token ∈ tokens, combinatorOf? token.kind = none ∧ token.kind ≠ .separator) :
    SelectorList.ofTokens tokens = .ok l ↔
      ∃ c, addTokens .blank tokens = .ok c ∧ c.isBlank = false ∧ l = ⟨[⟨[c], []⟩]⟩ := by
  have hadd : Draft.start.addAll tokens =
      (addTokens .blank tokens).map fun c => { Draft.start with compound := c } :=
    Draft.addAll_eq_addTokens hadds rfl
  rw [SelectorList.ofTokens, hadd]
  cases addTokens .blank tokens with
  | error cause => simp [Except.map]
  | ok c =>
    simp only [Except.map, Draft.finish, Draft.start, Except.ok.injEq]
    cases hblank : c.isBlank with
    | true =>
      constructor
      · intro hrefused
        cases hrefused
      · rintro ⟨c', rfl, hasks, -⟩
        rw [hblank] at hasks
        cases hasks
    | false =>
      constructor
      · intro hl
        obtain rfl := Except.ok.inj hl
        exact ⟨c, rfl, hblank, rfl⟩
      · rintro ⟨c', rfl, -, rfl⟩
        rfl

theorem negated_eq_ok_iff (htokens : tokenize text = .ok tokens)
    (hadds : ∀ token ∈ tokens, combinatorOf? token.kind = none ∧ token.kind ≠ .separator) :
    negated text = .ok inner ↔
      tokens.foldlM (addToken testOf) .blank = .ok inner ∧ inner.isBlank = false := by
  rw [negated, htokens]
  simp only [addNegated_eq_foldlM text hadds]
  cases tokens.foldlM (addToken testOf) .blank with
  | error cause => simp
  | ok c =>
    simp only [Except.ok.injEq]
    split
    · rename_i hblank
      constructor
      · intro hnone
        cases hnone
      · rintro ⟨rfl, hasks⟩
        rw [hblank] at hasks
        cases hasks
    · rename_i hasks
      rw [Except.ok.injEq]
      constructor
      · rintro rfl
        exact ⟨rfl, eq_false_of_ne_true hasks⟩
      · exact And.left

theorem filterOf_of_tokenize (htokens : tokenize text = .ok tokens) (hclose : ')' ∉ text.toList)
    (htoken : token ∈ tokens) : filterOf token = (testOf token).map .test := by
  obtain ⟨all, hcut, rfl⟩ := exists_cutAll_of_tokenize htokens
  obtain ⟨hwell, hspell⟩ := wellCut_of_cutAll hcut
  have hmem := mem_of_mem_keep htoken
  apply filterOf_eq_testOf (hwell.lexeme hmem)
  intro hparen
  apply hclose
  rw [← hspell]
  exact List.mem_flatMap.mpr ⟨token, hmem, hparen⟩

/-- A text compiles to the compound that it writes where it is negated. -/
theorem parse_eq_ok_iff_negated (htokens : tokenize text = .ok tokens)
    (hadds : ∀ token ∈ tokens, combinatorOf? token.kind = none ∧ token.kind ≠ .separator)
    (hclose : ')' ∉ text.toList) :
    SelectorList.parse text = .ok l ↔
      ∃ inner, negated text = .ok inner ∧ l = ⟨[⟨[inner.asFilters], []⟩]⟩ := by
  have hfold : addTokens .blank tokens =
      (tokens.foldlM (addToken testOf) .blank).map Compound.asFilters := by
    rw [addTokens_eq_foldlM]
    exact foldlM_asFilters (fun token htoken => filterOf_of_tokenize htokens hclose htoken) .blank
  rw [SelectorList.parse, htokens]
  simp only [ofTokens_eq_ok_iff hadds, negated_eq_ok_iff htokens hadds, hfold, map_eq_ok]
  constructor
  · rintro ⟨c, ⟨inner, hinner, rfl⟩, hasks, rfl⟩
    exact ⟨inner, ⟨hinner, Compound.isBlank_asFilters ▸ hasks⟩, rfl⟩
  · rintro ⟨inner, ⟨hinner, hasks⟩, rfl⟩
    exact ⟨_, ⟨inner, hinner, rfl⟩, Compound.isBlank_asFilters.trans hasks, rfl⟩

/-! ## The negation as a text -/

theorem firstCut_quote (cs : List Char) : firstCut ('"' :: cs) = none := by
  rw [firstCut_cons (by decide)]
  simp [combinatorCut, acceptBetweenBlanks, acceptBlanks, isAsciiBlank]

/-- A text that has tokens does not begin with a quote. -/
theorem ne_quote_of_tokenize (htokens : tokenize text = .ok tokens) (cs : List Char) :
    text.toList ≠ '"' :: cs := by
  intro hquote
  obtain ⟨all, hcut, -⟩ := exists_cutAll_of_tokenize htokens
  rw [hquote, cutAll_cons_none (firstCut_quote cs)] at hcut
  cases hcut

/-- The token that a negation is read as. -/
def negationToken (argument : String) : Token :=
  ⟨negationKind argument, ":not(" ++ argument ++ ")"⟩

theorem isStructural_negationToken : (negationToken text).isStructural = false :=
  negationKind_isStructural text

theorem tokenize_negation (hquote : ∀ cs, text.toList ≠ '"' :: cs) (hclose : ')' ∉ text.toList) :
    tokenize (":not(" ++ text ++ ")") = .ok [negationToken text] := by
  exact tokenize_source_node (lexeme_negation hclose) (boundary_negationKind hquote)
    isStructural_negationToken

/-- A negation compiles to the negation of what its argument writes. -/
theorem parse_negation_eq_ok_iff (hquote : ∀ cs, text.toList ≠ '"' :: cs)
    (hclose : ')' ∉ text.toList) :
    SelectorList.parse (":not(" ++ text ++ ")") = .ok l ↔
      ∃ inner, negated text = .ok inner ∧
        l = ⟨[⟨[Compound.blank.addTest (.negation inner)], []⟩]⟩ := by
  have hadds : ∀ token ∈ [negationToken text],
      combinatorOf? token.kind = none ∧ token.kind ≠ .separator := by
    intro token htoken
    obtain rfl := List.mem_singleton.mp htoken
    exact combinatorOf?_of_node isStructural_negationToken
  have hadd : addTokens .blank [negationToken text] =
      (negated text).map fun inner => Compound.blank.addTest (.negation inner) := by
    rw [addTokens_eq_foldlM, List.foldlM_cons,
      addToken_of_node filterOf _ isStructural_negationToken (negationKind_ne_tag text),
      negationToken, filterOf_negation]
    cases negated text <;> rfl
  rw [SelectorList.parse, tokenize_negation hquote hclose]
  simp only [ofTokens_eq_ok_iff hadds, hadd, map_eq_ok]
  constructor
  · rintro ⟨c, ⟨inner, hinner, rfl⟩, -, rfl⟩
    exact ⟨inner, hinner, rfl⟩
  · rintro ⟨inner, hinner, rfl⟩
    exact ⟨_, ⟨inner, hinner, rfl⟩, rfl, rfl⟩

/-! ## Complements -/

theorem mem_select_compound (ht : t.Rooted) :
    x ∈ SelectorList.select ⟨[⟨[c], []⟩]⟩ t ↔
      t.isConnected x = true ∧ compoundHolds t c x = true := by
  rw [mem_select_single ht, ht.isConnected_iff]
  rfl

/-- A negation finds the connected elements that the negated compound does not find. -/
theorem mem_select_negation (ht : t.Rooted) :
    x ∈ SelectorList.select ⟨[⟨[Compound.blank.addTest (.negation inner)], []⟩]⟩ t ↔
      t.isConnected x = true ∧ t.isElement x = true ∧
        x ∉ SelectorList.select ⟨[⟨[inner.asFilters], []⟩]⟩ t := by
  rw [mem_select_compound ht, mem_select_compound ht, and_congr_right_iff]
  intro hconnected
  constructor
  · intro hholds
    have hx := isElement_of_compoundHolds hholds
    rw [compoundHolds_negation hx, Bool.not_eq_true'] at hholds
    refine ⟨hx, fun hfound => ?_⟩
    rw [compoundHolds_asFilters, hholds] at hfound
    exact absurd hfound.2 (by decide)
  · rintro ⟨hx, hmissed⟩
    rw [compoundHolds_negation hx, Bool.not_eq_true', ← compoundHolds_asFilters]
    exact eq_false_of_ne_true fun hholds => hmissed ⟨hconnected, hholds⟩

/-- Where a text has only tokens of one compound and no closing parenthesis, its negation compiles
just if it does, and then finds just the connected elements that it does not find. -/
theorem query_negation (htokens : tokenize text = .ok tokens)
    (honly : ∀ token ∈ tokens, token.isStructural = false ∨ token.kind = .universal)
    (hclose : ')' ∉ text.toList) :
    ((∃ l, SelectorList.parse (":not(" ++ text ++ ")") = .ok l) ↔
        ∃ l, SelectorList.parse text = .ok l) ∧
      ((∃ l, SelectorList.parse text = .ok l) → ∀ t : Tree, t.Reachable → ∃ found others,
        t.query text = .ok found ∧ t.query (":not(" ++ text ++ ")") = .ok others ∧
          ∀ x, x ∈ others ↔ t.isConnected x = true ∧ t.isElement x = true ∧ x ∉ found) := by
  have hadds : ∀ token ∈ tokens, combinatorOf? token.kind = none ∧ token.kind ≠ .separator := by
    intro token htoken
    rcases honly token htoken with hnode | huniversal
    · exact combinatorOf?_of_node hnode
    · rw [huniversal]
      exact ⟨rfl, by simp⟩
  have hquote := ne_quote_of_tokenize htokens
  constructor
  · simp only [parse_negation_eq_ok_iff hquote hclose,
      parse_eq_ok_iff_negated htokens hadds hclose]
    constructor
    · rintro ⟨-, inner, hinner, -⟩
      exact ⟨_, inner, hinner, rfl⟩
    · rintro ⟨-, inner, hinner, -⟩
      exact ⟨_, inner, hinner, rfl⟩
  · rintro ⟨l, hl⟩ t ht
    obtain ⟨inner, hinner, rfl⟩ := (parse_eq_ok_iff_negated htokens hadds hclose).mp hl
    have hnegation := (parse_negation_eq_ok_iff hquote hclose).mpr ⟨inner, hinner, rfl⟩
    exact ⟨_, _, query_of_parse hl t, query_of_parse hnegation t, fun x =>
      mem_select_negation ht.rooted⟩

theorem query_negation_skeleton : ∃ tokens, Document.skeleton.tree.Reachable ∧
    tokenize "head:empty" = .ok tokens ∧
    (∀ token ∈ tokens, token.isStructural = false ∨ token.kind = .universal) ∧
    ')' ∉ "head:empty".toList ∧
    Document.skeleton.tree.query "head:empty" = .ok [2] ∧
    Document.skeleton.tree.query ":not(head:empty)" = .ok [1, 3] ∧
    ∀ x, x ∈ [1, 3] ↔ Document.skeleton.tree.isConnected x = true ∧
      Document.skeleton.tree.isElement x = true ∧ x ∉ [2] := by
  have htokens : tokenize "head:empty" =
      .ok [⟨.tag "head", "head"⟩, ⟨.pseudoClass "empty", ":empty"⟩] := by cbv
  have hl : SelectorList.parse "head:empty" =
      .ok ⟨[⟨[⟨some "head", false, [.test .empty]⟩], []⟩]⟩ := by cbv
  have hquery : Document.skeleton.tree.query "head:empty" = .ok [2] := by cbv
  have hquery' : Document.skeleton.tree.query ":not(head:empty)" = .ok [1, 3] := by cbv
  have honly : ∀ token ∈ [⟨.tag "head", "head"⟩, ⟨.pseudoClass "empty", ":empty"⟩],
      Token.isStructural token = false ∨ Token.kind token = .universal := by decide
  have hclose : ')' ∉ "head:empty".toList := by decide
  obtain ⟨found, others, hfound, hothers, hiff⟩ :=
    (query_negation htokens honly hclose).2 ⟨_, hl⟩ _ reachable_skeleton
  obtain rfl := Except.ok.inj (hfound.symm.trans hquery)
  obtain rfl := Except.ok.inj (hothers.symm.trans hquery')
  exact ⟨_, reachable_skeleton, htokens, honly, hclose, hquery, hquery', hiff⟩

end Topiary.Query
