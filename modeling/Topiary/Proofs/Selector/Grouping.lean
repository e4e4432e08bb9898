import Mathlib
import Topiary.Proofs.Selector.Prefixes

/-!
Items as grouping makes them. Grouping the tokens of such items brings the items back, so there is
no other way to split the tokens into such items; and cutting them off behind any place leaves such
items, so the text up to an item is read as exactly the items up to there.
-/

namespace Topiary.Selector

variable {items : List Item} {tokens rest pending : List Token} {g : Group} {token : Token}

/-- Combinators are structural, compounds have tokens and only such as restrict a node, and no two
compounds stand side by side. -/
inductive Grouped : List Item → Prop where
  | nil : Grouped []
  | combinator {token : Token} {items : List Item} : token.isStructural = true → Grouped items →
      Grouped (.combinator token :: items)
  | compound {g : Group} {items : List Item} : g.tokens ≠ [] →
      (∀ token ∈ g.tokens, token.isStructural = false) →
      (∀ other, items.head? ≠ some (.compound other)) → Grouped items →
      Grouped (.compound g :: items)

theorem Grouped.behind_flush (hpending : ∀ token ∈ pending, token.isStructural = false)
    (hhead : ∀ other, items.head? ≠ some (.compound other)) (h : Grouped items) :
    Grouped (flush pending ++ items) := by
  cases pending with
  | nil => exact h
  | cons first pending => exact .compound (by simp) hpending hhead h

/-- Grouping makes grouped items. -/
theorem grouped_groupFrom (hpending : ∀ token ∈ pending, token.isStructural = false) :
    Grouped (groupFrom pending tokens) := by
  induction tokens generalizing pending with
  | nil =>
    rw [groupFrom, ← List.append_nil (flush pending)]
    exact Grouped.nil.behind_flush hpending (by simp)
  | cons token tokens ih =>
    rw [groupFrom]
    split
    · rename_i hstructural
      exact (Grouped.combinator hstructural (ih (by simp))).behind_flush hpending (by simp)
    · rename_i hnode
      refine ih fun other hother => ?_
      rcases List.mem_append.mp hother with hother | hother
      · exact hpending other hother
      · rw [List.mem_singleton.mp hother]
        simpa using hnode

theorem Grouped.take (h : Grouped items) (count : Nat) : Grouped (items.take count) := by
  induction h generalizing count with
  | nil => simpa using Grouped.nil
  | combinator hstructural _ ih =>
    cases count with
    | zero => exact .nil
    | succ count => exact .combinator hstructural (ih count)
  | compound hne hnode hhead _ ih =>
    cases count with
    | zero => exact .nil
    | succ count =>
      refine .compound hne hnode (fun other => ?_) (ih count)
      cases count with
      | zero => simp
      | succ count => simpa [List.head?_take] using hhead other

/-! ## Grouping the tokens of items -/

theorem groupFrom_append (hnode : ∀ token ∈ tokens, token.isStructural = false) :
    groupFrom pending (tokens ++ rest) = groupFrom (pending ++ tokens) rest := by
  induction tokens generalizing pending with
  | nil => simp
  | cons token tokens ih =>
    have htoken : token.isStructural = false := hnode token (by simp)
    rw [List.cons_append, groupFrom, htoken, if_neg Bool.false_ne_true,
      ih fun other hother => hnode other (by simp [hother])]
    simp

/-- Tokens that wait in front of a combinator, or of nothing, are a group of their own. -/
theorem Grouped.groupFrom_pending (h : Grouped items)
    (hhead : ∀ other, items.head? ≠ some (.compound other)) :
    groupFrom pending (items.flatMap Item.tokens) =
      flush pending ++ groupFrom [] (items.flatMap Item.tokens) := by
  cases h with
  | nil => simp [groupFrom, flush]
  | combinator hstructural =>
    rw [List.flatMap_cons, Item.tokens, List.singleton_append, groupFrom, groupFrom, hstructural]
    simp [flush]
  | @compound g => exact absurd rfl (hhead g)

/-- Grouped items are what grouping makes of their tokens. -/
theorem Grouped.groupFrom_eq (h : Grouped items) :
    groupFrom [] (items.flatMap Item.tokens) = items := by
  induction h with
  | nil => rfl
  | @combinator token items hstructural _ ih =>
    rw [List.flatMap_cons, Item.tokens, List.singleton_append, groupFrom, hstructural,
      if_pos rfl, ih]
    rfl
  | @compound g items hne hnode hhead hitems ih =>
    rw [List.flatMap_cons, Item.tokens, groupFrom_append hnode, List.nil_append,
      hitems.groupFrom_pending hhead, ih, flush, if_neg (by simpa using hne)]
    rfl

/-! ## The only way to group -/

/-- The token of a combinator. -/
def Item.combinator? : Item → Option Token
  | .compound _ => none
  | .combinator token => some token

/-- The items are the tokens, split into compounds of per-node tokens and single combinators. -/
structure Partitions (items : List Item) (tokens : List Token) : Prop where
  flatten : items.flatMap Item.tokens = tokens
  compounds : ∀ g, .compound g ∈ items →
    g.tokens ≠ [] ∧ ∀ token ∈ g.tokens, token.isStructural = false
  /-- The combinators are the structural tokens, all of them and in their order. -/
  combinators : items.filterMap Item.combinator? = tokens.filter Token.isStructural
  /-- Of two neighbours at least one is a combinator. -/
  apart : items.IsChain fun item next =>
    item.combinator?.isSome = true ∨ next.combinator?.isSome = true

theorem Grouped.partitions (h : Grouped items) :
    Partitions items (items.flatMap Item.tokens) where
  flatten := rfl
  compounds := by
    induction h with
    | nil => simp
    | combinator _ _ ih => simpa using ih
    | compound hne hnode _ _ ih =>
      intro other hother
      rcases List.mem_cons.mp hother with heq | hother
      · obtain rfl := Item.compound.inj heq
        exact ⟨hne, hnode⟩
      · exact ih other hother
  combinators := by
    induction h with
    | nil => rfl
    | combinator hstructural _ ih =>
      simp [Item.combinator?, Item.tokens, hstructural, ih]
    | @compound g items _ hnode _ _ ih =>
      have hnone : g.tokens.filter Token.isStructural = [] := by
        simpa [List.filter_eq_nil_iff] using hnode
      rw [List.filterMap_cons_none rfl, ih]
      simp [Item.tokens, hnone]
  apart := by
    induction h with
    | nil => exact .nil
    | combinator _ _ ih => exact List.isChain_cons.mpr ⟨fun _ _ => Or.inl rfl, ih⟩
    | compound _ _ hhead _ ih =>
      refine List.isChain_cons.mpr ⟨fun next hnext => ?_, ih⟩
      cases next with
      | compound other => exact absurd hnext (hhead other)
      | combinator token => exact Or.inr rfl

theorem Partitions.grouped (h : Partitions items tokens) : Grouped items := by
  have hstructural : ∀ token, .combinator token ∈ items → token.isStructural = true := by
    intro token htoken
    have hmem : token ∈ items.filterMap Item.combinator? :=
      List.mem_filterMap.mpr ⟨_, htoken, rfl⟩
    rw [h.combinators] at hmem
    exact (List.mem_filter.mp hmem).2
  have hcompounds := h.compounds
  have hapart := h.apart
  clear h
  induction items with
  | nil => exact .nil
  | cons item items ih =>
    obtain ⟨hnext, hrest⟩ := List.isChain_cons.mp hapart
    have hitems : Grouped items :=
      ih (fun token htoken => hstructural token (List.mem_cons_of_mem _ htoken))
        (fun g hg => hcompounds g (List.mem_cons_of_mem _ hg)) hrest
    cases item with
    | combinator token => exact .combinator (hstructural token List.mem_cons_self) hitems
    | compound g =>
      obtain ⟨hne, hnode⟩ := hcompounds g List.mem_cons_self
      refine .compound hne hnode (fun other hother => ?_) hitems
      have hneighbour := hnext _ hother
      simp [Item.combinator?] at hneighbour

/-- Grouping splits a token list into compounds and combinators, and no other sequence does. The
text of every item, and that of the whole, is what the tokens were read from. -/
theorem group_partitions (tokens : List Token) :
    (∀ s : Sequence, Partitions s.items tokens ↔ s = group tokens) ∧
      (∀ item ∈ (group tokens).items, item.source = sources item.tokens) ∧
      (group tokens).source = sources tokens := by
  have htokens : (groupFrom [] tokens).flatMap Item.tokens = tokens := tokens_groupFrom []
  refine ⟨fun s => ?_, fun item _ => item.source_eq, ?_⟩
  · constructor
    · intro h
      have hitems := h.grouped.groupFrom_eq
      rw [h.flatten] at hitems
      rw [group, hitems]
    · rintro rfl
      have hgrouped : Grouped (groupFrom [] tokens) := grouped_groupFrom (by simp)
      have hpartitions := hgrouped.partitions
      rwa [htokens] at hpartitions
  · rw [Sequence.source_eq, Sequence.tokens]
    exact congrArg sources htokens

/-- The tokens of `a#b>*`, with combinators side by side and at the end. -/
def doubledTokens : List Token :=
  [⟨.tag "a", "a"⟩, ⟨.id "b", "#b"⟩, ⟨.child, ">"⟩, ⟨.universal, "*"⟩]

theorem group_partitions_doubledTokens :
    let g : Group := ⟨[⟨.tag "a", "a"⟩, ⟨.id "b", "#b"⟩]⟩
    Partitions [.compound g, .combinator ⟨.child, ">"⟩, .combinator ⟨.universal, "*"⟩]
        doubledTokens ∧
      .compound g ∈ (group doubledTokens).items ∧
      (Item.compound g).source = sources (Item.compound g).tokens ∧
      (group doubledTokens).source = sources doubledTokens := by
  intro g
  obtain ⟨honly, hitem, hsource⟩ := group_partitions doubledTokens
  have hmem : .compound g ∈ (group doubledTokens).items := by decide
  exact ⟨(honly ⟨_⟩).mpr rfl, hmem, hitem _ hmem, hsource⟩

namespace Sequence

variable {s : Sequence} {text : String}

theorem grouped_items (h : parse text = .ok s) : Grouped s.items := by
  rw [parse] at h
  cases htokens : tokenize text with
  | error e =>
    rw [htokens] at h
    simp [Except.map] at h
  | ok tokens =>
    rw [htokens] at h
    obtain rfl := Except.ok.inj h
    exact grouped_groupFrom (by simp)

/-- The text of the items up to a place is read as these items, token for token, whatever follows
them in the sequence and whatever blanks were left out. -/
theorem parse_upTo (h : parse text = .ok s) (index : Nat) :
    parse (s.upTo index) = .ok ⟨s.items.take (index + 1)⟩ := by
  have hitems := ((grouped_items h).take (index + 1)).groupFrom_eq
  rw [parse, tokenize_upTo h index, tokensUpTo, Except.map, group, hitems]

/-- Every cumulative text of a text with tokens can be read, and its items are those of the whole
text up to its place. -/
theorem items_parse_upTo {index : Nat} (h : tokenize text = .ok tokens)
    (hindex : index < (group tokens).items.length) :
    ∃ s, parse ((group tokens).upTo index) = .ok s ∧ s.items.length = index + 1 ∧
      ∀ j ≤ index, s.items[j]? = (group tokens).items[j]? := by
  have hs : parse text = .ok (group tokens) := by rw [parse, h, Except.map]
  refine ⟨_, parse_upTo hs index, ?_, fun j hj => ?_⟩
  · rw [List.length_take, Nat.min_eq_left hindex]
  · rw [List.getElem?_take, if_pos (Nat.lt_succ_of_le hj)]

/-- The tokens of `ul > li:not(.x), *.y`, without the blank behind the comma. -/
def listedTokens : List Token :=
  [⟨.tag "ul", "ul"⟩, ⟨.child, " > "⟩, ⟨.tag "li", "li"⟩, ⟨.call "not" ".x", ":not(.x)"⟩,
    ⟨.separator, ","⟩, ⟨.universal, "*"⟩, ⟨.className "y", ".y"⟩]

theorem items_parse_upTo_listedTokens :
    tokenize "ul > li:not(.x), *.y" = .ok listedTokens ∧
      (group listedTokens).upTo 4 = "ul > li:not(.x),*" ∧
      ∃ s, parse ((group listedTokens).upTo 4) = .ok s ∧ s.items.length = 5 ∧
        ∀ j ≤ 4, s.items[j]? = (group listedTokens).items[j]? := by
  have htokens : tokenize "ul > li:not(.x), *.y" = .ok listedTokens := by cbv
  exact ⟨htokens, by cbv, items_parse_upTo htokens (by decide)⟩

end Sequence

end Topiary.Selector
