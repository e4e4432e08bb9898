import Topiary.Proofs.Selector.Cuts
import Topiary.Selector.Sequence

/-!
Cumulative texts. Cutting a token list off at the end, or leaving out the blanks that separate
nothing, gives a text that is read as exactly the tokens that were left.
-/

namespace Topiary.Selector

section

variable {text : String} {token : Token} {tokens first behind : List Token}
  {rest rest' cs : List Char}
  {c : Char}

/-- The characters that a token list was read from. -/
def spell (tokens : List Token) : List Char :=
  tokens.flatMap fun token => token.source.toList

theorem spell_cons : spell (token :: tokens) = token.source.toList ++ spell tokens := by
  simp [spell]

theorem spell_append : spell (first ++ tokens) = spell first ++ spell tokens := by
  simp [spell]

theorem join_toList (l : List String) : (String.join l).toList = l.flatMap String.toList := by
  induction l with
  | nil => rfl
  | cons s l ih => rw [String.join_cons, String.toList_append, ih, List.flatMap_cons]

theorem sources_toList : (sources tokens).toList = spell tokens := by
  rw [sources, join_toList, List.flatMap_map, spell]

/-! ## Cutting a text and spelling it again -/

/-- Every token takes the written form of its kind in front of what the others spell. -/
def WellCut : List Token → Prop
  | [] => True
  | token :: tokens =>
    Lexeme token.kind token.source.toList ∧ Boundary token.kind (spell tokens) ∧ WellCut tokens

theorem Lexeme.ne_nil {kind : Kind} {source : List Char} (h : Lexeme kind source) :
    source ≠ [] := by
  cases h with
  | tag h => exact h.ne_nil
  | descendant hu hne => exact hne
  | _ => simp

/-- What tokens spell begins with the first character of the first token. -/
theorem WellCut.exists_first (h : WellCut (token :: tokens)) :
    ∃ c source, token.source.toList = c :: source ∧ Lexeme token.kind (c :: source) ∧
      spell (token :: tokens) = c :: (source ++ spell tokens) := by
  obtain ⟨hlexeme, -⟩ := h
  obtain ⟨c, source, hsource⟩ := List.exists_cons_of_ne_nil hlexeme.ne_nil
  rw [spell_cons, hsource]
  rw [hsource] at hlexeme
  exact ⟨c, source, rfl, hlexeme, rfl⟩

theorem WellCut.stops_spell {p : Char → Bool} (h : WellCut tokens)
    (hhead : ∀ token ∈ tokens.head?, ∀ c source, Lexeme token.kind (c :: source) → p c = false) :
    Stops p (spell tokens) := by
  cases tokens with
  | nil => exact stops_nil
  | cons token tokens =>
    obtain ⟨c, source, -, hlexeme, hspell⟩ := h.exists_first
    rw [hspell, stops_cons]
    exact hhead token rfl c source hlexeme

theorem cutAll_cons {cut : Cut} (h : firstCut (c :: cs) = some cut) : cutAll (c :: cs) =
    (cutAll cut.rest).map (⟨cut.kind, String.ofList cut.source⟩ :: ·) := by
  rw [cutAll]
  split
  · rename_i hnone
    rw [h] at hnone
    simp at hnone
  · rename_i other hsome
    rw [h] at hsome
    obtain rfl := Option.some.inj hsome
    rfl

theorem cutAll_cons_none (h : firstCut (c :: cs) = none) : cutAll (c :: cs) = .error (c :: cs) := by
  rw [cutAll]
  split
  · rfl
  · rename_i hsome
    rw [h] at hsome
    simp at hsome

theorem stops_isOrphan_of_cutAll (h : cutAll cs = .ok tokens) : Stops isOrphan cs := by
  cases cs with
  | nil => exact stops_nil
  | cons c cs =>
    rw [stops_cons]
    cases horphan : isOrphan c with
    | false => rfl
    | true =>
      rw [cutAll_cons_none (firstCut_orphan horphan)] at h
      simp at h

theorem wellCut_of_cutAll (h : cutAll cs = .ok tokens) : WellCut tokens ∧ spell tokens = cs := by
  induction cs using cutAll.induct generalizing tokens with
  | case1 =>
    rw [cutAll] at h
    obtain rfl := Except.ok.inj h
    exact ⟨trivial, rfl⟩
  | case2 c tail hcut =>
    rw [cutAll_cons_none hcut] at h
    simp at h
  | case3 c tail cut hcut _ ih =>
    have hsplits := splits_of_firstCut hcut
    have hproper := proper_of_firstCut hcut
    rw [cutAll_cons hcut] at h
    cases hrest : cutAll cut.rest with
    | error e =>
      rw [hrest] at h
      simp [Except.map] at h
    | ok others =>
      rw [hrest] at h
      obtain rfl := Except.ok.inj h
      obtain ⟨hcutall, hspell⟩ := ih hrest
      refine ⟨⟨?_, ?_, hcutall⟩, ?_⟩
      · simpa using hproper.lexeme
      · rw [hspell]
        exact hproper.boundary fun _ => stops_isOrphan_of_cutAll hrest
      · rw [spell_cons, hspell, String.toList_ofList, hsplits.append]

theorem cutAll_spell (h : WellCut tokens) : cutAll (spell tokens) = .ok tokens := by
  induction tokens with
  | nil =>
    rw [spell, List.flatMap_nil, cutAll]
  | cons token tokens ih =>
    obtain ⟨hlexeme, hboundary, hrest⟩ := h
    have hcut := firstCut_of_lexeme hlexeme hboundary
    obtain ⟨c, tail, hsource⟩ := List.exists_cons_of_ne_nil hlexeme.ne_nil
    rw [spell_cons]
    rw [hsource, List.cons_append] at hcut ⊢
    rw [cutAll_cons hcut, ih hrest, ← hsource, String.ofList_toList]
    rfl

/-! ## What may stand behind a token instead -/

theorem quoteBefore_cons {d : Char} :
    QuoteBefore d (c :: cs) ↔ if c = '"' then cs.head? = some d else QuoteBefore d cs := by
  constructor
  · rintro ⟨value, rest, heq, hvalue⟩
    cases value with
    | nil =>
      obtain ⟨rfl, rfl⟩ := List.cons.inj heq
      rfl
    | cons a value =>
      obtain ⟨rfl, rfl⟩ := List.cons.inj heq
      rw [if_neg (by rintro rfl; exact hvalue (by simp))]
      exact ⟨value, rest, rfl, fun hmem => hvalue (by simp [hmem])⟩
  · intro h
    split at h
    · rename_i hc
      obtain ⟨more, rfl⟩ := List.head?_eq_some_iff.mp h
      exact ⟨[], more, by rw [hc]; rfl, by simp⟩
    · rename_i hc
      obtain ⟨value, rest, rfl, hvalue⟩ := h
      refine ⟨c :: value, rest, rfl, ?_⟩
      rw [List.mem_cons, not_or]
      exact ⟨Ne.symm hc, hvalue⟩

/-- A text that may replace another behind a token: it is empty or begins in the same way, and its
first quote ends a call only if that of the other does. -/
structure Replaces (rest' rest : List Char) : Prop where
  head : ∀ c ∈ rest'.head?, rest.head? = some c
  quote : QuoteBefore ')' rest' → QuoteBefore ')' rest

theorem replaces_nil : Replaces [] rest := by
  refine ⟨by simp, ?_⟩
  rintro ⟨value, more, heq, -⟩
  simp at heq

theorem Replaces.append (h : Replaces rest' rest) (l : List Char) :
    Replaces (l ++ rest') (l ++ rest) := by
  induction l with
  | nil => exact h
  | cons c l ih =>
    refine ⟨by simp, ?_⟩
    rw [List.cons_append, List.cons_append, quoteBefore_cons, quoteBefore_cons]
    split
    · exact ih.head _
    · exact ih.quote

theorem replaces_self_append (rest more : List Char) : Replaces rest (rest ++ more) := by
  have h : Replaces (rest ++ []) (rest ++ more) := replaces_nil.append rest
  rwa [List.append_nil] at h

theorem Replaces.stops {p : Char → Bool} (h : Replaces rest' rest) (hr : Stops p rest) :
    Stops p rest' :=
  fun c hc => hr c (h.head c hc)

theorem Replaces.boundary {kind : Kind} (h : Replaces rest' rest) (hb : Boundary kind rest) :
    Boundary kind rest' := by
  cases kind with
  | tag | id | className | pseudoElement => exact h.stops hb
  | child | nextAdjacent | nextSibling => exact h.stops hb
  | descendant => exact ⟨h.stops hb.1, h.stops hb.2⟩
  | pseudoClass => exact ⟨h.stops hb.1, h.stops hb.2⟩
  | call function argument =>
    intro inner hinner hquote
    have happend := (h.append (inner ++ [')'])).quote
    simp only [List.append_assoc, List.singleton_append] at happend
    exact hb inner hinner (happend hquote)
  | _ => trivial

/-- The end of a list may be exchanged for one that may stand behind the same tokens. -/
theorem WellCut.exchange (h : WellCut (first ++ tokens)) (hbehind : WellCut behind)
    (hreplaces : Replaces (spell behind) (spell tokens)) : WellCut (first ++ behind) := by
  induction first with
  | nil => exact hbehind
  | cons token first ih =>
    obtain ⟨hlexeme, hboundary, hrest⟩ := h
    refine ⟨hlexeme, ?_, ih hrest⟩
    rw [List.append_eq, spell_append] at hboundary ⊢
    exact (hreplaces.append _).boundary hboundary

/-- A token list that is cut off at the end is still well cut. -/
theorem WellCut.of_append (h : WellCut (first ++ tokens)) : WellCut first := by
  have hnil : WellCut (first ++ []) := h.exchange trivial replaces_nil
  rwa [List.append_nil] at hnil

/-- So is what is left when tokens are taken off the front. -/
theorem WellCut.right (h : WellCut (first ++ tokens)) : WellCut tokens := by
  induction first with
  | nil => exact h
  | cons token first ih =>
    rw [List.cons_append] at h
    exact ih h.2.2

theorem WellCut.lexeme (h : WellCut tokens) (htoken : token ∈ tokens) :
    Lexeme token.kind token.source.toList := by
  induction tokens with
  | nil => simp at htoken
  | cons other tokens ih =>
    rcases List.mem_cons.mp htoken with rfl | htoken
    · exact h.1
    · exact ih h.2.2 htoken

/-! ## Blanks that separate nothing -/

/-- The tokens without the blanks at the start and behind separators. -/
def keep (atStart : Bool) : List Token → List Token
  | [] => []
  | token :: tokens =>
    if token.kind == .descendant && atStart then keep atStart tokens
    else token :: keep (token.kind == .separator) tokens

theorem tokens_add (t : Tokenized) : (t.add token).tokens =
    if token.kind == .descendant && t.atStart then t.tokens else t.tokens ++ [token] := by
  rw [Tokenized.add]
  split <;> rfl

theorem atStart_add (t : Tokenized) : (t.add token).atStart =
    if token.kind == .descendant && t.atStart then t.atStart else token.kind == .separator := by
  by_cases hdrop : (token.kind == .descendant && t.atStart) = true
  · rw [Tokenized.add, if_pos hdrop, if_pos hdrop]
    rfl
  · rw [Tokenized.add, if_neg hdrop, if_neg hdrop, Tokenized.atStart]
    simp

theorem ofTokens_tokens : (Tokenized.ofTokens tokens).tokens = keep true tokens := by
  have hfold : ∀ t : Tokenized, (tokens.foldl Tokenized.add t).tokens =
      t.tokens ++ keep t.atStart tokens := by
    induction tokens with
    | nil => intro t; simp [keep]
    | cons token tokens ih =>
      intro t
      rw [List.foldl_cons, ih, tokens_add, atStart_add, keep]
      split
      · rfl
      · simp
  exact hfold ⟨[], []⟩

theorem keep_cons_of_ne {atStart : Bool} (h : (token.kind == .descendant && atStart) = false) :
    keep atStart (token :: tokens) = token :: keep (token.kind == .separator) tokens := by
  rw [keep, h]
  rfl

theorem keep_false_cons :
    keep false (token :: tokens) = token :: keep (token.kind == .separator) tokens :=
  keep_cons_of_ne (Bool.and_false _)

/-- Tokens behind one that no blanks are set aside for are kept as they would be behind it alone. -/
theorem keep_append_cons (h : token.kind ≠ .descendant) (atStart : Bool) (first rest : List Token) :
    keep atStart (first ++ token :: rest) =
      keep atStart first ++ token :: keep (token.kind == .separator) rest := by
  induction first generalizing atStart with
  | nil => exact keep_cons_of_ne (by simp [h])
  | cons other first ih =>
    rw [List.cons_append, keep, keep]
    split
    · exact ih atStart
    · rw [ih, List.cons_append]

/-- Kept tokens are kept again, wherever the list is cut off. -/
theorem keep_of_keep_eq {atStart : Bool} {more : List Token}
    (h : keep atStart tokens = first ++ more) :
    keep atStart first = first := by
  induction tokens generalizing atStart first with
  | nil =>
    obtain ⟨rfl, -⟩ := List.append_eq_nil_iff.mp h.symm
    rfl
  | cons token tokens ih =>
    cases hdrop : token.kind == .descendant && atStart with
    | true =>
      rw [keep, hdrop] at h
      exact ih h
    | false =>
      rw [keep_cons_of_ne hdrop] at h
      cases first with
      | nil => rfl
      | cons other first =>
        obtain ⟨rfl, htail⟩ := List.cons.inj h
        rw [keep_cons_of_ne hdrop, ih htail]

theorem Lexeme.separator_eq {source : List Char} (h : Lexeme .separator source) :
    source = [','] := by
  cases h
  rfl

theorem Lexeme.isBlanks {source : List Char} (h : Lexeme .descendant source) : IsBlanks source := by
  cases h with
  | descendant hu hne => exact hu

theorem quoteBefore_append {d : Char} {l : List Char} (hl : '"' ∉ l) :
    QuoteBefore d (l ++ cs) ↔ QuoteBefore d cs := by
  induction l with
  | nil => rfl
  | cons a l ih =>
    rw [List.mem_cons, not_or] at hl
    rw [List.cons_append, quoteBefore_cons, if_neg (Ne.symm hl.1), ih hl.2]

/-- Without its idle blanks a text may stand behind the same tokens; at a start only its first quote
is as before. -/
theorem replaces_keep (h : WellCut tokens) : Replaces (spell (keep false tokens)) (spell tokens) ∧
    (QuoteBefore ')' (spell (keep true tokens)) → QuoteBefore ')' (spell tokens)) := by
  induction tokens with
  | nil => exact ⟨replaces_nil, id⟩
  | cons token tokens ih =>
    obtain ⟨hlexeme, -, hrest⟩ := h
    obtain ⟨hreplaces, hquote⟩ := ih hrest
    have hkept : Replaces (spell (token :: keep (token.kind == .separator) tokens))
        (spell (token :: tokens)) := by
      rw [spell_cons, spell_cons]
      cases hsep : token.kind == .separator with
      | false => exact hreplaces.append _
      | true =>
        -- the blanks go only behind the comma, where no boundary looks at them
        rw [eq_of_beq hsep] at hlexeme
        rw [hlexeme.separator_eq]
        refine ⟨by simp, fun h => ?_⟩
        rw [quoteBefore_append (by decide)] at h ⊢
        exact hquote h
    refine ⟨by rw [keep_false_cons]; exact hkept, ?_⟩
    cases hdrop : token.kind == .descendant with
    | false =>
      rw [keep_cons_of_ne (by rw [hdrop]; rfl)]
      exact hkept.quote
    | true =>
      rw [eq_of_beq hdrop] at hlexeme
      have hnot : '"' ∉ token.source.toList := fun hmem =>
        absurd (hlexeme.isBlanks _ hmem) (by decide)
      rw [keep, hdrop, spell_cons, quoteBefore_append hnot]
      exact hquote

theorem WellCut.keep {atStart : Bool} (h : WellCut tokens) : WellCut (keep atStart tokens) := by
  induction tokens generalizing atStart with
  | nil => trivial
  | cons token tokens ih =>
    obtain ⟨hlexeme, hboundary, hrest⟩ := h
    cases hdrop : token.kind == .descendant && atStart with
    | true =>
      rw [Selector.keep, hdrop]
      exact ih hrest
    | false =>
      rw [keep_cons_of_ne hdrop]
      refine ⟨hlexeme, ?_, ih hrest⟩
      cases hsep : token.kind == .separator with
      | false => exact (replaces_keep hrest).1.boundary hboundary
      | true =>
        rw [eq_of_beq hsep]
        trivial

/-! ## Reading a cumulative text -/

theorem tokenize_of_cutAll (h : cutAll text.toList = .ok tokens) :
    tokenize text = .ok (keep true tokens) := by
  rw [tokenize, tokenizeWithElided, h, ← ofTokens_tokens]
  rfl

theorem exists_cutAll_of_tokenize (h : tokenize text = .ok tokens) :
    ∃ all, cutAll text.toList = .ok all ∧ keep true all = tokens := by
  rw [tokenize, tokenizeWithElided] at h
  cases hcut : cutAll text.toList with
  | error e =>
    rw [hcut] at h
    simp [Except.map] at h
  | ok all =>
    rw [hcut] at h
    obtain rfl := Except.ok.inj h
    exact ⟨all, rfl, ofTokens_tokens.symm⟩

theorem wellCut_of_tokenize (h : tokenize text = .ok tokens) : WellCut tokens := by
  obtain ⟨all, hcut, rfl⟩ := exists_cutAll_of_tokenize h
  exact (wellCut_of_cutAll hcut).1.keep

theorem keep_false_of_forall (h : ∀ token ∈ tokens, token.kind ≠ .separator) :
    keep false tokens = tokens := by
  induction tokens with
  | nil => rfl
  | cons token tokens ih =>
    have hsep : (token.kind == .separator) = false := beq_eq_false_iff_ne.mpr (h token (by simp))
    rw [keep_false_cons, hsep, ih fun a ha => h a (by simp [ha])]

/-- Without separators only blanks in front are set aside. -/
theorem keep_of_forall {atStart : Bool} (hhead : ∀ token ∈ tokens.head?, token.kind ≠ .descendant)
    (h : ∀ token ∈ tokens, token.kind ≠ .separator) : keep atStart tokens = tokens := by
  cases tokens with
  | nil => rfl
  | cons token tokens =>
    have hkind : (token.kind == .descendant) = false := beq_eq_false_iff_ne.mpr (hhead token rfl)
    have hsep : (token.kind == .separator) = false := beq_eq_false_iff_ne.mpr (h token (by simp))
    rw [keep_cons_of_ne (by rw [hkind]; rfl), hsep,
      keep_false_of_forall fun a ha => h a (by simp [ha])]

theorem keep_node {atStart : Bool} (h : ∀ token ∈ tokens, token.isStructural = false) :
    keep atStart tokens = tokens := by
  have hkind : ∀ token ∈ tokens, token.kind ≠ .descendant ∧ token.kind ≠ .separator := by
    intro token htoken
    have hnode := h token htoken
    constructor <;> intro hkind <;> simp [Token.isStructural, hkind, Kind.isStructural] at hnode
  exact keep_of_forall (fun token htoken => (hkind token (List.mem_of_mem_head? htoken)).1)
    fun token htoken => (hkind token htoken).2

/-- A token list that its own text is read as. -/
structure Legible (tokens : List Token) : Prop where
  wellCut : WellCut tokens
  kept : keep true tokens = tokens

theorem legible_of_tokenize (h : tokenize text = .ok tokens) : Legible tokens := by
  obtain ⟨all, hcut, hkeep⟩ := exists_cutAll_of_tokenize h
  constructor
  · exact wellCut_of_tokenize h
  · exact keep_of_keep_eq (by rw [hkeep, List.append_nil])

theorem WellCut.legible (h : WellCut tokens)
    (hnode : ∀ token ∈ tokens, token.isStructural = false) : Legible tokens :=
  ⟨h, keep_node hnode⟩

theorem Legible.tokenize (h : Legible tokens) :
    Selector.tokenize (sources tokens) = .ok tokens := by
  have hcut : cutAll (sources tokens).toList = .ok tokens := by
    rw [sources_toList]
    exact cutAll_spell h.wellCut
  rw [tokenize_of_cutAll hcut, h.kept]

/-- Per-node tokens between others spell a text that is read as these tokens. -/
theorem tokenize_sources_node (h : tokenize text = .ok (first ++ tokens ++ behind))
    (hnode : ∀ token ∈ tokens, token.isStructural = false) :
    tokenize (sources tokens) = .ok tokens :=
  ((wellCut_of_tokenize h).of_append.right.legible hnode).tokenize

/-- A written form that nothing stands behind is read as its one token. -/
theorem tokenize_source_node {kind : Kind} {source : String} (h : Lexeme kind source.toList)
    (hb : Boundary kind []) (hnode : kind.isStructural = false) :
    tokenize source = .ok [⟨kind, source⟩] := by
  have hwell : WellCut [⟨kind, source⟩] := ⟨h, hb, trivial⟩
  have hsource : sources [⟨kind, source⟩] = source := by
    rw [← String.toList_inj, sources_toList, spell, List.flatMap_singleton]
  have hread := (hwell.legible (by simpa [Token.isStructural] using hnode)).tokenize
  rwa [hsource] at hread

theorem Legible.left (h : Legible (first ++ tokens)) : Legible first :=
  ⟨h.wellCut.of_append, keep_of_keep_eq h.kept⟩

/-- The tokens of a text that are left when it is cut off behind one of them spell a text that is
read as these tokens. -/
theorem tokenize_sources (h : tokenize text = .ok (first ++ tokens)) :
    tokenize (sources first) = .ok first :=
  (legible_of_tokenize h).left.tokenize

/-! ## Items -/

theorem tokens_flush (pending : List Token) :
    (flush pending).flatMap Item.tokens = pending := by
  cases pending <;> simp [flush, Item.tokens]

theorem tokens_groupFrom (pending : List Token) :
    (groupFrom pending tokens).flatMap Item.tokens = pending ++ tokens := by
  induction tokens generalizing pending with
  | nil => simp [groupFrom, tokens_flush]
  | cons token tokens ih =>
    rw [groupFrom]
    split
    · simp [List.flatMap_cons, ih, tokens_flush, Item.tokens]
    · simp [ih]

theorem Item.source_eq (item : Item) : item.source = sources item.tokens := by
  cases item with
  | compound g => rfl
  | combinator t => simp [Item.source, Item.tokens, sources]

theorem join_source (items : List Item) :
    String.join (items.map Item.source) = sources (items.flatMap Item.tokens) := by
  rw [← String.toList_inj, join_toList, sources_toList, spell, List.flatMap_map, List.flatMap_assoc]
  congr 1
  funext item
  rw [Item.source_eq, sources_toList, spell]

end

namespace Sequence

variable {s : Sequence} {text : String}

/-- The tokens of a sequence, item by item. -/
def tokens (s : Sequence) : List Token :=
  s.items.flatMap Item.tokens

/-- The tokens of the items up to and including a place. -/
def tokensUpTo (s : Sequence) (index : Nat) : List Token :=
  (s.items.take (index + 1)).flatMap Item.tokens

theorem tokenize_of_parse (h : parse text = .ok s) : tokenize text = .ok s.tokens := by
  rw [parse] at h
  cases htokens : tokenize text with
  | error e =>
    rw [htokens] at h
    simp [Except.map] at h
  | ok all =>
    rw [htokens] at h
    obtain rfl := Except.ok.inj h
    have hgroup : (groupFrom [] all).flatMap Item.tokens = [] ++ all := tokens_groupFrom []
    rw [List.nil_append] at hgroup
    rw [tokens, group, hgroup]

/-- The source of a group is read as the tokens of the group. -/
theorem tokenize_group (h : parse text = .ok s) {g : Group} (hg : .compound g ∈ s.items)
    (hnode : ∀ token ∈ g.tokens, token.isStructural = false) :
    tokenize g.source = .ok g.tokens := by
  obtain ⟨before, behind, hitems⟩ := List.append_of_mem hg
  have htokens := tokenize_of_parse h
  rw [tokens, hitems, List.flatMap_append, List.flatMap_cons, ← List.append_assoc] at htokens
  exact tokenize_sources_node htokens hnode

theorem tokensUpTo_append (index : Nat) :
    s.tokensUpTo index ++ (s.items.drop (index + 1)).flatMap Item.tokens = s.tokens := by
  rw [tokensUpTo, tokens, ← List.flatMap_append, List.take_append_drop]

theorem source_eq : s.source = sources s.tokens :=
  join_source s.items

theorem upTo_eq (index : Nat) : s.upTo index = sources (s.tokensUpTo index) :=
  join_source _

/-- The text of the items up to a place is read as the tokens of these items. -/
theorem tokenize_upTo (h : parse text = .ok s) (index : Nat) :
    tokenize (s.upTo index) = .ok (s.tokensUpTo index) := by
  have htokens := tokenize_of_parse h
  rw [← tokensUpTo_append index] at htokens
  rw [upTo_eq]
  exact tokenize_sources htokens

end Sequence

end Topiary.Selector
