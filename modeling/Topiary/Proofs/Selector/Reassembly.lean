import Topiary.Proofs.Selector.Prefixes

/-!
Putting a text together again. The tokens of a text, those that were set aside included, spell the
text they were read from. A text that has no tokens is cut up to the first place where no form
accepts anything, and what stands in front of that place is read by itself.
-/

namespace Topiary.Selector

variable {token : Token} {tokens : List Token} {kind : Kind} {cut : Cut} {text : String}
  {left more cs remaining : List Char}

/-! ## Kept and elided tokens together -/

/-- The blanks at the start and behind separators, each with its place among the kept tokens. -/
def leaveOut (index : Nat) (atStart : Bool) : List Token → List (Nat × Token)
  | [] => []
  | token :: tokens =>
    if token.kind == .descendant && atStart then (index, token) :: leaveOut index atStart tokens
    else leaveOut (index + 1) (token.kind == .separator) tokens

theorem elided_add (t : Tokenized) : (t.add token).elided =
    if token.kind == .descendant && t.atStart then t.elided ++ [(t.tokens.length, token)]
    else t.elided := by
  rw [Tokenized.add]
  split <;> rfl

theorem ofTokens_elided : (Tokenized.ofTokens tokens).elided = leaveOut 0 true tokens := by
  have hfold : ∀ t : Tokenized, (tokens.foldl Tokenized.add t).elided =
      t.elided ++ leaveOut t.tokens.length t.atStart tokens := by
    induction tokens with
    | nil => intro t; simp [leaveOut]
    | cons token tokens ih =>
      intro t
      rw [List.foldl_cons, ih, elided_add, tokens_add, atStart_add, leaveOut]
      split <;> simp
  exact hfold ⟨[], []⟩

theorem le_of_mem_leaveOut {index : Nat} {atStart : Bool} {entry : Nat × Token}
    (h : entry ∈ leaveOut index atStart tokens) : index ≤ entry.1 := by
  induction tokens generalizing index atStart with
  | nil => simp [leaveOut] at h
  | cons token tokens ih =>
    rw [leaveOut] at h
    split at h
    · rcases List.mem_cons.mp h with rfl | h
      · exact Nat.le_refl index
      · exact ih h
    · exact Nat.le_of_succ_le (ih h)

theorem mem_of_mem_leaveOut {index : Nat} {atStart : Bool} {entry : Nat × Token}
    (h : entry ∈ leaveOut index atStart tokens) : entry.2 ∈ tokens := by
  induction tokens generalizing index atStart with
  | nil => simp [leaveOut] at h
  | cons token tokens ih =>
    rw [leaveOut] at h
    split at h
    · rcases List.mem_cons.mp h with rfl | h
      · exact List.mem_cons_self
      · exact List.mem_cons_of_mem token (ih h)
    · exact List.mem_cons_of_mem token (ih h)

theorem mem_of_mem_keep {atStart : Bool} (h : token ∈ keep atStart tokens) : token ∈ tokens := by
  induction tokens generalizing atStart with
  | nil => exact h
  | cons other tokens ih =>
    rw [keep] at h
    split at h
    · exact List.mem_cons_of_mem other (ih h)
    · rcases List.mem_cons.mp h with rfl | h
      · exact List.mem_cons_self
      · exact List.mem_cons_of_mem other (ih h)

theorem sources_cons : sources (token :: tokens) = token.source ++ sources tokens := by
  rw [sources, List.map_cons, String.join_cons, sources]

namespace Tokenized

/-- An elided token of the place at hand comes first. -/
theorem textFrom_cons_elided (index : Nat) (tokens : List Token) (elided : List (Nat × Token)) :
    textFrom index tokens ((index, token) :: elided) =
      token.source ++ textFrom index tokens elided := by
  cases tokens with
  | nil =>
    rw [textFrom, textFrom, List.map_cons, sources_cons]
  | cons kept tokens =>
    simp only [textFrom, List.takeWhile_cons, List.dropWhile_cons, beq_self_eq_true, if_true,
      List.map_cons, sources_cons, String.append_assoc]

/-- A kept token comes first where no elided token has its place. -/
theorem textFrom_cons_kept {index : Nat} {elided : List (Nat × Token)}
    (h : ∀ entry ∈ elided, index < entry.1) :
    textFrom index (token :: tokens) elided =
      token.source ++ textFrom (index + 1) tokens elided := by
  rw [textFrom]
  cases elided with
  | nil => simp [sources]
  | cons entry elided =>
    have hlater : index < entry.1 := h entry List.mem_cons_self
    have hentry : (entry.1 == index) = false := by
      rw [beq_eq_false_iff_ne]
      omega
    simp [hentry, sources]

/-- What was kept and what was left out spell what all tokens spell. -/
theorem textFrom_keep (index : Nat) (atStart : Bool) (tokens : List Token) :
    textFrom index (keep atStart tokens) (leaveOut index atStart tokens) = sources tokens := by
  induction tokens generalizing index atStart with
  | nil => simp [keep, leaveOut, textFrom]
  | cons token tokens ih =>
    rw [keep, leaveOut]
    split
    · rw [textFrom_cons_elided, ih, sources_cons]
    · rw [textFrom_cons_kept fun entry hentry => le_of_mem_leaveOut hentry, ih, sources_cons]

/-- The tokens of a text, kept or elided, all take something of it and together spell it. -/
structure Covers (t : Tokenized) (text : String) : Prop where
  kept : ∀ token ∈ t.tokens, token.source ≠ ""
  elided : ∀ entry ∈ t.elided, entry.2.source ≠ ""
  sourceText : t.sourceText = text

theorem covers_ofTokens (h : WellCut tokens) : (ofTokens tokens).Covers (sources tokens) := by
  have hsource : ∀ token ∈ tokens, token.source ≠ "" := by
    intro token htoken hempty
    apply (h.lexeme htoken).ne_nil
    rw [hempty]
    rfl
  constructor
  · rw [ofTokens_tokens]
    exact fun token htoken => hsource token (mem_of_mem_keep htoken)
  · rw [ofTokens_elided]
    exact fun entry hentry => hsource entry.2 (mem_of_mem_leaveOut hentry)
  · rw [Tokenized.sourceText, ofTokens_tokens, ofTokens_elided]
    exact textFrom_keep 0 true tokens

end Tokenized

/-! ## Where a text cannot be cut -/

theorem boundary_nil (h : kind.endsInFunction = true) : Boundary kind [] := by
  cases kind with
  | pseudoClass name => exact ⟨stops_nil, stops_nil⟩
  | pseudoElement name => exact stops_nil
  | _ => simp [Kind.endsInFunction] at h

/-- What stands behind a cut may be cut off itself, in front of anything, as long as no orphan comes
first. -/
theorem Cut.Proper.boundary_left (h : cut.Proper) (hrest : left ++ more = cut.rest)
    (hleft : Stops isOrphan left) : Boundary cut.kind left := by
  have hreplaces : Replaces left cut.rest := hrest ▸ replaces_self_append left more
  cases left with
  | nil =>
    by_cases hends : cut.kind.endsInFunction = true
    · exact boundary_nil hends
    · exact hreplaces.boundary (h.boundary fun hcontra => absurd hcontra hends)
  | cons c left =>
    apply hreplaces.boundary
    apply h.boundary
    intro _
    rw [← hrest, List.cons_append, stops_cons]
    exact stops_cons.mp hleft

/-- A text that cannot be cut to its end is cut up to a place where no form accepts anything, and
the tokens before that place are well cut without the rest. -/
theorem wellCut_of_cutAll_error (h : cutAll cs = .error remaining) :
    remaining ≠ [] ∧ firstCut remaining = none ∧
      ∃ tokens, WellCut tokens ∧ spell tokens ++ remaining = cs := by
  induction cs using cutAll.induct with
  | case1 =>
    rw [cutAll] at h
    simp at h
  | case2 c tail hcut =>
    rw [cutAll_cons_none hcut] at h
    obtain rfl := Except.error.inj h
    exact ⟨List.cons_ne_nil c tail, hcut, [], trivial, rfl⟩
  | case3 c tail cut hcut _ ih =>
    have hsplits := splits_of_firstCut hcut
    rw [cutAll_cons hcut] at h
    cases hrest : cutAll cut.rest with
    | ok others =>
      rw [hrest] at h
      simp [Except.map] at h
    | error e =>
      rw [hrest] at h
      obtain rfl := Except.error.inj h
      obtain ⟨hne, hnone, tokens, hwell, hspell⟩ := ih hrest
      have hproper := proper_of_firstCut hcut
      -- the tokens behind the cut can be read, so what they spell begins with no orphan
      have hboundary : Boundary cut.kind (spell tokens) :=
        hproper.boundary_left hspell (stops_isOrphan_of_cutAll (cutAll_spell hwell))
      refine ⟨hne, hnone, ⟨cut.kind, String.ofList cut.source⟩ :: tokens, ?_, ?_⟩
      · exact ⟨by simpa using hproper.lexeme, hboundary, hwell⟩
      · rw [spell_cons, List.append_assoc, hspell, String.toList_ofList, hsplits.append]

theorem tokenizeWithElided_of_wellCut (h : WellCut tokens) (htext : text.toList = spell tokens) :
    ∃ t, tokenizeWithElided text = .ok t ∧ t.Covers text := by
  refine ⟨.ofTokens tokens, ?_, ?_⟩
  · rw [tokenizeWithElided, htext, cutAll_spell h]
  · have hsources : sources tokens = text := by
      rw [← String.toList_inj, sources_toList, htext]
    rw [← hsources]
    exact Tokenized.covers_ofTokens h

/-- Tokenizing loses nothing: the tokens of a text spell it again. It fails where no form of the
catalogue accepts anything, and what stands in front of that place can be tokenized by itself. -/
theorem tokenizeWithElided_reassembles (text : String) :
    (∃ t, tokenizeWithElided text = .ok t ∧ t.Covers text) ∨
    ∃ before remaining, tokenizeWithElided text = .error (.unparseable remaining) ∧
      text = before ++ remaining ∧ remaining ≠ "" ∧
      (∀ form ∈ catalogue, form.accept remaining.toList = none) ∧
      ∃ t, tokenizeWithElided before = .ok t ∧ t.Covers before := by
  cases hcut : cutAll text.toList with
  | ok tokens =>
    obtain ⟨hwell, hspell⟩ := wellCut_of_cutAll hcut
    exact Or.inl (tokenizeWithElided_of_wellCut hwell hspell.symm)
  | error remaining =>
    obtain ⟨hne, hnone, tokens, hwell, hspell⟩ := wellCut_of_cutAll_error hcut
    refine Or.inr ⟨sources tokens, String.ofList remaining, ?_, ?_, ?_, ?_, ?_⟩
    · rw [tokenizeWithElided, hcut]
    · rw [← String.toList_inj, String.toList_append, sources_toList, String.toList_ofList, hspell]
    · intro hempty
      apply hne
      rw [← String.toList_ofList (l := remaining), hempty]
      rfl
    · intro form hform
      rw [String.toList_ofList]
      exact List.findSome?_eq_none_iff.mp hnone form hform
    · exact tokenizeWithElided_of_wellCut hwell sources_toList

end Topiary.Selector
