import Topiary.Proofs.Query.Chains
import Topiary.Proofs.Selector.Segments
import Topiary.Proofs.Selector.Spacing

/-!
Where combinators stand. Blanks are a combinator of their own only between tokens that describe
nodes, or between such a token and a comma or the end. So a list is refused for a doubled combinator
only if two marks stand side by side.
-/

namespace Topiary.Selector

open Topiary.Text

variable {kind : Kind} {token before next : Token} {tokens first rest : List Token} {text : String}
  {source cs : List Char}

/-- Whether a kind restricts a node or asks for any node. -/
def Kind.describesNode (kind : Kind) : Bool :=
  !kind.isStructural || kind == .universal

theorem describesNode_of_takesBlanks_eq_false (hblanks : kind.takesBlanks = false)
    (hsep : kind ≠ .separator) : kind.describesNode = true := by
  cases kind with
  | separator => exact absurd rfl hsep
  | child | descendant | nextAdjacent | nextSibling => cases hblanks
  | _ => rfl

/-! ## In front of blanks -/

theorem ne_descendant_of_mem_head?_keep (h : token ∈ (keep true tokens).head?) :
    token.kind ≠ .descendant := by
  induction tokens with
  | nil => cases h
  | cons other tokens ih =>
    rw [keep, Bool.and_true] at h
    split at h
    · exact ih h
    · rename_i hkind
      obtain rfl := Option.some.inj h
      intro hidle
      exact hkind (beq_iff_eq.mpr hidle)

theorem Legible.ne_descendant (h : Legible (token :: tokens)) : token.kind ≠ .descendant := by
  have hhead : token ∈ (keep true (token :: tokens)).head? := by
    rw [h.kept]
    rfl
  exact ne_descendant_of_mem_head?_keep hhead

/-- Blanks that are a token stand behind a token that describes a node. -/
theorem Legible.exists_before (h : Legible (first ++ token :: rest))
    (hidle : token.kind = .descendant) :
    ∃ before ∈ first.getLast?, before.kind.describesNode = true := by
  cases first using List.reverseRecOn with
  | nil => exact absurd hidle h.ne_descendant
  | append_singleton front before =>
    refine ⟨before, List.getLast?_concat, ?_⟩
    apply describesNode_of_takesBlanks_eq_false
    · exact h.wellCut.endsSolid hidle before List.getLast?_concat
    · intro hsep
      rw [List.append_assoc, List.singleton_append] at h
      exact (h.split (beq_iff_eq.mpr hsep)).2.ne_descendant hidle

/-! ## Behind blanks -/

/-- A text that begins with a token that takes blanks begins with a blank or a mark. -/
theorem Lexeme.not_stops (h : Lexeme kind source) (hkind : kind.takesBlanks = true)
    (hblank : Stops isAsciiBlank (source ++ cs)) : ¬ Stops isMark (source ++ cs) := by
  intro hmark
  rcases h.blanks_or_mark hkind with ⟨-, hu, hne⟩ | ⟨u, m, v, rfl, hm, hu, -, -⟩
  · obtain ⟨b, source, rfl⟩ := List.exists_cons_of_ne_nil hne
    have hb := hu b List.mem_cons_self
    rw [List.cons_append, stops_cons, hb] at hblank
    cases hblank
  · cases u with
    | nil =>
      rw [List.nil_append, List.cons_append, stops_cons, hm] at hmark
      cases hmark
    | cons b u =>
      have hb := hu b List.mem_cons_self
      rw [List.cons_append, List.cons_append, stops_cons, hb] at hblank
      cases hblank

/-- Behind blanks that are a token stands a token that describes a node, a comma, or nothing. -/
theorem WellCut.describes_or_separates (h : WellCut (token :: rest))
    (hidle : token.kind = .descendant) (hnext : next ∈ rest.head?) :
    next.kind.describesNode = true ∨ next.kind = .separator := by
  obtain ⟨-, hboundary, hrest⟩ := h
  obtain ⟨more, rfl⟩ := List.head?_eq_some_iff.mp hnext
  obtain ⟨hlexeme, -, -⟩ := hrest
  rw [hidle, spell_cons] at hboundary
  obtain ⟨hblank, hmark⟩ := hboundary
  by_cases hsep : next.kind = .separator
  · exact Or.inr hsep
  · left
    apply describesNode_of_takesBlanks_eq_false _ hsep
    rw [Bool.eq_false_iff]
    intro hblanks
    exact hlexeme.not_stops hblanks hblank hmark

end Topiary.Selector

namespace Topiary.Query

open Topiary.Selector

variable {τ : Type} {test : Token → Except Unsupported τ} {c c' : Compound τ} {token : Token}
  {tokens : List Token} {d d' : Draft} {combinator : Combinator} {cause : Unsupported}
  {text argument source : String}

/-- Whether a text is refused because of where its combinators stand. -/
def Unsupported.isMisplaced : Unsupported → Bool
  | .leadingCombinator _ | .doubledCombinator _ | .danglingCombinator _ => true
  | _ => false

/-! ## Tokens of a compound -/

theorem isMisplaced_functionTest {function : String}
    (h : functionTest token function = .error cause) : cause.isMisplaced = false := by
  unfold functionTest at h
  dsimp only at h
  split at h
  · cases h
  · split at h
    · split at h <;> cases h
      rfl
    · cases h
      rfl

theorem isMisplaced_testOf (h : testOf token = .error cause) : cause.isMisplaced = false := by
  rw [testOf] at h
  cases hkind : token.kind with
  | id _ | className _ | attrPresence _ | attrValue _ _ _ =>
    rw [hkind] at h
    cases h
  | pseudoClass name =>
    simp only [hkind] at h
    split at h <;> cases h
    rfl
  | equationCall e =>
    simp only [hkind] at h
    split at h
    · split at h <;> cases h
      rfl
    · exact isMisplaced_functionTest h
  | call function argument =>
    rw [hkind] at h
    exact isMisplaced_functionTest h
  | quotedCall function argument =>
    simp only [hkind] at h
    split at h
    · cases h
    · split at h <;> cases h
      rfl
  | _ =>
    rw [hkind] at h
    cases h
    rfl

/-- A compound goes wrong because of its tests or of a second tag. -/
theorem isMisplaced_addToken
    (htest : ∀ cause, test token = .error cause → cause.isMisplaced = false)
    (h : addToken test c token = .error cause) : cause.isMisplaced = false := by
  unfold addToken at h
  split at h
  · split at h <;> cases h
    rfl
  · cases h
  · exact htest cause (map_eq_error.mp h)

theorem isMisplaced_addNegated {c : Compound Test}
    (h : addNegated argument c tokens = .error cause) : cause.isMisplaced = false := by
  induction tokens generalizing c with
  | nil => cases h
  | cons token tokens ih =>
    rw [addNegated] at h
    split at h
    · cases h
      rfl
    · split at h
      · rename_i refusal hadd
        cases h
        exact isMisplaced_addToken (fun _ => isMisplaced_testOf) hadd
      · exact ih h

theorem isMisplaced_negated (h : negated argument = .error cause) : cause.isMisplaced = false := by
  unfold negated at h
  split at h
  · cases h
    rfl
  · split at h
    · rename_i refusal hadd
      cases h
      exact isMisplaced_addNegated hadd
    · split at h <;> cases h
      rfl

theorem isMisplaced_filterOf (h : filterOf token = .error cause) : cause.isMisplaced = false := by
  unfold filterOf at h
  split at h
  · exact isMisplaced_negated (map_eq_error.mp h)
  · exact isMisplaced_testOf (map_eq_error.mp h)

/-! ## Doubled combinators -/

theorem kind_of_combinatorOf?_descendant {kind : Kind}
    (h : combinatorOf? kind = some .descendant) : kind = .descendant := by
  cases kind with
  | descendant => rfl
  | _ => cases h

/-- A combinator other than blanks is written with a mark. -/
theorem mem_marks_of_combinatorOf? {kind : Kind} (hne : combinator ≠ .descendant)
    (h : combinatorOf? kind = some combinator) :
    kind ∈ [Kind.child, .nextAdjacent, .nextSibling] := by
  cases kind with
  | child | nextAdjacent | nextSibling => simp
  | descendant => exact absurd (Option.some.inj h).symm hne
  | _ => cases h

namespace Draft

theorem finish_ne_doubled : d.finish ≠ .error (.doubledCombinator source) := by
  intro h
  unfold finish at h
  split at h
  · cases h
  · cases h
  · cases h
  · split at h <;> cases h

/-- A token is refused for a doubled combinator if it is a mark and another mark waits. -/
theorem add_doubled (h : d.add token = .error (.doubledCombinator source)) :
    (∃ waiting, waiting ≠ .descendant ∧ d.pending = some waiting) ∧
      (∃ combinator, combinator ≠ .descendant ∧ combinatorOf? token.kind = some combinator) ∧
      token.source = source := by
  unfold add at h
  split at h
  · rename_i combinator hcombinator
    unfold addCombinator at h
    split at h
    · cases h
    · split at h
      · cases h
      · cases h
      · rename_i waiting hwaiting hpending
        split at h
        · cases h
        · rename_i hmark
          cases h
          exact ⟨⟨waiting, hwaiting, hpending⟩, ⟨combinator, hmark, hcombinator⟩, rfl⟩
  · split at h
    · exact absurd h finish_ne_doubled
    · cases isMisplaced_addToken (fun _ => isMisplaced_filterOf) (map_eq_error.mp h)

/-- A combinator that waits behind a token other than blanks is the one that the token writes. -/
theorem combinatorOf?_of_pending (h : d.add token = .ok d') (hidle : token.kind ≠ .descendant)
    (hpending : d'.pending = some combinator) : combinatorOf? token.kind = some combinator := by
  unfold add at h
  split at h
  · rename_i written hwritten
    unfold addCombinator at h
    split at h
    · cases h
    · split at h
      · cases h
        exact hwritten.trans hpending
      · cases h
        exact hwritten.trans hpending
      · split at h
        · rename_i hblanks
          rw [hblanks] at hwritten
          exact absurd (kind_of_combinatorOf?_descendant hwritten) hidle
        · cases h
  · split at h
    · rw [finish_ok h] at hpending
      cases hpending
    · obtain ⟨c, -, rfl⟩ := map_eq_ok.mp h
      rw [pending_step] at hpending
      cases hpending

/-- What goes wrong goes wrong at one of the tokens. -/
theorem exists_add_error (h : d.addAll tokens = .error cause) : ∃ first token rest d',
    tokens = first ++ token :: rest ∧ d.addAll first = .ok d' ∧ d'.add token = .error cause := by
  induction tokens generalizing d with
  | nil => cases h
  | cons token tokens ih =>
    rw [addAll] at h
    split at h
    · rename_i refusal hadd
      cases h
      exact ⟨[], token, tokens, d, rfl, rfl, hadd⟩
    · rename_i next hadd
      obtain ⟨first, other, rest, d', rfl, hfirst, herror⟩ := ih h
      refine ⟨token :: first, other, rest, d', rfl, ?_, herror⟩
      rw [addAll, hadd]
      exact hfirst

end Draft

theorem SelectorList.exists_add_doubled (h : ofTokens tokens = .error (.doubledCombinator source)) :
    ∃ first token rest d, tokens = first ++ token :: rest ∧ Draft.start.addAll first = .ok d ∧
      d.add token = .error (.doubledCombinator source) := by
  rw [ofTokens] at h
  cases hall : Draft.start.addAll tokens with
  | error cause =>
    rw [hall] at h
    cases h
    exact Draft.exists_add_error hall
  | ok d =>
    rw [hall] at h
    exact absurd (map_eq_error.mp h) Draft.finish_ne_doubled

/-- In the tokens of a text, blanks that are a combinator stand behind a token that describes a
node, and what stands behind them is such a token or a comma, or nothing. A list that is refused for
a doubled combinator has two marks side by side, and the second is the one that is named. -/
theorem descendant_stands_between (text : String) :
    (∀ first blanks rest, tokenize text = .ok (first ++ blanks :: rest) →
      blanks.kind = .descendant →
      (∃ before ∈ first.getLast?, before.kind.describesNode = true) ∧
        ∀ next ∈ rest.head?, next.kind.describesNode = true ∨ next.kind = .separator) ∧
    ∀ source, SelectorList.parse text = .error (.doubledCombinator source) →
      ∃ first mark mark' rest, tokenize text = .ok (first ++ mark :: mark' :: rest) ∧
        mark.kind ∈ [Kind.child, .nextAdjacent, .nextSibling] ∧
        mark'.kind ∈ [Kind.child, .nextAdjacent, .nextSibling] ∧ mark'.source = source := by
  constructor
  · intro first blanks rest htokens hidle
    have hlegible := legible_of_tokenize htokens
    refine ⟨hlegible.exists_before hidle, fun next hnext => ?_⟩
    exact hlegible.wellCut.right.describes_or_separates hidle hnext
  · intro source h
    rw [SelectorList.parse] at h
    cases htokens : tokenize text with
    | error error =>
      rw [htokens] at h
      cases h
    | ok tokens =>
      rw [htokens] at h
      obtain ⟨first, mark', rest, d, rfl, hfirst, hadd⟩ := SelectorList.exists_add_doubled h
      obtain ⟨⟨waiting, hwaiting, hpending⟩, ⟨written, hwritten, hkind⟩, hsource⟩ :=
        Draft.add_doubled hadd
      have hmark' := mem_marks_of_combinatorOf? hwritten hkind
      cases first using List.reverseRecOn with
      | nil =>
        cases hfirst
        cases hpending
      | append_singleton front mark =>
        obtain ⟨before, -, hlast⟩ := Draft.addAll_append_ok hfirst
        obtain ⟨next, hnext, hnil⟩ := Draft.addAll_cons_ok hlast
        cases hnil
        rw [List.append_assoc, List.singleton_append] at htokens ⊢
        have hidle : mark.kind ≠ .descendant := by
          intro hidle
          have hwell := (wellCut_of_tokenize htokens).right
          have hhead : mark' ∈ (mark' :: rest).head? := rfl
          rcases hwell.describes_or_separates hidle hhead with hnode | hsep
          · simp only [List.mem_cons, List.not_mem_nil, or_false] at hmark'
            rcases hmark' with hmark' | hmark' | hmark' <;> rw [hmark'] at hnode <;> cases hnode
          · rw [hsep] at hkind
            cases hkind
        have hbefore := Draft.combinatorOf?_of_pending hnext hidle hpending
        exact ⟨front, mark, mark', rest, rfl, mem_marks_of_combinatorOf? hwaiting hbefore, hmark',
          hsource⟩

/-- Blanks in front of a comma are a token; two marks side by side are no query. -/
theorem descendant_stands_between_spaced :
    tokenize "a ,\tb" = .ok ([⟨.tag "a", "a"⟩] ++ ⟨.descendant, " "⟩ ::
        [⟨.separator, ","⟩, ⟨.tag "b", "b"⟩]) ∧
      SelectorList.parse "a > + b" = .error (.doubledCombinator "+ ") ∧
      (∃ before ∈ [(⟨.tag "a", "a"⟩ : Token)].getLast?, before.kind.describesNode = true) ∧
      ∃ first mark mark' rest, tokenize "a > + b" = .ok (first ++ mark :: mark' :: rest) ∧
        mark'.source = "+ " := by
  have htokens : tokenize "a ,\tb" = .ok ([⟨.tag "a", "a"⟩] ++ ⟨.descendant, " "⟩ ::
      [⟨.separator, ","⟩, ⟨.tag "b", "b"⟩]) := by cbv
  have hrefused : SelectorList.parse "a > + b" = .error (.doubledCombinator "+ ") := by cbv
  obtain ⟨first, mark, mark', rest, hmarks, -, -, hsource⟩ :=
    (descendant_stands_between "a > + b").2 "+ " hrefused
  exact ⟨htokens, hrefused, ((descendant_stands_between "a ,\tb").1 _ _ _ htokens rfl).1,
    first, mark, mark', rest, hmarks, hsource⟩

end Topiary.Query
