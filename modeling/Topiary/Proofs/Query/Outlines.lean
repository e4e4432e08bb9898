import Topiary.Proofs.Query.Matches
import Topiary.Proofs.Selector.Margins

/-!
Outlines of token lists. What a list compiles to does not depend on the text of its structural
tokens, which is for messages only, nor on mere blanks at its end.
-/

namespace Topiary.Query

open Topiary.Selector

variable {token : Token} {tokens tokens' : List Token} {d : Draft}

/-- The text of a structural token is for error messages only. -/
theorem Draft.add_outline (d : Draft) (token : Token) :
    (d.add token.outline).toOption = (d.add token).toOption := by
  rw [Token.outline]
  split
  · rename_i hstructural
    obtain ⟨kind, source⟩ := token
    have hcombinator : ∀ combinator source source',
        (d.addCombinator combinator source).toOption =
          (d.addCombinator combinator source').toOption := by
      intro combinator source source'
      simp only [addCombinator]
      split
      · rfl
      · split
        · rfl
        · rfl
        · split <;> rfl
    cases kind with
    | child | descendant | nextAdjacent | nextSibling => exact hcombinator _ _ _
    | separator => simp only [add, combinatorOf?, if_true]
    | universal => rfl
    | _ => simp [Token.isStructural, Kind.isStructural] at hstructural
  · rfl

theorem Draft.toOption_addAll_cons (d : Draft) (token : Token) (tokens : List Token) :
    (d.addAll (token :: tokens)).toOption =
      (d.add token).toOption.bind fun d => (d.addAll tokens).toOption := by
  rw [addAll]
  cases d.add token <;> rfl

theorem Draft.addAll_outline (d : Draft) (tokens : List Token) :
    (d.addAll (tokens.map Token.outline)).toOption = (d.addAll tokens).toOption := by
  induction tokens generalizing d with
  | nil => rfl
  | cons token tokens ih =>
    rw [List.map_cons, toOption_addAll_cons, toOption_addAll_cons, add_outline]
    exact congrArg _ (funext ih)

theorem SelectorList.toOption_ofTokens (tokens : List Token) : (ofTokens tokens).toOption =
    (Draft.start.addAll tokens).toOption.bind fun d =>
      (d.finish.map fun d => (⟨d.selectors⟩ : SelectorList)).toOption := by
  rw [ofTokens]
  cases Draft.start.addAll tokens <;> rfl

namespace SelectorList

theorem toOption_congr (h : tokens.map Token.outline = tokens'.map Token.outline) :
    (ofTokens tokens).toOption = (ofTokens tokens').toOption := by
  rw [toOption_ofTokens, toOption_ofTokens, ← Draft.addAll_outline, h, Draft.addAll_outline]

/-- Mere blanks change nothing about how a draft is finished. -/
theorem finish_of_idle (h : token.kind = .descendant) :
    ((d.add token).toOption.bind fun d =>
        (d.finish.map fun d => (⟨d.selectors⟩ : SelectorList)).toOption) =
      (d.finish.map fun d => (⟨d.selectors⟩ : SelectorList)).toOption := by
  obtain ⟨selectors, current, compound, pending⟩ := d
  have hadd : ∀ d : Draft, d.add token = d.addCombinator .descendant token.source := by
    intro d
    rw [Draft.add, h]
    rfl
  rw [hadd]
  by_cases hlead : (compound.isBlank && current.compounds.isEmpty) = true
  · obtain ⟨hblank, hempty⟩ := Bool.and_eq_true_iff.mp hlead
    rcases pending with _ | _ | _ | _ | _ <;>
      simp [Draft.addCombinator, Draft.finish, hblank, List.isEmpty_iff.mp hempty, Except.map,
        Except.toOption]
  · rcases pending with _ | _ | _ | _ | _ <;>
      simp [Draft.addCombinator, Draft.finish, hlead, Except.map, Except.toOption]

theorem toOption_concat_idle (h : token.kind = .descendant) :
    (ofTokens (tokens ++ [token])).toOption = (ofTokens tokens).toOption := by
  rw [toOption_ofTokens, toOption_ofTokens, Draft.addAll_append]
  cases Draft.start.addAll tokens with
  | error cause => rfl
  | ok d =>
    have hlast : (d.addAll [token]).toOption = (d.add token).toOption := by
      rw [Draft.toOption_addAll_cons]
      exact Option.bind_fun_some _
    simp only [hlast]
    exact finish_of_idle h

/-- A text compiles to what its core compiles to. -/
theorem toOption_core (tokens : List Token) :
    (ofTokens (keep true tokens)).toOption = (ofTokens (core tokens)).toOption := by
  obtain ⟨idles, hidles⟩ := exists_replicate_rdropWhile ((keep true tokens).map Token.outline)
  have hends : ∀ idles, (ofTokens (core tokens ++ List.replicate idles idle)).toOption =
      (ofTokens (core tokens)).toOption := by
    intro idles
    induction idles with
    | zero => rw [List.replicate_zero, List.append_nil]
    | succ idles ih =>
      rw [List.replicate_succ', ← List.append_assoc, toOption_concat_idle rfl, ih]
  rw [← hends idles, core, ← hidles, toOption_ofTokens, toOption_ofTokens, Draft.addAll_outline]

end SelectorList

/-- Two texts whose tokens have one outline are the same query, or both are none. -/
theorem query_congr {t : Tree} {text text' : String} (h : tokenize text = .ok tokens)
    (h' : tokenize text' = .ok tokens')
    (houtline : tokens.map Token.outline = tokens'.map Token.outline) :
    (t.query text).toOption = (t.query text').toOption := by
  have hmap : ∀ x : Except Unsupported SelectorList,
      (x.map fun l => l.select t).toOption = x.toOption.map fun l => l.select t := by
    intro x
    cases x <;> rfl
  rw [Tree.query, Tree.query, hmap, hmap, SelectorList.parse, SelectorList.parse, h, h']
  exact congrArg _ (SelectorList.toOption_congr houtline)

end Topiary.Query
