import Mathlib
import Topiary.Proofs.Selector.Equations
import Topiary.Proofs.Selector.Reassembly

/-!
What tokens of equations capture. An equation with legal parts is read back from its written form as
one token, and every token of an equation has been read from the written form of what it captured.
-/

namespace Topiary.Selector

theorem Equation.Legal.tokenize_text {e : Equation} (h : e.Legal)
    (hfunction : IsFunction e.function.toList) :
    tokenize e.text = .ok [⟨.equationCall e, e.text⟩] :=
  tokenize_source_node (lexeme_equationCall_iff.mpr ⟨hfunction, h, rfl⟩) trivial rfl

/-- Legal equations are told apart by their written forms. -/
theorem Equation.Legal.text_inj {e e' : Equation} (h : e.Legal)
    (hfunction : IsFunction e.function.toList) (h' : e'.Legal)
    (hfunction' : IsFunction e'.function.toList) (htext : e.text = e'.text) : e = e' := by
  have hread := h.tokenize_text hfunction
  rw [htext, h'.tokenize_text hfunction'] at hread
  simpa using hread.symm

/-- The written form of a legal equation is one token, which captures this equation; and an equation
that is captured is legal, and its token stands for its written form. -/
theorem tokenize_equationCall :
    (∀ e : Equation, IsFunction e.function.toList → e.Legal →
      tokenize e.text = .ok [⟨.equationCall e, e.text⟩]) ∧
    ∀ text tokens, tokenize text = .ok tokens → ∀ token ∈ tokens, ∀ e,
      token.kind = .equationCall e →
        token.source = e.text ∧ IsFunction e.function.toList ∧ e.Legal := by
  constructor
  · intro e hfunction hlegal
    exact hlegal.tokenize_text hfunction
  · intro text tokens h token hmem e hkind
    have hlexeme := (wellCut_of_tokenize h).lexeme hmem
    rw [hkind, lexeme_equationCall_iff] at hlexeme
    obtain ⟨hfunction, hlegal, hsource⟩ := hlexeme
    exact ⟨String.toList_inj.mp hsource, hfunction, hlegal⟩

/-- A minus in front of the letter, and an offset without digits. -/
def bareOffset : Equation :=
  ⟨"nth-last-child", some .minus, "", some "n", some .plus, ""⟩

theorem tokenize_equationCall_bareOffset :
    IsFunction bareOffset.function.toList ∧ bareOffset.Legal ∧
      bareOffset.text = ":nth-last-child(-n+)" ∧
      tokenize bareOffset.text = .ok [⟨.equationCall bareOffset, bareOffset.text⟩] ∧
      ∃ tokens, tokenize "li:nth-last-child(-n+), p" = .ok tokens ∧
        ⟨.equationCall bareOffset, ":nth-last-child(-n+)"⟩ ∈ tokens ∧
        ":nth-last-child(-n+)" = bareOffset.text := by
  have hfunction : IsFunction bareOffset.function.toList := isFunction_of_self (by decide)
  have hlegal : bareOffset.Legal := legal_equationOf "nth-last-child".toList "-n+".toList
  have hlist : tokenize "li:nth-last-child(-n+), p" = .ok [⟨.tag "li", "li"⟩,
      ⟨.equationCall bareOffset, ":nth-last-child(-n+)"⟩, ⟨.separator, ","⟩, ⟨.tag "p", "p"⟩] := by
    cbv
  have hmem : ⟨.equationCall bareOffset, ":nth-last-child(-n+)"⟩ ∈ [⟨.tag "li", "li"⟩,
      ⟨.equationCall bareOffset, ":nth-last-child(-n+)"⟩, ⟨.separator, ","⟩,
      (⟨.tag "p", "p"⟩ : Token)] := by simp
  exact ⟨hfunction, hlegal, by cbv, tokenize_equationCall.1 _ hfunction hlegal, _, hlist, hmem,
    (tokenize_equationCall.2 _ _ hlist _ hmem bareOffset rfl).1⟩

end Topiary.Selector
