import Mathlib.Data.List.TakeWhile
import Topiary.Proofs.Selector.Prefixes

/-!
Segments. The separators of a token list cut it into segments. A segment of a text spells a text of
its own, and although everything around it is gone, that text is read as the tokens of the segment.
-/

namespace Topiary.Selector

variable {token : Token} {tokens first rest segment : List Token} {text : String}

def Token.isSeparator (t : Token) : Bool :=
  t.kind == .separator

/-- The token lists between the separators. -/
def segments (tokens : List Token) : List (List Token) :=
  tokens.splitOnP Token.isSeparator

theorem segments_of_forall (h : ∀ t ∈ first, t.isSeparator = false) : segments first = [first] :=
  List.splitOnP_eq_singleton h

theorem segments_append_cons (h : ∀ t ∈ first, t.isSeparator = false)
    (hsep : token.isSeparator = true) :
    segments (first ++ token :: rest) = first :: segments rest :=
  List.splitOnP_append_cons_of_forall_mem h token hsep rest

/-- Induction from separator to separator. -/
@[elab_as_elim]
theorem segments_induction {motive : List Token → Prop} (tokens : List Token)
    (single : ∀ first, (∀ t ∈ first, t.isSeparator = false) → motive first)
    (separated : ∀ first token rest, (∀ t ∈ first, t.isSeparator = false) →
      token.isSeparator = true → motive rest → motive (first ++ token :: rest)) :
    motive tokens := by
  induction hn : tokens.length using Nat.strongRecOn generalizing tokens with
  | ind n ih =>
    have hfirst : ∀ t ∈ tokens.takeWhile (!·.isSeparator), t.isSeparator = false := by
      intro t ht
      simpa using List.mem_takeWhile_imp ht
    have hsplit := List.takeWhile_append_dropWhile (p := (!·.isSeparator)) (l := tokens)
    cases hrest : tokens.dropWhile (!·.isSeparator) with
    | nil =>
      rw [hrest, List.append_nil] at hsplit
      rw [← hsplit]
      exact single _ hfirst
    | cons token rest =>
      have hhead := List.head?_dropWhile_not (p := (!·.isSeparator)) (l := tokens)
      rw [hrest] at hsplit hhead
      rw [← hsplit]
      apply separated _ _ _ hfirst
      · simpa using hhead
      · apply ih rest.length _ rest rfl
        rw [← hn, ← hsplit, List.length_append, List.length_cons]
        omega

/-! ## Reading a segment by itself -/

namespace Legible

/-- What stands before a separator and what stands behind it are read by themselves. -/
theorem split (h : Legible (first ++ token :: rest)) (hsep : token.isSeparator = true) :
    Legible first ∧ Legible rest := by
  have hkind : token.kind = .separator := eq_of_beq hsep
  have hkept := keep_append_cons (by rw [hkind]; simp) true first rest
  rw [h.kept, h.left.kept, hkind] at hkept
  have hrest : keep true rest = rest := by simpa using hkept.symm
  exact ⟨h.left, ⟨h.wellCut.right.2.2, hrest⟩⟩

theorem of_mem_segments (h : Legible tokens) (hsegment : segment ∈ segments tokens) :
    Legible segment := by
  induction tokens using segments_induction with
  | single first hfirst =>
    rw [segments_of_forall hfirst, List.mem_singleton] at hsegment
    rw [hsegment]
    exact h
  | separated first token rest hfirst hsep ih =>
    rw [segments_append_cons hfirst hsep] at hsegment
    rcases List.mem_cons.mp hsegment with rfl | hsegment
    · exact (h.split hsep).1
    · exact ih (h.split hsep).2 hsegment

end Legible

/-- The text of a segment is read as the tokens of the segment. -/
theorem tokenize_segment (h : tokenize text = .ok tokens) (hsegment : segment ∈ segments tokens) :
    tokenize (sources segment) = .ok segment :=
  ((legible_of_tokenize h).of_mem_segments hsegment).tokenize

end Topiary.Selector
