import Topiary.Selector.Catalogue

/-!
Every form of the catalogue cuts a text in two without loss: what it took and what it left make up
the text, and it took something.
-/

namespace Topiary.Selector

open Topiary.Text

/-- The cut divides the text, and its first part is not empty. -/
structure Cut.Splits (cut : Cut) (cs : List Char) : Prop where
  append : cut.source ++ cut.rest = cs
  source_ne_nil : cut.source ≠ []

theorem Cut.Splits.length_lt {cut : Cut} {cs : List Char} (h : cut.Splits cs) :
    cut.rest.length < cs.length := by
  have := List.length_pos_iff.mpr h.source_ne_nil
  rw [← h.append, List.length_append]
  omega

theorem append_of_splitName {cs name rest : List Char} (h : splitName cs = some (name, rest)) :
    name ++ rest = cs ∧ name ≠ [] := by
  cases cs with
  | nil => simp [splitName] at h
  | cons c tail =>
    simp only [splitName] at h
    split at h
    · simp only [Option.some.injEq, Prod.mk.injEq] at h
      simp [← h.1, ← h.2, List.takeWhile_append_dropWhile]
    · simp at h

theorem append_of_splitFunction {cs name rest : List Char}
    (h : splitFunction cs = some (name, rest)) : name ++ rest = cs ∧ name ≠ [] := by
  cases cs with
  | nil => simp [splitFunction] at h
  | cons c tail =>
    simp only [splitFunction] at h
    split at h
    · simp only [Option.some.injEq, Prod.mk.injEq] at h
      have hword := List.takeWhile_append_dropWhile (p := (· == '-'))
        (l := (tail.takeWhile isFunctionChar).reverse)
      have hdash : ((tail.takeWhile isFunctionChar).reverse.takeWhile (· == '-')).reverse =
          (tail.takeWhile isFunctionChar).reverse.takeWhile (· == '-') := by
        have hall :
            ∀ x ∈ (tail.takeWhile isFunctionChar).reverse.takeWhile (· == '-'), x = '-' := by
          intro x hx
          simpa using List.all_eq_true.mp List.all_takeWhile x hx
        rw [List.eq_replicate_of_mem hall, List.reverse_replicate]
      have hrev := congrArg List.reverse hword
      rw [List.reverse_append, List.reverse_reverse, hdash] at hrev
      refine ⟨?_, by simp [← h.1]⟩
      rw [← h.1, ← h.2, List.cons_append, ← List.append_assoc, hrev,
        List.takeWhile_append_dropWhile]
    · simp at h

theorem append_of_splitCall {cs name rest : List Char} (h : splitCall cs = some (name, rest)) :
    ':' :: name ++ '(' :: rest = cs := by
  unfold splitCall at h
  split at h
  · rename_i tail
    split at h
    · rename_i name' rest' hf
      simp only [Option.some.injEq, Prod.mk.injEq] at h
      have := (append_of_splitFunction hf).1
      simp [← h.1, ← h.2, ← this]
    · simp at h
  · simp at h

theorem append_of_dropText {text cs rest : List Char} (h : dropText text cs = some rest) :
    text ++ rest = cs := by
  induction text generalizing cs with
  | nil => simpa [dropText, eq_comm] using h
  | cons t text ih =>
    cases cs with
    | nil => simp [dropText] at h
    | cons c cs =>
      simp only [dropText] at h
      split at h
      · rename_i hc
        simp [ih h, hc]
      · simp at h

theorem append_of_splitQuoted {cs value rest : List Char}
    (h : splitQuoted cs = some (value, rest)) : '"' :: value ++ '"' :: rest = cs := by
  unfold splitQuoted at h
  split at h
  · rename_i tail
    split at h
    · rename_i c rest' hd
      simp only [Option.some.injEq, Prod.mk.injEq] at h
      have hc : c = '"' := by
        have := List.head?_dropWhile_not (· != '"') tail
        rw [hd] at this
        simpa using this
      have := List.takeWhile_append_dropWhile (p := (· != '"')) (l := tail)
      rw [hd, hc] at this
      simp [← h.1, ← h.2, this]
    · simp at h
  · simp at h

theorem append_of_splitSign (cs : List Char) :
    signText (splitSign cs).1 ++ (splitSign cs).2 = cs := by
  cases cs with
  | nil => rfl
  | cons c rest =>
    simp only [splitSign]
    split
    · rename_i sign hs
      have : sign.char = c := by
        unfold Sign.ofChar? at hs
        split at hs <;> simp at hs <;> simp [← hs, Sign.char]
      simp [signText, this]
    · simp [signText]

theorem splits_acceptTag {cs : List Char} {cut : Cut} (h : acceptTag cs = some cut) :
    cut.Splits cs := by
  simp only [acceptTag, Option.map_eq_some_iff] at h
  obtain ⟨⟨name, rest⟩, hn, rfl⟩ := h
  exact ⟨(append_of_splitName hn).1, (append_of_splitName hn).2⟩

theorem splits_acceptMarked {mark : Char} {kind : String → Kind} {cs : List Char} {cut : Cut}
    (h : acceptMarked mark kind cs = some cut) : cut.Splits cs := by
  cases cs with
  | nil => simp [acceptMarked] at h
  | cons c tail =>
    simp only [acceptMarked] at h
    split at h
    · simp only [Option.map_eq_some_iff] at h
      obtain ⟨⟨name, rest⟩, hn, rfl⟩ := h
      exact ⟨by simp [(append_of_splitName hn).1], by simp⟩
    · simp at h

theorem splits_acceptChar {mark : Char} {kind : Kind} {cs : List Char} {cut : Cut}
    (h : acceptChar mark kind cs = some cut) : cut.Splits cs := by
  cases cs with
  | nil => simp [acceptChar] at h
  | cons c tail =>
    simp only [acceptChar] at h
    split at h
    · simp only [Option.some.injEq] at h
      exact ⟨by simp [← h], by simp [← h]⟩
    · simp at h

theorem splits_acceptBetweenBlanks {mark : Char} {kind : Kind} {cs : List Char} {cut : Cut}
    (h : acceptBetweenBlanks mark kind cs = some cut) : cut.Splits cs := by
  unfold acceptBetweenBlanks at h
  split at h
  · simp at h
  · rename_i c rest hd
    split at h
    · simp only [Option.some.injEq] at h
      have := List.takeWhile_append_dropWhile (p := isAsciiBlank) (l := cs)
      rw [hd] at this
      refine ⟨?_, by simp [← h]⟩
      simp [← h, List.takeWhile_append_dropWhile, this]
    · simp at h

theorem splits_acceptBlanks {kind : Kind} {cs : List Char} {cut : Cut}
    (h : acceptBlanks kind cs = some cut) : cut.Splits cs := by
  unfold acceptBlanks at h
  split at h
  · simp at h
  · rename_i hne
    simp only [Option.some.injEq] at h
    refine ⟨by simp [← h, List.takeWhile_append_dropWhile], ?_⟩
    rw [← h]
    exact hne

theorem splits_acceptPresence {cs : List Char} {cut : Cut} (h : acceptPresence cs = some cut) :
    cut.Splits cs := by
  unfold acceptPresence at h
  split at h
  · split at h
    · rename_i hn
      simp only [Option.some.injEq] at h
      have := (append_of_splitName hn).1
      exact ⟨by simp [← h, ← this], by simp [← h]⟩
    · simp at h
  · simp at h

theorem splits_acceptValue {relation : Relation} {cs : List Char} {cut : Cut}
    (h : acceptValue relation cs = some cut) : cut.Splits cs := by
  unfold acceptValue at h
  split at h
  · split at h
    · rename_i hn
      split at h
      · rename_i hq
        obtain ⟨after, hp, hq⟩ := Option.bind_eq_some_iff.mp hq
        simp only [Option.some.injEq] at h
        have h1 := (append_of_splitName hn).1
        have h2 := append_of_dropText hp
        have h3 := append_of_splitQuoted hq
        exact ⟨by simp [← h, ← h1, ← h2, ← h3], by simp [← h]⟩
      · simp at h
    · simp at h
  · simp at h

theorem splits_acceptQuotedCall {cs : List Char} {cut : Cut}
    (h : acceptQuotedCall cs = some cut) : cut.Splits cs := by
  unfold acceptQuotedCall at h
  split at h
  · rename_i hc
    split at h
    · rename_i hq
      simp only [Option.some.injEq] at h
      have h1 := append_of_splitCall hc
      have h2 := append_of_splitQuoted hq
      exact ⟨by simp [← h, ← h1, ← h2], by simp [← h]⟩
    · simp at h
  · simp at h

theorem splits_acceptEquation {cs : List Char} {cut : Cut}
    (h : acceptEquation cs = some cut) : cut.Splits cs := by
  unfold acceptEquation at h
  split at h
  · simp at h
  · rename_i function body hc
    have h1 := append_of_splitCall hc
    simp only at h
    split at h
    · rename_i rest hr
      simp only [Option.some.injEq] at h
      refine ⟨?_, by simp [← h]⟩
      have hs := append_of_splitSign body
      generalize splitSign body = first at hs hr h
      obtain ⟨scalarSign, r1⟩ := first
      simp only at hs hr h
      have hd := List.takeWhile_append_dropWhile (p := isDigit) (l := r1)
      generalize List.takeWhile isDigit r1 = scalar at hd hr h
      generalize List.dropWhile isDigit r1 = r2 at hd hr h
      have hl := List.takeWhile_append_dropWhile (p := isSmallLetter) (l := r2)
      generalize List.takeWhile isSmallLetter r2 = letters at hl hr h
      generalize List.dropWhile isSmallLetter r2 = r3 at hl hr h
      have ho := append_of_splitSign r3
      generalize splitSign r3 = second at ho hr h
      obtain ⟨offsetSign, r4⟩ := second
      simp only at ho hr h
      have hsym : ((if letters.isEmpty = true then none else some (String.ofList letters)).getD
          "").toList = letters := by
        cases letters <;> simp
      rw [← h, ← h1, ← hs, ← hd, ← hl, ← ho]
      cases offsetSign with
      | none =>
        simp only [Option.isSome_none, Bool.false_eq_true, ↓reduceIte] at hr
        simp only [Equation.argument, hsym]
        simp [hr]
      | some sign =>
        simp only [Option.isSome_some, ↓reduceIte] at hr
        have hd2 := List.takeWhile_append_dropWhile (p := isDigit) (l := r4)
        rw [hr] at hd2
        simp only [Equation.argument, hsym]
        simp only [Option.isSome_some, ↓reduceIte, String.toList_ofList]
        generalize List.takeWhile isDigit r4 = offset at hd2 ⊢
        rw [← hd2]
        simp
    · simp at h

theorem splits_acceptCall {cs : List Char} {cut : Cut} (h : acceptCall cs = some cut) :
    cut.Splits cs := by
  unfold acceptCall at h
  split at h
  · simp at h
  · rename_i function body hc
    have h1 := append_of_splitCall hc
    split at h
    · simp at h
    · rename_i c after hd
      have hclose : c = ')' := by
        have := List.head?_dropWhile_not (· != ')') body
        rw [hd] at this
        simpa using this
      have := List.takeWhile_append_dropWhile (p := (· != ')')) (l := body)
      rw [hd, hclose] at this
      simp only at h
      split at h
      · simp at h
      · simp only [Option.some.injEq] at h
        exact ⟨by simp [← h, ← h1, this], by simp [← h]⟩

theorem splits_acceptEmptyCall {cs : List Char} {cut : Cut}
    (h : acceptEmptyCall cs = some cut) : cut.Splits cs := by
  unfold acceptEmptyCall at h
  split at h
  · rename_i hc
    simp only [Option.some.injEq] at h
    have h1 := append_of_splitCall hc
    exact ⟨by simp [← h, ← h1], by simp [← h]⟩
  · simp at h

theorem splits_acceptPseudoClass {cs : List Char} {cut : Cut}
    (h : acceptPseudoClass cs = some cut) : cut.Splits cs := by
  unfold acceptPseudoClass at h
  split at h
  · simp only [Option.map_eq_some_iff] at h
    obtain ⟨⟨name, rest⟩, hn, rfl⟩ := h
    exact ⟨by simp [(append_of_splitFunction hn).1], by simp⟩
  · simp at h

theorem splits_acceptPseudoElement {cs : List Char} {cut : Cut}
    (h : acceptPseudoElement cs = some cut) : cut.Splits cs := by
  unfold acceptPseudoElement at h
  split at h
  · simp only [Option.map_eq_some_iff] at h
    obtain ⟨⟨name, rest⟩, hn, rfl⟩ := h
    exact ⟨by simp [(append_of_splitFunction hn).1], by simp⟩
  · simp at h

/-- What a form of the catalogue accepts it cuts off without loss. -/
theorem splits_of_mem_catalogue {form : Form} (hf : form ∈ catalogue) {cs : List Char} {cut : Cut}
    (h : form.accept cs = some cut) : cut.Splits cs := by
  simp only [catalogue, List.mem_cons, List.not_mem_nil, or_false] at hf
  rcases hf with rfl | rfl | rfl | rfl | rfl | rfl | rfl | rfl | rfl | rfl | rfl | rfl | rfl | rfl |
    rfl | rfl | rfl | rfl | rfl | rfl | rfl | rfl | rfl
  · exact splits_acceptTag h
  · exact splits_acceptBetweenBlanks h
  · exact splits_acceptChar h
  · exact splits_acceptBetweenBlanks h
  · exact splits_acceptBetweenBlanks h
  · exact splits_acceptBlanks h
  · exact splits_acceptMarked h
  · exact splits_acceptMarked h
  · exact splits_acceptPresence h
  · exact splits_acceptValue h
  · exact splits_acceptValue h
  · exact splits_acceptValue h
  · exact splits_acceptValue h
  · exact splits_acceptValue h
  · exact splits_acceptValue h
  · exact splits_acceptValue h
  · exact splits_acceptChar h
  · exact splits_acceptQuotedCall h
  · exact splits_acceptEquation h
  · exact splits_acceptCall h
  · exact splits_acceptEmptyCall h
  · exact splits_acceptPseudoClass h
  · exact splits_acceptPseudoElement h

theorem splits_of_firstCut {cs : List Char} {cut : Cut} (h : firstCut cs = some cut) :
    cut.Splits cs := by
  obtain ⟨form, hf, ha⟩ := List.exists_of_findSome?_eq_some h
  exact splits_of_mem_catalogue hf ha

end Topiary.Selector
