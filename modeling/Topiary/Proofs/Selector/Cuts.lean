import Topiary.Proofs.Selector.Lexeme

/-!
What the catalogue cuts off a text is the written form of its kind, and the rest respects the
boundary of that kind unless it begins with a character that no token begins with.
-/

namespace Topiary.Selector

open Topiary.Text

variable {rest name cs : List Char} {c : Char} {cut : Cut}

/-- The characters that may end a name but begin no token. -/
def isOrphan (c : Char) : Bool :=
  c == '-' || c == '('

theorem firstCut_orphan (hc : isOrphan c = true) : firstCut (c :: rest) = none := by
  simp only [isOrphan, Bool.or_eq_true, beq_iff_eq] at hc
  rcases hc with rfl | rfl <;> rw [firstCut_cons (by decide)] <;>
    simp [combinatorCut, acceptBetweenBlanks, acceptBlanks, isAsciiBlank]

/-- Whether the written form of a kind ends with a function name, which an orphan may follow. -/
def Kind.endsInFunction : Kind → Bool
  | .pseudoClass _ | .pseudoElement _ => true
  | _ => false

/-- The cut takes the written form of its kind and ends where that form ends. -/
structure Cut.Proper (cut : Cut) : Prop where
  lexeme : Lexeme cut.kind cut.source
  boundary : (cut.kind.endsInFunction = true → Stops isOrphan cut.rest) →
    Boundary cut.kind cut.rest

theorem proper_acceptTag (h : acceptTag cs = some cut) : cut.Proper := by
  simp only [acceptTag, Option.map_eq_some_iff] at h
  obtain ⟨⟨name, rest⟩, hn, rfl⟩ := h
  obtain ⟨hname, hstop, -⟩ := isName_of_splitName hn
  exact ⟨.tag hname, fun _ => hstop⟩

theorem proper_acceptMarked {mark : Char} {kind : String → Kind}
    (hk : ∀ {name}, IsName name → Lexeme (kind (String.ofList name)) (mark :: name))
    (hb : ∀ {name rest}, Stops isAlphanumeric rest → Boundary (kind name) rest)
    (h : acceptMarked mark kind (mark :: cs) = some cut) : cut.Proper := by
  simp only [acceptMarked, if_true, Option.map_eq_some_iff] at h
  obtain ⟨⟨name, rest⟩, hn, rfl⟩ := h
  obtain ⟨hname, hstop, -⟩ := isName_of_splitName hn
  exact ⟨hk hname, fun _ => hb hstop⟩

/-! ## Combinators -/

theorem isBlanks_takeWhile : IsBlanks (cs.takeWhile isAsciiBlank) :=
  fun _ hc => mem_takeWhile hc

theorem proper_combinatorCut (h : combinatorCut cs = some cut) : cut.Proper := by
  have hu : IsBlanks (cs.takeWhile isAsciiBlank) := isBlanks_takeWhile
  have hstop : Stops isAsciiBlank (cs.dropWhile isAsciiBlank) := stops_dropWhile
  rw [← List.takeWhile_append_dropWhile (p := isAsciiBlank) (l := cs)] at h
  generalize cs.takeWhile isAsciiBlank = u at h hu
  cases hd : cs.dropWhile isAsciiBlank with
  | nil =>
    rw [hd, List.append_nil] at h
    by_cases hne : u = []
    · subst hne
      have hnone : combinatorCut [] = none := rfl
      rw [hnone] at h
      simp at h
    · rw [combinatorCut_blanks hu hne] at h
      obtain rfl := Option.some.inj h
      exact ⟨.descendant hu hne, fun _ => ⟨stops_nil, stops_nil⟩⟩
  | cons c rest =>
    rw [hd, stops_cons] at hstop
    rw [hd, combinatorCut_append hu hstop] at h
    have hv : IsBlanks (rest.takeWhile isAsciiBlank) := isBlanks_takeWhile
    simp only at h
    split_ifs at h with hchild hadjacent hsibling hne <;> obtain rfl := Option.some.inj h
    · subst hchild
      exact ⟨.child hu hv, fun _ => stops_dropWhile⟩
    · subst hadjacent
      exact ⟨.nextAdjacent hu hv, fun _ => stops_dropWhile⟩
    · subst hsibling
      exact ⟨.nextSibling hu hv, fun _ => stops_dropWhile⟩
    · refine ⟨.descendant hu hne, fun _ => ⟨stops_cons.mpr hstop, stops_cons.mpr ?_⟩⟩
      simp [isMark, hchild, hadjacent, hsibling]

/-! ## Brackets -/

theorem proper_acceptPresence (h : acceptPresence cs = some cut) : cut.Proper := by
  unfold acceptPresence at h
  split at h
  · split at h
    · rename_i hn
      obtain rfl := Option.some.inj h
      exact ⟨.attrPresence (isName_of_splitName hn).1, fun _ => trivial⟩
    · simp at h
  · simp at h

theorem proper_acceptValue {relation : Relation} (h : acceptValue relation cs = some cut) :
    cut.Proper := by
  unfold acceptValue at h
  split at h
  · split at h
    · rename_i hn
      split at h
      · rename_i hq
        obtain ⟨after, -, hq⟩ := Option.bind_eq_some_iff.mp hq
        obtain rfl := Option.some.inj h
        exact ⟨.attrValue (isName_of_splitName hn).1 relation (not_mem_of_splitQuoted hq).1,
          fun _ => trivial⟩
      · simp at h
    · simp at h
  · simp at h

theorem proper_bracketCut (h : bracketCut cs = some cut) : cut.Proper := by
  obtain ⟨accept, hmem, ha⟩ := List.exists_of_findSome?_eq_some h
  simp only [List.mem_cons, List.not_mem_nil, or_false] at hmem
  rcases hmem with rfl | rfl | rfl | rfl | rfl | rfl | rfl | rfl
  · exact proper_acceptPresence ha
  all_goals exact proper_acceptValue ha

/-! ## Behind a colon -/

theorem proper_acceptQuotedCall (h : acceptQuotedCall cs = some cut) : cut.Proper := by
  unfold acceptQuotedCall at h
  split at h
  · rename_i hc
    split at h
    · rename_i hq
      obtain rfl := Option.some.inj h
      exact ⟨.quotedCall (isFunction_of_splitCall hc).1 (not_mem_of_splitQuoted hq).1,
        fun _ => trivial⟩
    · simp at h
  · simp at h

/-- What stands in front of the parenthesis that closes an equation is an argument without rest. -/
theorem equationRest_of_append {a b : List Char} (function : List Char)
    (h : equationRest b = ')' :: rest) (ha : (equationOf function b).argument = a) :
    b = a ++ ')' :: rest ∧ equationRest a = [] ∧ equationOf function b = equationOf function a := by
  have happ := argument_append_equationRest function b
  rw [h, ha] at happ
  obtain rfl : b = a ++ ')' :: rest := happ.symm
  rw [equationRest_append] at h
  refine ⟨rfl, ?_, equationOf_append function a⟩
  have hlength := congrArg List.length h
  simp only [List.length_append, List.length_cons] at hlength
  exact List.eq_nil_of_length_eq_zero (by omega)

theorem proper_acceptEquation (h : acceptEquation cs = some cut) : cut.Proper := by
  rw [acceptEquation_eq] at h
  split at h
  · simp at h
  · rename_i function body hc
    split at h
    · rename_i rest hrest
      obtain rfl := Option.some.inj h
      obtain ⟨-, hnil, heq⟩ := equationRest_of_append function hrest rfl
      refine ⟨?_, fun _ => trivial⟩
      have hlexeme := Lexeme.equationCall (isFunction_of_splitCall hc).1 hnil
      rwa [← heq] at hlexeme
    · simp at h

theorem proper_acceptCall (hq : acceptQuotedCall cs = none) (he : acceptEquation cs = none)
    (h : acceptCall cs = some cut) : cut.Proper := by
  unfold acceptCall at h
  split at h
  · simp at h
  · rename_i function body hc
    obtain ⟨hf, rfl⟩ := isFunction_of_splitCall hc
    split at h
    · simp at h
    · rename_i d after hd
      simp only at h
      split at h
      · simp at h
      · rename_i hempty
        obtain rfl := Option.some.inj h
        have hclose : d = ')' := by
          have hstop := stops_dropWhile (p := (· != ')')) (l := body)
          rw [hd, stops_cons] at hstop
          simpa using hstop
        have hbody := List.takeWhile_append_dropWhile (p := (· != ')')) (l := body)
        rw [hd, hclose] at hbody
        have hnot : ')' ∉ body.takeWhile (· != ')') := by
          intro hmem
          simpa using mem_takeWhile hmem
        generalize body.takeWhile (· != ')') = argument at hbody hnot hempty
        subst hbody
        refine ⟨.call hf hnot ?_, ?_⟩
        · intro hnil
          rw [acceptEquation_append hf hnil] at he
          simp at he
        · rintro - inner hinner ⟨value, more, heq, hvalue⟩
          rw [String.toList_ofList] at hinner
          subst hinner
          have hbody : '"' :: inner ++ ')' :: after = '"' :: value ++ '"' :: ')' :: more :=
            congrArg ('"' :: ·) heq
          rw [hbody, acceptQuotedCall_append hf hvalue] at hq
          simp at hq

theorem acceptEmptyCall_refuses (h : acceptEquation cs = none) : acceptEmptyCall cs = none := by
  unfold acceptEmptyCall
  split
  · rename_i function rest hc
    obtain ⟨hf, rfl⟩ := isFunction_of_splitCall hc
    have haccept : acceptEquation (':' :: function ++ '(' :: ([] ++ ')' :: rest)) = _ :=
      acceptEquation_append hf equationRest_nil
    rw [List.nil_append, h] at haccept
    simp at haccept
  · rfl

theorem proper_acceptPseudoClass (h : acceptPseudoClass cs = some cut) : cut.Proper := by
  unfold acceptPseudoClass at h
  split at h
  · simp only [Option.map_eq_some_iff] at h
    obtain ⟨⟨name, rest⟩, hn, rfl⟩ := h
    refine ⟨.pseudoClass (isFunction_of_splitFunction hn).1, fun hrest => ⟨?_, ?_⟩⟩
    · exact stops_of_splitFunction hn fun d hd => (Bool.or_eq_false_iff.mp (hrest rfl d hd)).1
    · exact fun d hd => (Bool.or_eq_false_iff.mp (hrest rfl d hd)).2
  · simp at h

theorem proper_acceptPseudoElement (h : acceptPseudoElement cs = some cut) : cut.Proper := by
  unfold acceptPseudoElement at h
  split at h
  · simp only [Option.map_eq_some_iff] at h
    obtain ⟨⟨name, rest⟩, hn, rfl⟩ := h
    refine ⟨.pseudoElement (isFunction_of_splitFunction hn).1, fun hrest => ?_⟩
    exact stops_of_splitFunction hn fun d hd => (Bool.or_eq_false_iff.mp (hrest rfl d hd)).1
  · simp at h

theorem proper_colonCut (h : colonCut cs = some cut) : cut.Proper := by
  simp only [colonCut, List.findSome?_cons, List.findSome?_nil] at h
  split at h
  · rename_i hq
    obtain rfl := Option.some.inj h
    exact proper_acceptQuotedCall hq
  · rename_i hq
    split at h
    · rename_i he
      obtain rfl := Option.some.inj h
      exact proper_acceptEquation he
    · rename_i he
      rw [acceptEmptyCall_refuses he] at h
      split at h
      · rename_i ha
        obtain rfl := Option.some.inj h
        exact proper_acceptCall hq he ha
      · simp only at h
        split at h
        · rename_i hp
          obtain rfl := Option.some.inj h
          exact proper_acceptPseudoClass hp
        · split at h
          · rename_i hp
            obtain rfl := Option.some.inj h
            exact proper_acceptPseudoElement hp
          · simp at h

/-! ## All forms -/

/-- Every cut takes the written form of its kind and ends where that form ends. -/
theorem proper_of_firstCut (h : firstCut cs = some cut) : cut.Proper := by
  cases cs with
  | nil =>
    have hnone : firstCut [] = none := rfl
    simp [hnone] at h
  | cons c rest =>
    by_cases hl : isLetter c = true
    · rw [firstCut_of_letter hl] at h
      exact proper_acceptTag h
    · rw [firstCut_cons (by simpa using hl)] at h
      split_ifs at h with h1 h2 h3 h4 h5 h6
      · obtain rfl := Option.some.inj h
        exact ⟨.universal, fun _ => trivial⟩
      · obtain rfl := Option.some.inj h
        exact ⟨.separator, fun _ => trivial⟩
      · subst h3
        exact proper_acceptMarked .id id h
      · subst h4
        exact proper_acceptMarked .className id h
      · exact proper_bracketCut h
      · exact proper_colonCut h
      · exact proper_combinatorCut h

end Topiary.Selector
