import Mathlib.Data.List.Nodup
import Topiary.Proofs.Selector.Reassembly

/-!
Priority and length. The first form of the catalogue that accepts a text decides, not the one that
takes the most; yet no form takes more than the one that decides, and only function calls may be
taken by two forms alike. So the form for calls without arguments never decides.
-/

namespace Topiary.Selector

open Topiary.Text

variable {cs name name' inside inside' rest : List Char} {cut first : Cut} {form : Form}
  {label label' : String}

/-- The name of the form that tokens of a kind are read by. -/
def Kind.formName : Kind → String
  | .tag _ => "Tag"
  | .id _ => "Id"
  | .className _ => "Class"
  | .pseudoClass _ => "PseudoSimple"
  | .pseudoElement _ => "PseudoElement"
  | .emptyCall _ => "PseudoFunctionNoArg"
  | .quotedCall _ _ => "PseudoFunctionQuotedArg"
  | .call _ _ => "PseudoFunctionArg"
  | .equationCall _ => "PseudoFunctionEquation"
  | .attrPresence _ => "AttributePresence"
  | .attrValue _ .equals _ => "AttributeEquals"
  | .attrValue _ .differs _ => "AttributeNotEquals"
  | .attrValue _ .dashed _ => "AttributePrefix"
  | .attrValue _ .contains _ => "AttributeContains"
  | .attrValue _ .word _ => "AttributeContainsWord"
  | .attrValue _ .ends _ => "AttributeEndsWith"
  | .attrValue _ .starts _ => "AttributeStartsWith"
  | .child => "Child"
  | .descendant => "Descendant"
  | .nextAdjacent => "NextAdjacent"
  | .nextSibling => "NextSibling"
  | .separator => "ListSeparator"
  | .universal => "Universal"

/-- The names of the forms that end with a closing parenthesis. -/
def callNames : List String :=
  ["PseudoFunctionQuotedArg", "PseudoFunctionEquation", "PseudoFunctionArg", "PseudoFunctionNoArg"]

/-- The cut takes no less than another, and as much only if it is the same cut or both are calls. -/
structure Cut.Outranks (first cut : Cut) : Prop where
  le : cut.source.length ≤ first.source.length
  tie : cut.source.length = first.source.length →
    first = cut ∨ (first.kind.formName ∈ callNames ∧ cut.kind.formName ∈ callNames)

/-- The cut is one of the form with this name, and what the catalogue cuts off outranks it. -/
structure Ranked (label : String) (cs : List Char) (cut : Cut) : Prop where
  kind : cut.kind.formName = label
  outranked : ∃ first, firstCut cs = some first ∧ first.Outranks cut

namespace Cut.Outranks

theorem refl (cut : Cut) : cut.Outranks cut :=
  ⟨Nat.le_refl _, fun _ => Or.inl rfl⟩

theorem of_lt (h : cut.source.length < first.source.length) : first.Outranks cut :=
  ⟨Nat.le_of_lt h, fun heq => absurd heq (Nat.ne_of_lt h)⟩

end Cut.Outranks

/-- A cut whose kind says where it ends is the one that the catalogue makes. -/
theorem firstCut_of_proper (h : cut.Proper) (hsplits : cut.Splits cs)
    (hends : cut.kind.endsInFunction = false) : firstCut cs = some cut := by
  have hboundary : Boundary cut.kind cut.rest := by
    apply h.boundary
    intro hfunction
    rw [hends] at hfunction
    cases hfunction
  rw [← hsplits.append]
  exact firstCut_of_lexeme h.lexeme hboundary

namespace Ranked

theorem of_firstCut (hname : cut.kind.formName = label) (h : firstCut cs = some cut) :
    Ranked label cs cut :=
  ⟨hname, cut, h, .refl cut⟩

theorem of_proper (hname : cut.kind.formName = label) (h : cut.Proper) (hsplits : cut.Splits cs)
    (hends : cut.kind.endsInFunction = false) : Ranked label cs cut :=
  of_firstCut hname (firstCut_of_proper h hsplits hends)

end Ranked

/-! ## Names and single characters -/

theorem ranked_acceptTag (h : acceptTag cs = some cut) : Ranked "Tag" cs cut := by
  have hproper := proper_acceptTag h
  have hsplits := splits_acceptTag h
  simp only [acceptTag, Option.map_eq_some_iff] at h
  obtain ⟨_, -, rfl⟩ := h
  exact .of_proper rfl hproper hsplits rfl

theorem ranked_acceptMarked {mark : Char} {kind : String → Kind}
    (hkind : ∀ name, (kind name).formName = label)
    (hfirst : ∀ tail, firstCut (mark :: tail) = acceptMarked mark kind (mark :: tail))
    (h : acceptMarked mark kind cs = some cut) : Ranked label cs cut := by
  cases cs with
  | nil => cases h
  | cons c tail =>
    by_cases hc : c = mark
    · subst hc
      apply Ranked.of_firstCut _ ((hfirst tail).trans h)
      simp only [acceptMarked, if_true, Option.map_eq_some_iff] at h
      obtain ⟨_, -, rfl⟩ := h
      exact hkind _
    · rw [acceptMarked_eq_none hc] at h
      cases h

theorem ranked_acceptChar {mark : Char} {kind : Kind} (hkind : kind.formName = label)
    (hfirst : ∀ tail, firstCut (mark :: tail) = some ⟨kind, [mark], tail⟩)
    (h : acceptChar mark kind cs = some cut) : Ranked label cs cut := by
  cases cs with
  | nil => cases h
  | cons c tail =>
    by_cases hc : c = mark
    · subst hc
      rw [acceptChar_self] at h
      cases h
      exact .of_firstCut hkind (hfirst tail)
    · rw [acceptChar_eq_none hc] at h
      cases h

/-! ## Combinators -/

theorem ranked_acceptBetweenBlanks {mark : Char} {kind : Kind} (hkind : kind.formName = label)
    (hmark : (mark, kind) ∈ [('>', Kind.child), ('+', .nextAdjacent), ('~', .nextSibling)])
    (h : acceptBetweenBlanks mark kind cs = some cut) : Ranked label cs cut := by
  have happ := List.takeWhile_append_dropWhile (p := isAsciiBlank) (l := cs)
  unfold acceptBetweenBlanks at h
  split at h
  · cases h
  · rename_i c behind hdrop
    split at h
    · rename_i hc
      cases h
      apply Ranked.of_firstCut hkind
      have hbehind := List.takeWhile_append_dropWhile (p := isAsciiBlank) (l := behind)
      have hblanks : IsBlanks (cs.takeWhile isAsciiBlank) := isBlanks_takeWhile
      have hblanks' : IsBlanks (behind.takeWhile isAsciiBlank) := isBlanks_takeWhile
      have hstops : Stops isAsciiBlank (behind.dropWhile isAsciiBlank) := stops_dropWhile
      have hfirst := firstCut_between hblanks hblanks' hstops hmark
      rw [List.append_assoc, List.cons_append, hbehind, ← hc, ← hdrop, happ] at hfirst
      exact hfirst
    · cases h

/-- Blanks in front of a mark are part of a longer combinator. -/
theorem ranked_acceptBlanks (h : acceptBlanks .descendant cs = some cut) :
    Ranked "Descendant" cs cut := by
  have happ := List.takeWhile_append_dropWhile (p := isAsciiBlank) (l := cs)
  have hblanks : IsBlanks (cs.takeWhile isAsciiBlank) := isBlanks_takeWhile
  have hstops : Stops isAsciiBlank (cs.dropWhile isAsciiBlank) := stops_dropWhile
  unfold acceptBlanks at h
  split at h
  · cases h
  · rename_i hne
    cases h
    refine ⟨rfl, ?_⟩
    generalize cs.takeWhile isAsciiBlank = u at happ hblanks hne
    generalize cs.dropWhile isAsciiBlank = rest at happ hstops
    subst happ
    by_cases hmark : Stops isMark rest
    · exact ⟨_, firstCut_blanks hblanks hne hstops hmark, .refl _⟩
    · cases rest with
      | nil => exact absurd stops_nil hmark
      | cons c rest =>
        rw [stops_cons, Bool.not_eq_false] at hmark
        rw [firstCut_append_mark hblanks hmark, combinatorCut_append hblanks (stops_cons.mp hstops)]
        simp only [isMark, Bool.or_eq_true, beq_iff_eq] at hmark
        rcases hmark with (rfl | rfl) | rfl <;> exact ⟨_, rfl, .of_lt (by simp)⟩

/-! ## Brackets -/

theorem ranked_acceptPresence (h : acceptPresence cs = some cut) :
    Ranked "AttributePresence" cs cut := by
  have hproper := proper_acceptPresence h
  have hsplits := splits_acceptPresence h
  unfold acceptPresence at h
  split at h
  · split at h
    · cases h
      exact .of_proper rfl hproper hsplits rfl
    · cases h
  · cases h

theorem ranked_acceptValue {relation : Relation} (h : acceptValue relation cs = some cut) :
    Ranked (Kind.attrValue "" relation "").formName cs cut := by
  have hproper := proper_acceptValue h
  have hsplits := splits_acceptValue h
  unfold acceptValue at h
  split at h
  · split at h
    · split at h
      · cases h
        apply Ranked.of_proper _ hproper hsplits rfl
        cases relation <;> rfl
      · cases h
    · cases h
  · cases h

/-! ## Calls -/

/-- The cut is a call by the form with this name: a function with something inside its
parentheses. -/
structure Cut.Calls (cut : Cut) (label : String) (name inside : List Char) : Prop where
  kind : cut.kind.formName = label
  mem : label ∈ callNames
  function : IsFunction name
  source : cut.source = ':' :: name ++ '(' :: inside ++ [')']

namespace Cut.Calls

theorem eq_append (h : cut.Calls label name inside) (hsplits : cut.Splits cs) :
    cs = ':' :: name ++ '(' :: (inside ++ ')' :: cut.rest) := by
  rw [← hsplits.append, h.source]
  simp

theorem length_source (h : cut.Calls label name inside) :
    cut.source.length = name.length + inside.length + 3 := by
  rw [h.source]
  simp only [List.cons_append, List.length_cons, List.length_append, List.length_nil]
  omega

theorem endsInFunction_eq_false (h : cut.Calls label name inside) :
    cut.kind.endsInFunction = false := by
  have hmem := h.mem
  rw [← h.kind] at hmem
  cases hkind : cut.kind with
  | pseudoClass name | pseudoElement name =>
    rw [hkind] at hmem
    exact absurd hmem (by simp [Kind.formName, callNames])
  | _ => rfl

end Cut.Calls

/-- What stands in front of the first of two equal characters is no longer than what stands in front
of any. -/
theorem length_le_of_append_eq {l l' r r' : List Char} {c : Char}
    (h : l ++ c :: r = l' ++ c :: r') (hnot : c ∉ l') : l'.length ≤ l.length := by
  rcases List.append_eq_append_iff.mp h with ⟨more, rfl, hmore⟩ | ⟨more, rfl, -⟩
  · cases more with
    | nil => simp
    | cons d more =>
      obtain ⟨rfl, -⟩ := List.cons.inj hmore
      simp at hnot
  · simp

namespace Cut.Calls

/-- Of two calls that begin a text, one with no closing parenthesis inside is no longer. -/
theorem outranks (h : first.Calls label name inside) (hsplits : first.Splits cs)
    (h' : cut.Calls label' name' inside') (hsplits' : cut.Splits cs) (hnot : ')' ∉ inside') :
    first.Outranks cut := by
  have hcall : splitCall (':' :: name ++ '(' :: (inside ++ ')' :: first.rest)) = _ :=
    splitCall_append h.function
  rw [← h.eq_append hsplits, h'.eq_append hsplits', splitCall_append h'.function] at hcall
  obtain ⟨rfl, hinside⟩ := Prod.mk.inj (Option.some.inj hcall)
  have hle := length_le_of_append_eq hinside.symm hnot
  constructor
  · rw [h.length_source, h'.length_source]
    omega
  · intro _
    right
    rw [h.kind, h'.kind]
    exact ⟨h.mem, h'.mem⟩

/-- A call is longer than its name behind a colon. -/
theorem outranks_name (h : first.Calls label name inside) (hsplits : first.Splits (':' :: cs))
    (hfunction : splitFunction cs = some (name', rest)) (hsource : cut.source = ':' :: name') :
    first.Outranks cut := by
  have heq := h.eq_append hsplits
  rw [List.cons_append] at heq
  have hstops : Stops isFunctionChar ('(' :: (inside ++ ')' :: first.rest)) :=
    stops_cons.mpr (by decide)
  rw [(List.cons.inj heq).2, splitFunction_append h.function hstops] at hfunction
  obtain ⟨rfl, -⟩ := Prod.mk.inj (Option.some.inj hfunction)
  apply Outranks.of_lt
  rw [h.length_source, hsource, List.length_cons]
  omega

end Cut.Calls

theorem calls_acceptQuotedCall (h : acceptQuotedCall cs = some cut) :
    ∃ name inside, cut.Calls "PseudoFunctionQuotedArg" name inside := by
  unfold acceptQuotedCall at h
  split at h
  · rename_i function body hc
    split at h
    · rename_i argument rest hq
      cases h
      refine ⟨function, '"' :: argument ++ ['"'], rfl, by decide,
        (isFunction_of_splitCall hc).1, ?_⟩
      simp
    · cases h
  · cases h

theorem calls_acceptEquation (h : acceptEquation cs = some cut) :
    ∃ name inside, cut.Calls "PseudoFunctionEquation" name inside := by
  rw [acceptEquation_eq] at h
  split at h
  · cases h
  · rename_i function body hc
    split at h
    · cases h
      exact ⟨function, _, rfl, by decide, (isFunction_of_splitCall hc).1, rfl⟩
    · cases h

theorem calls_acceptCall (h : acceptCall cs = some cut) :
    ∃ name inside, cut.Calls "PseudoFunctionArg" name inside ∧ ')' ∉ inside := by
  unfold acceptCall at h
  split at h
  · cases h
  · rename_i function body hc
    split at h
    · cases h
    · dsimp only at h
      split at h
      · cases h
      · cases h
        refine ⟨function, _, ⟨rfl, by decide, (isFunction_of_splitCall hc).1, rfl⟩, ?_⟩
        intro hmem
        have hclose := mem_takeWhile hmem
        simp at hclose

theorem calls_acceptEmptyCall (h : acceptEmptyCall cs = some cut) :
    ∃ name, cut.Calls "PseudoFunctionNoArg" name [] := by
  unfold acceptEmptyCall at h
  split at h
  · rename_i function rest hc
    cases h
    refine ⟨function, rfl, by decide, (isFunction_of_splitCall hc).1, ?_⟩
    simp
  · cases h

theorem firstCut_of_acceptQuotedCall (h : acceptQuotedCall cs = some cut) :
    firstCut cs = some cut := by
  obtain ⟨name, inside, hcalls⟩ := calls_acceptQuotedCall h
  exact firstCut_of_proper (proper_acceptQuotedCall h) (splits_acceptQuotedCall h)
    hcalls.endsInFunction_eq_false

theorem firstCut_of_acceptEquation (h : acceptEquation cs = some cut) :
    firstCut cs = some cut := by
  obtain ⟨name, inside, hcalls⟩ := calls_acceptEquation h
  exact firstCut_of_proper (proper_acceptEquation h) (splits_acceptEquation h)
    hcalls.endsInFunction_eq_false

/-- What the catalogue cuts off the text is a call. -/
def CallDecides (cs : List Char) : Prop :=
  ∃ first label name inside, firstCut cs = some first ∧ first.Calls label name inside ∧
    first.Splits cs

theorem callDecides_of_acceptQuotedCall (h : acceptQuotedCall cs = some cut) : CallDecides cs := by
  obtain ⟨name, inside, hcalls⟩ := calls_acceptQuotedCall h
  exact ⟨cut, _, name, inside, firstCut_of_acceptQuotedCall h, hcalls, splits_acceptQuotedCall h⟩

theorem callDecides_of_acceptEquation (h : acceptEquation cs = some cut) : CallDecides cs := by
  obtain ⟨name, inside, hcalls⟩ := calls_acceptEquation h
  exact ⟨cut, _, name, inside, firstCut_of_acceptEquation h, hcalls, splits_acceptEquation h⟩

/-- A call with anything inside is read as a quoted one, as an equation, or as what it is. -/
theorem callDecides_of_acceptCall (h : acceptCall cs = some cut) : CallDecides cs := by
  cases hquoted : acceptQuotedCall cs with
  | some first => exact callDecides_of_acceptQuotedCall hquoted
  | none =>
    cases hequation : acceptEquation cs with
    | some first => exact callDecides_of_acceptEquation hequation
    | none =>
      obtain ⟨name, inside, hcalls, -⟩ := calls_acceptCall h
      exact ⟨cut, _, name, inside, firstCut_of_proper (proper_acceptCall hquoted hequation h)
        (splits_acceptCall h) hcalls.endsInFunction_eq_false, hcalls, splits_acceptCall h⟩

/-- A call with nothing inside is an equation. -/
theorem exists_acceptEquation (h : acceptEmptyCall cs = some cut) :
    ∃ first, acceptEquation cs = some first ∧ first.source = cut.source := by
  cases hequation : acceptEquation cs with
  | none =>
    rw [acceptEmptyCall_refuses hequation] at h
    cases h
  | some first =>
    obtain ⟨name, hcalls⟩ := calls_acceptEmptyCall h
    have happ := hcalls.eq_append (splits_acceptEmptyCall h)
    have haccept : acceptEquation (':' :: name ++ '(' :: ([] ++ ')' :: cut.rest)) = _ :=
      acceptEquation_append hcalls.function equationRest_nil
    rw [← happ, hequation] at haccept
    cases haccept
    exact ⟨_, rfl, hcalls.source.symm⟩

theorem CallDecides.ranked (h : CallDecides cs) (hcalls : cut.Calls label name inside)
    (hsplits : cut.Splits cs) (hnot : ')' ∉ inside) : Ranked label cs cut := by
  obtain ⟨first, label', name', inside', hcut, hfirst, hsplits'⟩ := h
  exact ⟨hcalls.kind, first, hcut, hfirst.outranks hsplits' hcalls hsplits hnot⟩

theorem ranked_acceptQuotedCall (h : acceptQuotedCall cs = some cut) :
    Ranked "PseudoFunctionQuotedArg" cs cut := by
  obtain ⟨name, inside, hcalls⟩ := calls_acceptQuotedCall h
  exact .of_firstCut hcalls.kind (firstCut_of_acceptQuotedCall h)

theorem ranked_acceptEquation (h : acceptEquation cs = some cut) :
    Ranked "PseudoFunctionEquation" cs cut := by
  obtain ⟨name, inside, hcalls⟩ := calls_acceptEquation h
  exact .of_firstCut hcalls.kind (firstCut_of_acceptEquation h)

theorem ranked_acceptCall (h : acceptCall cs = some cut) : Ranked "PseudoFunctionArg" cs cut := by
  obtain ⟨name, inside, hcalls, hnot⟩ := calls_acceptCall h
  exact (callDecides_of_acceptCall h).ranked hcalls (splits_acceptCall h) hnot

theorem ranked_acceptEmptyCall (h : acceptEmptyCall cs = some cut) :
    Ranked "PseudoFunctionNoArg" cs cut := by
  obtain ⟨name, hcalls⟩ := calls_acceptEmptyCall h
  obtain ⟨first, hequation, -⟩ := exists_acceptEquation h
  exact (callDecides_of_acceptEquation hequation).ranked hcalls (splits_acceptEmptyCall h)
    List.not_mem_nil

/-! ## Names behind colons -/

/-- Where no call decides, none is accepted. -/
theorem colonCut_of_not_callDecides (h : ¬ CallDecides cs) :
    colonCut cs = [acceptPseudoClass, acceptPseudoElement].findSome? fun accept => accept cs := by
  have hquoted : acceptQuotedCall cs = none :=
    Option.eq_none_iff_forall_ne_some.mpr fun _ haccept =>
      h (callDecides_of_acceptQuotedCall haccept)
  have hequation : acceptEquation cs = none :=
    Option.eq_none_iff_forall_ne_some.mpr fun _ haccept =>
      h (callDecides_of_acceptEquation haccept)
  have hcall : acceptCall cs = none :=
    Option.eq_none_iff_forall_ne_some.mpr fun _ haccept => h (callDecides_of_acceptCall haccept)
  simp only [colonCut, List.findSome?_cons, hquoted, hequation, hcall,
    acceptEmptyCall_refuses hequation]

theorem ranked_acceptPseudoClass (h : acceptPseudoClass cs = some cut) :
    Ranked "PseudoSimple" cs cut := by
  have haccept := h
  unfold acceptPseudoClass at h
  split at h
  · rename_i tail
    obtain ⟨⟨name, rest⟩, hname, rfl⟩ := Option.map_eq_some_iff.mp h
    refine ⟨rfl, ?_⟩
    by_cases hdecides : CallDecides (':' :: tail)
    · obtain ⟨first, label, name', inside, hcut, hcalls, hsplits⟩ := hdecides
      exact ⟨first, hcut, hcalls.outranks_name hsplits hname rfl⟩
    · refine ⟨_, ?_, .refl _⟩
      rw [firstCut_colon, colonCut_of_not_callDecides hdecides, List.findSome?_cons, haccept]
  · cases h

theorem ranked_acceptPseudoElement (h : acceptPseudoElement cs = some cut) :
    Ranked "PseudoElement" cs cut := by
  have haccept := h
  unfold acceptPseudoElement at h
  split at h
  · rename_i tail
    obtain ⟨⟨name, rest⟩, hname, rfl⟩ := Option.map_eq_some_iff.mp h
    have hcolon : splitFunction (':' :: tail) = none := splitFunction_eq_none (by decide)
    have hcall : splitCall (':' :: ':' :: tail) = none := by rw [splitCall, hcolon]
    refine .of_firstCut rfl ?_
    simp only [firstCut_colon, colonCut, List.findSome?_cons, acceptQuotedCall, acceptEquation,
      acceptCall, acceptEmptyCall, hcall, acceptPseudoClass, hcolon, Option.map_none, haccept]
  · cases h

/-! ## The catalogue -/

/-- Whatever form accepts a text, what the catalogue cuts off the text outranks what it takes. -/
theorem ranked_of_mem_catalogue (hform : form ∈ catalogue) (h : form.accept cs = some cut) :
    Ranked form.name cs cut := by
  simp only [catalogue, List.mem_cons, List.not_mem_nil, or_false] at hform
  rcases hform with rfl | rfl | rfl | rfl | rfl | rfl | rfl | rfl | rfl | rfl | rfl | rfl | rfl |
    rfl | rfl | rfl | rfl | rfl | rfl | rfl | rfl | rfl | rfl
  · exact ranked_acceptTag h
  · exact ranked_acceptBetweenBlanks rfl (by simp) h
  · exact ranked_acceptChar rfl (fun _ => firstCut_cons (by decide)) h
  · exact ranked_acceptBetweenBlanks rfl (by simp) h
  · exact ranked_acceptBetweenBlanks rfl (by simp) h
  · exact ranked_acceptBlanks h
  · exact ranked_acceptMarked (fun _ => rfl) (fun _ => firstCut_hash) h
  · exact ranked_acceptMarked (fun _ => rfl) (fun _ => firstCut_dot) h
  · exact ranked_acceptPresence h
  · exact ranked_acceptValue h
  · exact ranked_acceptValue h
  · exact ranked_acceptValue h
  · exact ranked_acceptValue h
  · exact ranked_acceptValue h
  · exact ranked_acceptValue h
  · exact ranked_acceptValue h
  · exact ranked_acceptChar rfl (fun _ => firstCut_cons (by decide)) h
  · exact ranked_acceptQuotedCall h
  · exact ranked_acceptEquation h
  · exact ranked_acceptCall h
  · exact ranked_acceptEmptyCall h
  · exact ranked_acceptPseudoClass h
  · exact ranked_acceptPseudoElement h

theorem nodup_names_catalogue : (catalogue.map Form.name).Nodup := by
  decide

/-- Calls without arguments are never written as such. -/
theorem Lexeme.ne_emptyCall {kind : Kind} {source : List Char} (h : Lexeme kind source)
    (function : String) : kind ≠ .emptyCall function := by
  cases h <;> simp

/-- The form that decides takes at least as much of a text as any other that accepts it, and as much
as a different one only if both read calls. The form of equations takes whatever the one of calls
without arguments takes, so no token of a text is such a call. -/
theorem firstCut_outranks :
    (∀ form ∈ catalogue, ∀ cs cut, form.accept cs = some cut →
      ∃ earlier chosen later first, catalogue = earlier ++ chosen :: later ∧
        (∀ other ∈ earlier, other.accept cs = none) ∧ chosen.accept cs = some first ∧
        firstCut cs = some first ∧ cut.source.length ≤ first.source.length ∧
        (cut.source.length = first.source.length →
          form = chosen ∨ (form.name ∈ callNames ∧ chosen.name ∈ callNames))) ∧
    (∀ cs cut, acceptEmptyCall cs = some cut →
      ∃ first, acceptEquation cs = some first ∧ first.source = cut.source) ∧
    ∀ text t, tokenizeWithElided text = .ok t → ∀ function,
      (∀ token ∈ t.tokens, token.kind ≠ .emptyCall function) ∧
        ∀ entry ∈ t.elided, entry.2.kind ≠ .emptyCall function := by
  refine ⟨?_, fun cs cut h => exists_acceptEquation h, ?_⟩
  · intro form hform cs cut haccept
    obtain ⟨hkind, first, hfirst, houtranks⟩ := ranked_of_mem_catalogue hform haccept
    obtain ⟨earlier, chosen, later, hsplit, hchosen, hearlier⟩ :=
      List.findSome?_eq_some_iff.mp hfirst
    have hmem : chosen ∈ catalogue := by
      rw [hsplit]
      simp
    have hname := (ranked_of_mem_catalogue hmem hchosen).kind
    refine ⟨earlier, chosen, later, first, hsplit, hearlier, hchosen, hfirst, houtranks.le, ?_⟩
    intro hlength
    rcases houtranks.tie hlength with rfl | ⟨hcall, hcall'⟩
    · left
      exact List.inj_on_of_nodup_map nodup_names_catalogue hform hmem (hkind.symm.trans hname)
    · right
      rw [← hkind, ← hname]
      exact ⟨hcall', hcall⟩
  · intro text t h function
    rw [tokenizeWithElided] at h
    cases hcut : cutAll text.toList with
    | error remaining =>
      rw [hcut] at h
      cases h
    | ok tokens =>
      rw [hcut] at h
      cases h
      have hwell := (wellCut_of_cutAll hcut).1
      rw [ofTokens_tokens, ofTokens_elided]
      constructor
      · intro token htoken
        exact (hwell.lexeme (mem_of_mem_keep htoken)).ne_emptyCall function
      · intro entry hentry
        exact (hwell.lexeme (mem_of_mem_leaveOut hentry)).ne_emptyCall function

/-- The form of calls without arguments accepts `:first()`, and the form of equations decides. -/
theorem firstCut_outranks_first :
    ∃ cut, acceptEmptyCall ":first()".toList = some cut ∧
      (∃ first, acceptEquation ":first()".toList = some first ∧ first.source = cut.source) ∧
      (∃ first, firstCut ":first()".toList = some first ∧
        cut.source.length ≤ first.source.length) ∧
      ∃ t, tokenizeWithElided ":first()" = .ok t ∧
        ∀ token ∈ t.tokens, token.kind ≠ .emptyCall "first" := by
  have haccept : acceptEmptyCall ":first()".toList =
      some ⟨.emptyCall "first", ":first()".toList, []⟩ := by rfl
  obtain ⟨hrank, hequation, htokens⟩ := firstCut_outranks
  have hform : (⟨"PseudoFunctionNoArg", acceptEmptyCall⟩ : Form) ∈ catalogue := by
    simp [catalogue]
  obtain ⟨-, -, -, first, -, -, -, hfirst, hle, -⟩ := hrank _ hform ":first()".toList _ haccept
  have hread : ∃ t, tokenizeWithElided ":first()" = .ok t := ⟨_, by cbv⟩
  obtain ⟨t, ht⟩ := hread
  exact ⟨_, haccept, hequation _ _ haccept, ⟨first, hfirst, hle⟩, t, ht,
    (htokens _ t ht "first").1⟩

end Topiary.Selector
