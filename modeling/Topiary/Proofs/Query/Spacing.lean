import Topiary.Proofs.Query.Outlines
import Topiary.Proofs.Query.Unions
import Topiary.Proofs.Selector.Spacing

/-!
Queries with other blanks. A text that compiles goes on compiling to the same list if blanks are
written anew where they mean nothing.
-/

namespace Topiary.Query

open Topiary.Selector

variable {kind : Kind} {token : Token} {tokens tokens' : List Token} {d d' : Draft}
  {l : SelectorList} {text text' : String}

/-! ## Delimiters side by side -/

namespace Draft

/-- A delimiter has just been read: its combinator waits, or a new selector begins. -/
def Expects (d : Draft) : Prop :=
  d.Fresh ∨ ∃ combinator, combinator ≠ .descendant ∧ d.pending = some combinator

/-- A delimiter that is no separator is a combinator with a mark. -/
theorem combinatorOf?_of_isDelimiter (hdelim : kind.isDelimiter = true) (hsep : kind ≠ .separator) :
    ∃ combinator, combinator ≠ .descendant ∧ combinatorOf? kind = some combinator := by
  cases kind with
  | child => exact ⟨.child, by decide, rfl⟩
  | nextAdjacent => exact ⟨.nextAdjacent, by decide, rfl⟩
  | nextSibling => exact ⟨.nextSibling, by decide, rfl⟩
  | separator => exact absurd rfl hsep
  | _ => cases hdelim

theorem expects_of_add (hdelim : token.kind.isDelimiter = true) (h : d.add token = .ok d') :
    d'.Expects := by
  by_cases hsep : token.kind = .separator
  · left
    rw [add_eq_finish hsep] at h
    rw [finish_ok h]
    exact ⟨rfl, rfl, rfl⟩
  · obtain ⟨combinator, hne, hcombinator⟩ := combinatorOf?_of_isDelimiter hdelim hsep
    right
    refine ⟨combinator, hne, ?_⟩
    rw [add, hcombinator] at h
    simp only [addCombinator] at h
    split at h
    · cases h
    · split at h
      · obtain rfl := Except.ok.inj h
        rfl
      · obtain rfl := Except.ok.inj h
        rfl
      · cases h

/-- Where something is expected no delimiter is read. -/
theorem Expects.add_ne_ok (hd : d.Expects) (hdelim : token.kind.isDelimiter = true) :
    d.add token ≠ .ok d' := by
  intro h
  by_cases hsep : token.kind = .separator
  · rw [add_eq_finish hsep] at h
    rcases hd with hfresh | ⟨combinator, hne, hpending⟩
    · exact not_fresh_of_finish h hfresh
    · rw [finish, hpending] at h
      cases combinator with
      | descendant => exact hne rfl
      | _ => cases h
  · obtain ⟨combinator, hne, hcombinator⟩ := combinatorOf?_of_isDelimiter hdelim hsep
    rw [add, hcombinator] at h
    rcases hd with hfresh | ⟨waiting, hwaiting, hpending⟩
    · exact (addCombinator_ok h).1 hfresh
    · simp only [addCombinator, hpending] at h
      split at h
      · cases h
      · cases waiting with
        | descendant => exact hwaiting rfl
        | _ => cases h

end Draft

/-- In a compiled text no two delimiters stand side by side. -/
theorem delimitersApart_of_ofTokens (h : SelectorList.ofTokens (keep true tokens) = .ok l) :
    DelimitersApart tokens := by
  rintro first token token' rest rfl
  by_contra hnot
  rw [not_or, Bool.not_eq_false, Bool.not_eq_false] at hnot
  obtain ⟨hdelim, hdelim'⟩ := hnot
  have hidle : ∀ token : Token, token.kind.isDelimiter = true → token.kind ≠ .descendant := by
    intro token hdelim hkind
    rw [hkind] at hdelim
    cases hdelim
  rw [keep_append_cons (hidle token hdelim), keep_cons_of_ne (by simp [hidle token' hdelim'])] at h
  obtain ⟨d, -, hd, -, -⟩ := SelectorList.exists_draft h
  obtain ⟨d₁, -, hpair⟩ := Draft.addAll_append_ok hd
  obtain ⟨d₂, hadd, hrest⟩ := Draft.addAll_cons_ok hpair
  obtain ⟨d₃, hadd', -⟩ := Draft.addAll_cons_ok hrest
  exact (Draft.expects_of_add hdelim hadd).add_ne_ok hdelim' hadd'

/-! ## Gaps -/

theorem keep_blankTokens_append (u : List Char) (rest : List Token) :
    keep true (blankTokens u ++ rest) = keep true rest := by
  rw [blankTokens]
  split
  · rfl
  · rfl

theorem core_append_blankTokens (first : List Token) (u : List Char) :
    core (first ++ blankTokens u) = core first := by
  rw [blankTokens]
  split
  · rw [List.append_nil]
  · exact core_concat_idle rfl

namespace SelectorList

/-- What a separator stands between compiles as if there were no blanks beside it. -/
theorem toOption_separator (first rest : List Token) (u v : List Char) :
    (ofTokens (keep true (first ++ (gap .separator ',' u v ++ rest)))).toOption =
      (ofTokens (core first)).toOption.bind fun l =>
        (ofTokens (core rest)).toOption.map l.join := by
  have hkeep : keep true (first ++ (gap .separator ',' u v ++ rest)) =
      keep true (first ++ blankTokens u) ++
        ⟨.separator, String.ofList [',']⟩ :: keep true rest := by
    rw [gap, if_pos rfl, List.append_assoc, List.cons_append, ← List.append_assoc,
      keep_append_cons (by simp)]
    exact congrArg (_ ++ _ :: ·) (keep_blankTokens_append v rest)
  have hfirst := toOption_core (first ++ blankTokens u)
  rw [core_append_blankTokens] at hfirst
  have hrest := toOption_core rest
  rw [hkeep, ofTokens_append_separator rfl, ← hfirst, ← hrest]
  cases ofTokens (keep true (first ++ blankTokens u)) with
  | error cause => rfl
  | ok l => cases ofTokens (keep true rest) <;> rfl

/-- Token lists that are alike compile to the same list, or both to none. -/
theorem toOption_of_alike (h : Alike tokens tokens') :
    (ofTokens (keep true tokens')).toOption = (ofTokens (keep true tokens)).toOption := by
  cases h with
  | core h => rw [toOption_core, toOption_core, h]
  | gap first rest hdelim u v u' v' =>
    cases hdelim with
    | separator => rw [toOption_separator, toOption_separator]
    | _ =>
      rw [toOption_core, toOption_core]
      apply congrArg fun tokens => (ofTokens tokens).toOption
      apply core_congr
      simp [gap, Token.outline, Token.isStructural, Kind.isStructural]

/-- Other blanks where they mean nothing leave a compiled list as it is. -/
theorem parse_of_respaced (hl : parse text = .ok l) (h : Respaced text.toList text'.toList) :
    parse text' = .ok l := by
  rw [parse] at hl
  cases htokens : tokenize text with
  | error cause =>
    rw [htokens] at hl
    cases hl
  | ok tokens =>
    rw [htokens] at hl
    obtain ⟨all, hcut, rfl⟩ := exists_cutAll_of_tokenize htokens
    obtain ⟨all', hcut', halike⟩ := h.exists_alike hcut (delimitersApart_of_ofTokens hl)
    have hsame := toOption_of_alike halike
    simp only at hl
    rw [hl] at hsame
    rw [parse, tokenize_of_cutAll hcut']
    cases hl' : ofTokens (keep true all') with
    | error cause =>
      rw [hl'] at hsame
      cases hsame
    | ok l' =>
      rw [hl'] at hsame
      simp only [hl', Option.some.inj hsame]

/-- Whatever blanks are added, taken away or exchanged where they mean nothing, one place after
another, a compiled text compiles to the same list. -/
theorem parse_respaced (hl : parse text = .ok l)
    (h : Relation.ReflTransGen Respaced text.toList text'.toList) : parse text' = .ok l := by
  have hall : ∀ cs, Relation.ReflTransGen Respaced text.toList cs →
      parse (String.ofList cs) = .ok l := by
    intro cs hcs
    induction hcs with
    | refl =>
      rw [String.ofList_toList]
      exact hl
    | tail _ hstep ih =>
      apply parse_of_respaced ih
      rw [String.toList_ofList, String.toList_ofList]
      exact hstep
  rw [← String.ofList_toList (s := text')]
  exact hall text'.toList h

theorem parse_respaced_tight : ∃ l, parse "a > b c" = .ok l ∧
    Relation.ReflTransGen Respaced "a > b c".toList "a>b\t c ".toList ∧
    parse "a>b\t c " = .ok l := by
  have hl : parse "a > b c" = .ok ⟨[⟨[⟨some "a", false, []⟩, ⟨some "b", false, []⟩,
      ⟨some "c", false, []⟩], [.child, .descendant]⟩]⟩ := by cbv
  have hblank : IsBlanks [' '] := by decide
  have hnone : IsBlanks [] := by decide
  have hdelim : DelimiterAt (['a'] ++ [' ']) '>' ([' '] ++ ['b', ' ', 'c']) := by
    refine ⟨[⟨.tag "a", "a"⟩], ⟨.child, " > "⟩,
      [⟨.tag "b", "b"⟩, ⟨.descendant, " "⟩, ⟨.tag "c", "c"⟩], [' '], [' '], ?_, .child, hblank,
      hblank, rfl, rfl⟩
    cbv
  have hrun : BlanksAt ['a', '>', 'b'] [' '] ['c'] := by
    refine ⟨[⟨.tag "a", "a"⟩, ⟨.child, ">"⟩, ⟨.tag "b", "b"⟩], ⟨.descendant, " "⟩,
      [⟨.tag "c", "c"⟩], ?_, rfl, rfl, rfl⟩
    cbv
  have htight : Respaced "a > b c".toList "a>b c".toList :=
    .beside hdelim hblank hblank hnone hnone
  have hwide : Respaced "a>b c".toList "a>b\t c".toList :=
    .run hrun (by decide : IsBlanks ['\t', ' ']) (by decide)
  have hend : Respaced "a>b\t c".toList "a>b\t c ".toList :=
    .ends "a>b\t c".toList hnone hnone hnone hblank
  have hpath := ((Relation.ReflTransGen.single htight).tail hwide).tail hend
  exact ⟨_, hl, hpath, parse_respaced hl hpath⟩

end SelectorList

end Topiary.Query
