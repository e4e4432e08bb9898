import Mathlib
import Topiary.Proofs.Query.Printing
import Topiary.Proofs.Query.Unions

/-!
Compiling undoes printing. The text of a selector list is cut into the tokens of its compounds and
combinators, the blanks behind commas are set aside, and what is left writes the list.
-/

namespace Topiary.Query

open Topiary.Selector Topiary.Text

variable {naming : Naming} {rest : List Char} {more : List Token} {s : Complex}
  {links : List (Combinator × Compound Filter)} {selectors : List Complex} {l : SelectorList}
  {combinator : Combinator}

/-! ## Combinators -/

def Combinator.kind : Combinator → Kind
  | .descendant => .descendant
  | .child => .child
  | .nextAdjacent => .nextAdjacent
  | .nextSibling => .nextSibling

def Combinator.token (combinator : Combinator) : Token :=
  ⟨combinator.kind, combinator.text⟩

theorem combinatorOf?_kind (combinator : Combinator) :
    combinatorOf? combinator.kind = some combinator := by
  cases combinator <;> rfl

theorem kind_ne_separator (combinator : Combinator) : combinator.kind ≠ .separator := by
  cases combinator <;> simp [Combinator.kind]

theorem lexeme_combinator (combinator : Combinator) :
    Lexeme combinator.kind combinator.text.toList := by
  have hblank : IsBlanks [' '] := by simp [IsBlanks, isAsciiBlank]
  cases combinator with
  | descendant => exact Lexeme.descendant hblank (List.cons_ne_nil _ _)
  | child => exact Lexeme.child hblank hblank
  | nextAdjacent => exact Lexeme.nextAdjacent hblank hblank
  | nextSibling => exact Lexeme.nextSibling hblank hblank

theorem Opens.boundary (h : Opens rest) (combinator : Combinator) :
    Boundary combinator.kind rest := by
  cases combinator with
  | descendant => exact ⟨h.blank, h.mark⟩
  | _ => exact h.blank

theorem apart_combinator (combinator : Combinator) :
    Apart (combinator.text.toList ++ rest) := by
  cases combinator <;> exact ⟨stops_cons.mpr (by decide), stops_cons.mpr (by decide)⟩

/-! ## Complex selectors -/

/-- The tokens that a printed compound is read as. -/
def compoundTokens (naming : Naming) (c : Compound Filter) : List Token :=
  c.tokens (Filter.token naming)

theorem spell_compoundTokens (c : Compound Filter) :
    spell (compoundTokens naming c) = (c.text (Filter.text naming)).toList :=
  Compound.spell_tokens (fun _ => rfl) c

theorem writes_compoundTokens {c : Compound Filter} (hc : c.Printable (Filter.Printable naming)) :
    Writes (compoundTokens naming c) c where
  ne_nil := by
    obtain ⟨d, tail, hspell, -⟩ := hc.begins (reads_filter naming)
    intro hnil
    rw [compoundTokens] at hnil
    simp [hnil, spell] at hspell
  adds := hc.adds (reads_filter naming)
  writes := by
    rw [addTokens_eq_foldlM]
    exact hc.foldlM_tokens (reads_filter naming)

theorem wellCut_compoundTokens {c : Compound Filter} (hc : c.Printable (Filter.Printable naming))
    (hmore : WellCut more) (hapart : Apart (spell more)) :
    WellCut (compoundTokens naming c ++ more) ∧
      Opens (spell (compoundTokens naming c ++ more)) := by
  refine ⟨hc.wellCut (reads_filter naming) hmore hapart, ?_⟩
  obtain ⟨d, tail, hspell, hbegins⟩ := hc.begins (reads_filter naming)
  rw [spell_append, compoundTokens, hspell, List.cons_append]
  exact opens_cons hbegins

def linkTokens (naming : Naming) (links : List (Combinator × Compound Filter)) : List Token :=
  links.flatMap fun link => link.1.token :: compoundTokens naming link.2

/-- The tokens that a printed selector is read as. -/
def Complex.tokens (naming : Naming) (s : Complex) : List Token :=
  s.compounds.head?.toList.flatMap (compoundTokens naming) ++ linkTokens naming s.links

theorem Complex.spell_tokens (s : Complex) : spell (s.tokens naming) = (s.text naming).toList := by
  have hlinks : spell (linkTokens naming s.links) = (String.join (s.links.map fun link =>
      link.1.text ++ link.2.text (Filter.text naming))).toList := by
    rw [join_toList, List.flatMap_map, spell, linkTokens, List.flatMap_assoc]
    congr 1
    funext link
    rw [List.flatMap_cons, String.toList_append, ← spell_compoundTokens]
    rfl
  rw [Complex.tokens, Complex.text, spell_append, hlinks, String.toList_append]
  congr 1
  cases s.compounds.head? with
  | none => rfl
  | some c => simp [spell_compoundTokens]

theorem wellCut_linkTokens
    (hlinks : ∀ link ∈ links, link.2.Printable (Filter.Printable naming))
    (hmore : WellCut more) (hapart : Apart (spell more)) :
    WellCut (linkTokens naming links ++ more) ∧
      Apart (spell (linkTokens naming links ++ more)) := by
  induction links with
  | nil => exact ⟨hmore, hapart⟩
  | cons link links ih =>
    obtain ⟨hwell, hbehind⟩ := ih fun other hother => hlinks other (by simp [hother])
    obtain ⟨hcompound, hopens⟩ := wellCut_compoundTokens (hlinks link (by simp)) hwell hbehind
    have htokens : linkTokens naming (link :: links) ++ more =
        link.1.token :: (compoundTokens naming link.2 ++ (linkTokens naming links ++ more)) := by
      simp [linkTokens]
    rw [htokens]
    refine ⟨⟨lexeme_combinator link.1, hopens.boundary link.1, hcompound⟩, ?_⟩
    rw [spell_cons]
    exact apart_combinator link.1

namespace Complex.Printable

variable (hs : s.Printable naming)

include hs

/-- A first compound, and a combinator for each further one. -/
theorem exists_cons : ∃ head tail, s.compounds = head :: tail ∧
    tail.length = s.combinators.length ∧ s.links = s.combinators.zip tail ∧
    s.tokens naming = compoundTokens naming head ++ linkTokens naming s.links := by
  have hbalanced := hs.balanced
  rw [Complex.Balanced] at hbalanced
  cases hcompounds : s.compounds with
  | nil => simp [hcompounds] at hbalanced
  | cons head tail =>
    refine ⟨head, tail, rfl, by simpa [hcompounds] using hbalanced, ?_, ?_⟩
    · rw [Complex.links, hcompounds, List.tail_cons]
    · simp [Complex.tokens, hcompounds]

theorem printable_of_mem_links {link : Combinator × Compound Filter} (hlink : link ∈ s.links) :
    link.2.Printable (Filter.Printable naming) := by
  apply hs.compounds
  exact List.mem_of_mem_tail (List.of_mem_zip hlink).2

theorem wellCut (hmore : WellCut more) (hapart : Apart (spell more)) :
    WellCut (s.tokens naming ++ more) ∧ Opens (spell (s.tokens naming ++ more)) := by
  obtain ⟨head, tail, hcompounds, -, -, htokens⟩ := hs.exists_cons
  obtain ⟨hwell, hbehind⟩ :=
    wellCut_linkTokens (fun link hlink => hs.printable_of_mem_links hlink) hmore hapart
  rw [htokens, List.append_assoc]
  exact wellCut_compoundTokens (hs.compounds head (by simp [hcompounds])) hwell hbehind

/-- The tokens of a printed selector write the selector. -/
theorem ofTokens_tokens : SelectorList.ofTokens (s.tokens naming) = .ok ⟨[s]⟩ := by
  obtain ⟨head, tail, hcompounds, hlength, hlinks, htokens⟩ := hs.exists_cons
  have hhead := writes_compoundTokens (hs.compounds head (by simp [hcompounds]))
  have hjoints : ∀ link ∈ s.links, combinatorOf? link.1.token.kind = some link.1 :=
    fun link _ => combinatorOf?_kind link.1
  have hwrites : ∀ link ∈ s.links, Writes (compoundTokens naming link.2) link.2 :=
    fun link hlink => writes_compoundTokens (hs.printable_of_mem_links hlink)
  obtain ⟨d, hadd, hd⟩ := Draft.whole_links hhead hjoints hwrites
  have hselector : (⟨head :: s.links.map fun link => link.2, s.links.map fun link => link.1⟩ :
      Complex) = s := by
    have hcombinators : s.links.map Prod.fst = s.combinators := by
      rw [hlinks]
      exact List.map_fst_zip (Nat.le_of_eq hlength.symm)
    have htail : s.links.map Prod.snd = tail := by
      rw [hlinks]
      exact List.map_snd_zip (Nat.le_of_eq hlength)
    rw [htail, hcombinators, ← hcompounds]
  rw [hselector] at hd
  rw [htokens]
  exact hd.ofTokens hadd

/-- Nothing of a single selector is set aside. -/
theorem keep_tokens : keep true (s.tokens naming) = s.tokens naming := by
  obtain ⟨head, tail, hcompounds, -, -, htokens⟩ := hs.exists_cons
  have hhead := writes_compoundTokens (hs.compounds head (by simp [hcompounds]))
  apply keep_of_forall
  · intro token htoken
    rw [htokens, List.head?_append_of_ne_nil _ hhead.ne_nil] at htoken
    exact ne_descendant_of_combinatorOf? (hhead.adds token (List.mem_of_mem_head? htoken)).1
  · intro token htoken
    rw [htokens] at htoken
    rcases List.mem_append.mp htoken with htoken | htoken
    · exact (hhead.adds token htoken).2
    · obtain ⟨link, hlink, htoken⟩ := List.mem_flatMap.mp htoken
      rcases List.mem_cons.mp htoken with rfl | htoken
      · exact kind_ne_separator link.1
      · exact ((writes_compoundTokens (hs.printable_of_mem_links hlink)).adds token htoken).2

end Complex.Printable

/-! ## Lists -/

/-- The tokens between two selectors of a printed list. -/
def breakTokens : List Token :=
  [⟨.separator, ","⟩, ⟨.descendant, " "⟩]

/-- All tokens of a printed list, with the blanks behind the commas. -/
def listTokens (naming : Naming) (selectors : List Complex) : List Token :=
  breakTokens.intercalate (selectors.map (Complex.tokens naming))

theorem listTokens_cons_cons (s other : Complex) (others : List Complex) :
    listTokens naming (s :: other :: others) =
      s.tokens naming ++ ⟨.separator, ","⟩ :: ⟨.descendant, " "⟩ ::
        listTokens naming (other :: others) := by
  simp [listTokens, breakTokens, List.intercalate_cons_cons]

theorem spell_listTokens (selectors : List Complex) : spell (listTokens naming selectors) =
    (SelectorList.text naming ⟨selectors⟩).toList := by
  rw [SelectorList.text, String.toList_intercalate]
  induction selectors with
  | nil => rfl
  | cons s others ih =>
    cases others with
    | nil => simp [listTokens, Complex.spell_tokens]
    | cons other others =>
      rw [listTokens_cons_cons, spell_append, spell_cons, spell_cons, ih, Complex.spell_tokens]
      simp only [List.map_cons, List.intercalate_cons_cons, List.append_assoc]
      rfl

theorem wellCut_listTokens (hne : selectors ≠ []) (hs : ∀ s ∈ selectors, s.Printable naming) :
    WellCut (listTokens naming selectors) ∧ Opens (spell (listTokens naming selectors)) := by
  induction selectors with
  | nil => exact absurd rfl hne
  | cons s others ih =>
    have hfirst := hs s (by simp)
    cases others with
    | nil =>
      have htokens : listTokens naming [s] = s.tokens naming ++ [] := by simp [listTokens]
      rw [htokens]
      exact hfirst.wellCut trivial apart_nil
    | cons other others =>
      obtain ⟨hwell, hopens⟩ := ih (by simp) fun s hmem => hs s (by simp [hmem])
      rw [listTokens_cons_cons]
      apply hfirst.wellCut
      · have hblank : Lexeme .descendant [' '] :=
          Lexeme.descendant (by simp [IsBlanks, isAsciiBlank]) (by simp)
        exact ⟨Lexeme.separator, trivial, hblank, ⟨hopens.blank, hopens.mark⟩, hwell⟩
      · rw [spell_cons]
        exact ⟨stops_cons.mpr (by decide), stops_cons.mpr (by decide)⟩

/-- The blanks behind the commas are set aside, and the rest writes the list. -/
theorem ofTokens_listTokens (hne : selectors ≠ []) (hs : ∀ s ∈ selectors, s.Printable naming) :
    SelectorList.ofTokens (keep true (listTokens naming selectors)) = .ok ⟨selectors⟩ := by
  induction selectors with
  | nil => exact absurd rfl hne
  | cons s others ih =>
    have hfirst := hs s (by simp)
    cases others with
    | nil =>
      have htokens : listTokens naming [s] = s.tokens naming := by simp [listTokens]
      rw [htokens, hfirst.keep_tokens, hfirst.ofTokens_tokens]
    | cons other others =>
      have hrest := ih (by simp) fun s hmem => hs s (by simp [hmem])
      have hkeep : keep true (listTokens naming (s :: other :: others)) = s.tokens naming ++
          ⟨.separator, ","⟩ :: keep true (listTokens naming (other :: others)) := by
        rw [listTokens_cons_cons, keep_append_cons (by simp), hfirst.keep_tokens]
        rfl
      rw [hkeep, SelectorList.ofTokens_append_separator rfl, hfirst.ofTokens_tokens, hrest]
      rfl

/-- Compiling undoes printing. -/
theorem SelectorList.parse_text (h : l.Printable naming) :
    SelectorList.parse (l.text naming) = .ok l := by
  have hcut := cutAll_spell (wellCut_listTokens h.ne_nil h.selectors).1
  rw [spell_listTokens] at hcut
  rw [SelectorList.parse, tokenize_of_cutAll hcut]
  exact ofTokens_listTokens h.ne_nil h.selectors

/-- Links are written `:any-link`, and states that never hold `:hover`. -/
def anyLink : Naming where
  link := "any-link"
  never := "hover"
  link_eq := rfl
  never_eq := rfl

def menuSelectors : SelectorList where
  selectors := [
    { compounds := [⟨some "ul", false, []⟩,
        ⟨some "li", false, [.test (.className "item"), .negation ⟨some "p", false, [.never]⟩,
          .test (.position ⟨-2, 3, false, false⟩)]⟩]
      combinators := [.child] },
    { compounds := [⟨none, true, []⟩,
        ⟨some "a", false, [.test .link, .test (.attrValue "href" .starts "http"),
          .test (.lang "en")]⟩]
      combinators := [.nextSibling] }]

theorem isName_of_self {name : List Char} (h : splitName name = some (name, [])) : IsName name :=
  (isName_of_splitName h).1

theorem printable_of_tag {τ : Type} {printable : τ → Prop} {tag : String} {tests : List τ}
    (hname : splitName tag.toList = some (tag.toList, [])) (hlower : lower tag = tag)
    (htests : ∀ test ∈ tests, printable test) :
    Compound.Printable printable ⟨some tag, false, tests⟩ where
  asks := rfl
  tag := by
    intro other hother
    obtain rfl := Option.some.inj hother
    exact ⟨isName_of_self hname, hlower, rfl⟩
  tests := htests

theorem printable_menuSelectors : menuSelectors.Printable anyLink where
  ne_nil := by simp [menuSelectors]
  selectors := by
    simp only [menuSelectors, List.forall_mem_cons, List.not_mem_nil, false_imp_iff, implies_true,
      and_true]
    constructor
    · refine ⟨rfl, ?_⟩
      simp only [List.forall_mem_cons, List.not_mem_nil, false_imp_iff, implies_true, and_true]
      refine ⟨printable_of_tag (by decide) (by cbv) (by simp), ?_⟩
      apply printable_of_tag (by decide) (by cbv)
      simp only [List.forall_mem_cons, List.not_mem_nil, false_imp_iff, implies_true, and_true]
      have hstate : Compound.Printable Test.Printable ⟨some "p", false, [.never]⟩ :=
        printable_of_tag (by decide) (by cbv) (by simp [Test.Printable])
      exact ⟨isName_of_self (by decide), ⟨hstate, by decide⟩, by decide, by decide⟩
    · refine ⟨rfl, ?_⟩
      simp only [List.forall_mem_cons, List.not_mem_nil, false_imp_iff, implies_true, and_true]
      refine ⟨⟨rfl, by simp, by simp⟩, ?_⟩
      apply printable_of_tag (by decide) (by cbv)
      simp only [List.forall_mem_cons, List.not_mem_nil, false_imp_iff, implies_true, and_true]
      exact ⟨trivial, ⟨isName_of_self (by decide), by decide⟩, by decide, by cbv, by decide⟩

theorem parse_text_menuSelectors : menuSelectors.Printable anyLink ∧
    menuSelectors.text anyLink =
      "ul > li.item:not(p:hover):nth-child(-2n+3), * ~ a:any-link[href^=\"http\"]:lang(\"en\")" ∧
    SelectorList.parse
      "ul > li.item:not(p:hover):nth-child(-2n+3), * ~ a:any-link[href^=\"http\"]:lang(\"en\")" =
        .ok menuSelectors := by
  have htext : menuSelectors.text anyLink =
      "ul > li.item:not(p:hover):nth-child(-2n+3), * ~ a:any-link[href^=\"http\"]:lang(\"en\")" :=
    by cbv
  have hparse := SelectorList.parse_text printable_menuSelectors
  rw [htext] at hparse
  exact ⟨printable_menuSelectors, htext, hparse⟩

end Topiary.Query
